import Datebook.Operation.Create
import Datebook.Slot

/-!
This module contains the commands that only look: listings, searches, busy periods and free slots,
and the lists of calendars and colors.
-/

namespace Datebook.Operation

variable [Host]

def listArgs (prefs : Preferences) (now : Instant) (params : Fields) : Except Fault Fields := do
  let window ← prefs.listingWindow now params prefs.listHorizon
  let calendarId ← prefs.calendarOf params
  .ok (("calendarId", .text calendarId) :: window.toArgs)

def list (prefs : Preferences) (now : Instant) (params : Fields) : Plan Value :=
  .ask "list-events" (listArgs prefs now params) fun raw => Reply.normalize .list raw none none

def searchArgs (calendarId query : String) (window : Window) : Fields :=
  ("calendarId", .text calendarId) :: ("query", .text query) :: window.toArgs

def queryArgs (prefs : Preferences) (now : Instant) (params : Fields) : Except Fault Fields := do
  let query ← Field.required (Command.param params ["query", "searchQuery", "search"]) "query"
  let window ← prefs.listingWindow now params prefs.searchHorizon
  let calendarId ← prefs.calendarOf params
  .ok (searchArgs calendarId query window)

def search (prefs : Preferences) (now : Instant) (params : Fields) : Plan Value :=
  .ask "search-events" (queryArgs prefs now params) fun raw => Reply.normalize .search raw none none

def freeBusyArgs (ids : List String) (window : Window) : Fields :=
  ("calendars", .list (ids.map fun id => .map [("id", .text id)])) :: window.toArgs

def busyArgs (prefs : Preferences) (now : Instant) (params : Fields) : Except Fault Fields := do
  let calendarId ← prefs.calendarOf params
  let ids ← Field.calendars (Command.param params ["calendars"]) calendarId
  let window ← prefs.listingWindow now params prefs.freeBusyHorizon
  .ok (freeBusyArgs ids window)

def busyData (detailed : Bool) (raw : Value) : Except Fault Value := do
  let reply ← Reply.ofValue raw
  reply.freeBusyData detailed

def freeBusy (prefs : Preferences) (now : Instant) (params : Fields) : Plan Value :=
  .ask "get-freebusy" (busyArgs prefs now params) (busyData prefs.detailed)

structure Inquiry where
  minutes : Value
  calendarId : String
  window : Window
  deriving BEq, Repr

def Inquiry.ofParams (prefs : Preferences) (now : Instant) (params : Fields) :
    Except Fault Inquiry := do
  let minutes ← Field.duration (Command.param params ["duration", "durationMinutes"]) prefs.duration
  let calendarId ← prefs.calendarOf params
  let window ← prefs.listingWindow now params prefs.availabilityHorizon
  .ok ⟨minutes, calendarId, window⟩

/--
The busy periods of a calendar in a reply. A reply that speaks of one calendar only is taken to mean
the one asked for.
-/
def busyOf (id : String) (calendars : Reply.FreeBusy) : Except BackendFault (List Reply.Period) :=
  match calendars.lookup id, calendars with
  | some periods, _ => .ok periods
  | none, [(_, periods)] => .ok periods
  | none, _ => .error (.noFreeBusy id)

def slotsOf (detailed : Bool) (inquiry : Inquiry) (reply : Reply) : Except Fault Value := do
  let calendars ← reply.freeBusy detailed
  let busy ← (busyOf inquiry.calendarId calendars).mapError .backend
  let busyRecords := busy.map fun p => Value.map p.toRecord
  let slots ← Slot.find (.text inquiry.window.start) (.text inquiry.window.finish)
    (.list busyRecords) inquiry.minutes
  let records := slots.map fun s => Value.map s.toRecord
  .ok <| .map
    [("availableSlots", .list records), ("busySlots", .list busyRecords),
     ("durationMinutes", inquiry.minutes), ("nextSlot", records.head?.getD .null)]

def slotsData (detailed : Bool) (inquiry : Inquiry) (raw : Value) : Except Fault Value := do
  let reply ← Reply.ofValue raw
  slotsOf detailed inquiry reply

def availability (prefs : Preferences) (now : Instant) (params : Fields) : Plan Value :=
  match Inquiry.ofParams prefs now params with
  | .error e => .done (.error e)
  | .ok inquiry =>
    .invoke "get-freebusy" (freeBusyArgs [inquiry.calendarId] inquiry.window) fun raw =>
      .done (slotsData prefs.detailed inquiry raw)

def zoneArgs (prefs : Preferences) (params : Fields) : Except Fault Fields :=
  match Preferences.zoneParam params with
  | .null => .ok []
  | v => do
    let zone ← Zone.resolve v prefs.zone
    .ok [("timeZone", .text zone)]

def lookUp (kind : Kind) (operation : String) (prefs : Preferences) (params : Fields) : Plan Value :=
  .ask operation (zoneArgs prefs params) fun raw => Reply.normalize kind raw none none

end Datebook.Operation
