import Datebook.Operation.Target

/-!
This module contains the catalog of commands: what each is for, which parameters it takes, and the
plan that carries it out.
-/

namespace Datebook

/--
An entry of the catalog. `operation` is what the service calls it.
-/
structure Entry where
  kind : Kind
  description : String
  operation : Option String := none
  required : List String := []
  optional : List String := []
  deriving DecidableEq, Repr

def Entry.toRecord (e : Entry) : Fields :=
  [("kind", .text e.kind.name), ("description", .text e.description),
   ("required", .list (e.required.map .text)), ("optional", .list (e.optional.map .text))]

abbrev Catalog := List Entry

inductive CatalogFault where
  | registered (kind : Kind)
  | unregistered (kind : Kind)
  deriving DecidableEq, Repr

def CatalogFault.message : CatalogFault → String
  | registered kind => "Calendar operation '" ++ kind.name ++ "' is already registered."
  | unregistered kind => "Calendar operation '" ++ kind.name ++ "' is not registered."

namespace Catalog

def find (catalog : Catalog) (kind : Kind) : Except CatalogFault Entry :=
  match List.find? (fun e => e.kind = kind) catalog with
  | some e => .ok e
  | none => .error (.unregistered kind)

def register (catalog : Catalog) (entry : Entry) : Except CatalogFault Catalog :=
  if catalog.any fun e => e.kind = entry.kind then .error (.registered entry.kind)
  else .ok (catalog ++ [entry])

def remove (catalog : Catalog) (kind : Kind) : Catalog :=
  catalog.filter fun e => e.kind ≠ kind

def standard : Catalog :=
  let window := ["timeMin", "timeMax", "timeZone", "calendarId"]
  [{ kind := .create
     operation := some "create-event"
     description := "Create a calendar event."
     required := ["title", "start", "end"]
     optional := ["description", "location", "attendees", "calendarId", "timeZone", "colorId",
       "recurrence"] },
   { kind := .list
     operation := some "list-events"
     description := "List events in a time window (defaults to the next week)."
     optional := window },
   { kind := .search
     operation := some "search-events"
     description := "Search events by text (defaults to the next month)."
     required := ["query"]
     optional := window },
   { kind := .update
     operation := some "update-event"
     description := "Change an event found by eventId or by searchQuery (searched today by default)."
     required := ["eventId|searchQuery"]
     optional := ["title", "description", "location", "start", "end", "timeZone", "attendees",
       "colorId", "recurrence", "calendarId", "searchTimeMin", "searchTimeMax"] },
   { kind := .delete
     operation := some "delete-event"
     description := "Delete an event found by eventId or by searchQuery (searched today by default)."
     required := ["eventId|searchQuery"]
     optional := ["calendarId", "sendUpdates", "searchTimeMin", "searchTimeMax"] },
   { kind := .freeBusy
     operation := some "get-freebusy"
     description := "Busy periods for one or more calendars (defaults to the next week)."
     optional := "calendars" :: window },
   { kind := .availability
     operation := some "get-freebusy"
     description := "Free slots of at least `duration` minutes (default 60) in a window (defaults to the next week)."
     optional := "duration" :: window },
   { kind := .listCalendars
     operation := some "list-calendars"
     description := "List the user's calendars."
     optional := ["timeZone"] },
   { kind := .listColors
     operation := some "list-colors"
     description := "List event color ids."
     optional := ["timeZone"] },
   { kind := .currentTime
     operation := some "get-current-time"
     description := "Current date and time, optionally in a given zone."
     optional := ["timeZone"] }]

end Catalog

variable [Host]

def Kind.plan (kind : Kind) (prefs : Preferences) (now : Instant) (params : Fields) : Plan Value :=
  match kind with
  | .create => Operation.create prefs params
  | .list => Operation.list prefs now params
  | .search => Operation.search prefs now params
  | .update => Operation.update prefs now params
  | .delete => Operation.delete prefs now params
  | .freeBusy => Operation.freeBusy prefs now params
  | .availability => Operation.availability prefs now params
  | .listCalendars => Operation.lookUp .listCalendars "list-calendars" prefs params
  | .listColors => Operation.lookUp .listColors "list-colors" prefs params
  | .currentTime => Operation.lookUp .currentTime "get-current-time" prefs params

/--
The plan that carries out a command. A detailed log notes the parameters first, which therefore must
not be nested too deeply.
-/
def Command.plan (prefs : Preferences) (now : Instant) (command : Command) : Plan Value :=
  if prefs.detailed ∧ (Value.map command.params).isTooDeep then
    .done (.error (.crash (.unshown .tooDeep)))
  else command.kind.plan prefs now command.params

end Datebook
