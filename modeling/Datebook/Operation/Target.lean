import Datebook.Operation.List

/-!
This module contains the search for the event that a command names by text, and the changes and
deletions that may need it.
-/

namespace Datebook

variable [Host]

namespace Target

/--
The arguments of the search for an event. Without a window it covers the present day of the default
zone, and without a calendar the default calendar.
-/
def searchArgs (prefs : Preferences) (now : Instant) (query : Value) (window : Option Window)
    (calendarId : String) : Except Fault Fields := do
  let query ← Field.required query "searchQuery"
  let window ←
    match window with
    | some window => .ok window
    | none => Window.today prefs.zone now
  let calendarId := if calendarId = "" then prefs.calendarId else calendarId
  .ok (Operation.searchArgs calendarId query window)

def firstNamed : List Event → Except Fault (Option Event)
  | [] => .ok none
  | e :: rest =>
    if (e.id.getD "").isEmpty then firstNamed rest else (Event.ofRecord e.toRecord).map some

/--
The event that the answer to a search names: the first in the service's order with readable times and
an identifier.
-/
def pick (raw : Value) : Except Fault (Option Event) := do
  let reply ← Reply.ofValue raw
  let events ← reply.events
  firstNamed events

/--
The plan to find the event that a text names. There is one search, and its window is never widened.
-/
def find (prefs : Preferences) (now : Instant) (query : Value) (window : Option Window)
    (calendarId : String) : Plan (Option Event) :=
  .ask "search-events" (searchArgs prefs now query window calendarId) pick

end Target

/--
How a command names an event: by identifier and by text; at least one of them is not empty.
-/
structure Address where
  eventId : String
  query : String
  deriving DecidableEq, Repr

namespace Address

def ofParams (params : Fields) : Except Fault Address := do
  let eventId ← Field.text (Command.param params ["eventId", "id"])
  let query ← Field.text (Command.param params ["searchQuery", "query", "search"])
  if eventId = "" ∧ query = "" then .error (.field .noTarget) else .ok ⟨eventId, query⟩

def find (address : Address) (prefs : Preferences) (now : Instant) (params : Fields)
    (calendarId : String) : Plan Event :=
  match prefs.targetWindow now params with
  | .error e => .done (.error e)
  | .ok window =>
    (Target.find prefs now (.text address.query) window calendarId).bind fun found =>
      match found with
      | none => .done (.error (.target (.notFound address.query)))
      | some e =>
        if (e.id.getD "").isEmpty then .done (.error (.target (.notFound address.query)))
        else .done (.ok e)

/--
The identifier of the event that an address names, and the event itself where it had to be searched.
-/
def resolve (address : Address) (prefs : Preferences) (now : Instant) (params : Fields)
    (calendarId : String) : Plan (String × Option Event) :=
  if address.eventId = "" then
    (address.find prefs now params calendarId).bind fun e => .done (.ok (e.id.getD "", some e))
  else .done (.ok (address.eventId, none))

end Address

/--
What is to be changed about an event. A part that is `none`, or an empty text, stays as it is.
-/
structure Changes where
  title : String
  description : String
  location : String
  start : Option String
  finish : Option String
  zone : Option String
  attendees : Option (List String)
  colorId : String
  recurrence : List String
  sendUpdates : String
  deriving DecidableEq, Repr

namespace Changes

def optionalTime (name : String) : Option String → Fields
  | none => []
  | some s => [(name, .text s)]

def eventArgs (c : Changes) : Fields :=
  Operation.optionalArg "summary" c.title ++ Operation.optionalArg "description" c.description
    ++ Operation.optionalArg "location" c.location
    ++ optionalTime "start" c.start ++ optionalTime "end" c.finish
    ++ optionalTime "timeZone" c.zone
    ++ (match c.attendees with
        | none => []
        | some addresses => [("attendees", Operation.attendeeArgs addresses)])
    ++ Operation.optionalArg "colorId" c.colorId
    ++ Operation.optionalList "recurrence" c.recurrence

def toArgs (c : Changes) (calendarId eventId : String) : Fields :=
  [("calendarId", .text calendarId), ("eventId", .text eventId)] ++ c.eventArgs
    ++ Operation.optionalArg "sendUpdates" c.sendUpdates

def orKeep (new old : String) : String :=
  if new = "" then old else new

/--
An event with the changes made. The zone, the recurrence and the notification leave it as it is.
-/
def apply (c : Changes) (e : Event) : Event :=
  { e with
    title := orKeep c.title e.title
    description := orKeep c.description e.description
    location := orKeep c.location e.location
    start := c.start.getD e.start
    finish := c.finish.getD e.finish
    attendees := c.attendees.getD e.attendees
    colorId := if c.colorId = "" then e.colorId else some c.colorId }

def checkBounds : Option String → Option String → Except Fault Unit
  | some start, some finish => checkOrder (.text start) (.text finish)
  | _, _ => .ok ()

def zoneOf (prefs : Preferences) (params : Fields) : Except Fault (Option String) :=
  match Preferences.zoneParam params with
  | .null => .ok none
  | _ => (prefs.zoneOf params).map some

def attendeesOf (params : Fields) : Except Fault (Option (List String)) :=
  match Command.param params ["attendees"] with
  | .null => .ok none
  | v => (Field.attendees v).map some

/--
Read the changes from the parameters of a command. There has to be one, apart from how people are
notified.
-/
def ofParams (prefs : Preferences) (params : Fields) : Except Fault Changes := do
  let param := Command.param params
  let title ← Field.text (param ["title", "summary"])
  let description ← Field.text (param ["description"])
  let location ← Field.text (param ["location"])
  let start ← Operation.optionalTime params "start" "startTime"
  let finish ← Operation.optionalTime params "end" "endTime"
  checkBounds start finish
  let zone ← zoneOf prefs params
  let attendees ← attendeesOf params
  let colorId ← Field.text (param ["colorId"])
  let recurrence ← (Field.recurrence (param ["recurrence"])).mapError Fault.field
  let changes : Changes :=
    { title
      description
      location
      start
      finish
      zone
      attendees
      colorId
      recurrence
      sendUpdates := "" }
  if changes.eventArgs.isEmpty then .error (.field .nothingToChange)
  else do
    let sendUpdates ← Field.text (param ["sendUpdates"])
    .ok { changes with sendUpdates }

def checkAgainst (c : Changes) (target : Option Event) : Except Fault Unit :=
  match target with
  | none => .ok ()
  | some e =>
    if c.start.isSome = c.finish.isSome then .ok ()
    else checkOrder (.text (c.start.getD e.start)) (.text (c.finish.getD e.finish))

end Changes

namespace Operation

def updateInput (prefs : Preferences) (params : Fields) :
    Except Fault (Address × String × Changes) := do
  let address ← Address.ofParams params
  let calendarId ← prefs.calendarOf params
  let changes ← Changes.ofParams prefs params
  .ok (address, calendarId, changes)

def update (prefs : Preferences) (now : Instant) (params : Fields) : Plan Value :=
  match updateInput prefs params with
  | .error e => .done (.error e)
  | .ok (address, calendarId, changes) =>
    (address.resolve prefs now params calendarId).bind fun (eventId, target) =>
      match changes.checkAgainst target with
      | .error e => .done (.error e)
      | .ok () =>
        .invoke "update-event" (changes.toArgs calendarId eventId) fun raw =>
          .done (Reply.normalize .update raw (target.map changes.apply) none)

/--
The arguments with which the service deletes an event. `notified` tells who is notified: everyone,
unless something else is given.
-/
def deleteArgs (calendarId eventId notified : String) : Fields :=
  [("calendarId", .text calendarId), ("eventId", .text eventId),
   ("sendUpdates", .text (if notified = "" then "all" else notified))]

def deleteInput (prefs : Preferences) (params : Fields) :
    Except Fault (Address × String × String) := do
  let address ← Address.ofParams params
  let calendarId ← prefs.calendarOf params
  let notified ← Field.text (Command.param params ["sendUpdates"])
  .ok (address, calendarId, notified)

def delete (prefs : Preferences) (now : Instant) (params : Fields) : Plan Value :=
  match deleteInput prefs params with
  | .error e => .done (.error e)
  | .ok (address, calendarId, notified) =>
    (address.resolve prefs now params calendarId).bind fun (eventId, target) =>
      .invoke "delete-event" (deleteArgs calendarId eventId notified) fun raw =>
        .done (Reply.normalize .delete raw target (some eventId))

end Operation

end Datebook
