import Datebook.Plan
import Datebook.Preferences
import Datebook.Reply

/-!
This module contains the creation of events.
-/

namespace Datebook

namespace Operation

def attendeeArgs (addresses : List String) : Value :=
  .list (addresses.map fun address => .map [("email", .text address)])

def optionalArg (name text : String) : Fields :=
  if text = "" then [] else [(name, .text text)]

def optionalList (name : String) (texts : List String) : Fields :=
  if texts.isEmpty then [] else [(name, .list (texts.map .text))]

def requiredTime (params : Fields) (name other : String) : Except Fault String :=
  match Command.param params [name, other] with
  | .null => .error (.field (.missing name))
  | v => (Timestamp.normalize v).mapError .date

def optionalTime (params : Fields) (name other : String) : Except Fault (Option String) :=
  match Command.param params [name, other] with
  | .null => .ok none
  | v =>
    match Timestamp.normalize v with
    | .error e => .error (.date e)
    | .ok s => .ok (some s)

end Operation

structure Draft where
  event : Event
  calendarId : String
  zone : String
  recurrence : List String
  deriving DecidableEq, Repr

namespace Draft

variable [Host]

def ofParams (prefs : Preferences) (params : Fields) : Except Fault Draft := do
  let param := Command.param params
  let title ← Field.required (param ["title", "summary"]) "title"
  let start ← Operation.requiredTime params "start" "startTime"
  let finish ← Operation.requiredTime params "end" "endTime"
  checkOrder (.text start) (.text finish)
  let calendarId ← prefs.calendarOf params
  let zone ← prefs.zoneOf params
  let description ← Field.text (param ["description"])
  let location ← Field.text (param ["location"])
  let attendees ← Field.attendees (param ["attendees"])
  let colorId ← Field.nonemptyText? (param ["colorId"])
  let recurrence ← (Field.recurrence (param ["recurrence"])).mapError .field
  .ok
    { event :=
        { title
          start
          finish
          description
          location
          attendees
          colorId
          calendarId := some calendarId }
      calendarId
      zone
      recurrence }

def toArgs (d : Draft) : Fields :=
  [("calendarId", .text d.calendarId), ("summary", .text d.event.title),
   ("description", .text d.event.description), ("start", .text d.event.start),
   ("end", .text d.event.finish), ("timeZone", .text d.zone)]
    ++ Operation.optionalArg "location" d.event.location
    ++ (if d.event.attendees.isEmpty then []
        else [("attendees", Operation.attendeeArgs d.event.attendees)])
    ++ Operation.optionalArg "colorId" (d.event.colorId.getD "")
    ++ Operation.optionalList "recurrence" d.recurrence

end Draft

def Operation.create [Host] (prefs : Preferences) (params : Fields) : Plan Value :=
  match Draft.ofParams prefs params with
  | .error e => .done (.error e)
  | .ok draft =>
    .invoke "create-event" draft.toArgs fun raw =>
      .done (Reply.normalize .create raw (some draft.event) none)

end Datebook
