import Datebook.Time.LongDate
import Datebook.Field

/-!
This module contains events and the records in which they are exchanged.
-/

namespace Datebook

/--
An event. Its times are canonical timestamps.
-/
structure Event where
  title : String
  start : String
  finish : String
  id : Option String := none
  description : String := ""
  location : String := ""
  attendees : List String := []
  colorId : Option String := none
  status : Option String := none
  link : Option String := none
  calendarId : Option String := none
  deriving DecidableEq, Repr

namespace Event

def untitled : String := "Untitled Event"

def optionalField (name : String) : Option String → Fields
  | none => []
  | some s => [(name, .text s)]

def toRecord (e : Event) : Fields :=
  [("id", .ofText? e.id), ("title", .text e.title), ("description", .text e.description),
   ("start", .text e.start), ("end", .text e.finish), ("location", .text e.location),
   ("attendees", .list (e.attendees.map .text))]
    ++ optionalField "colorId" e.colorId ++ optionalField "status" e.status
    ++ optionalField "htmlLink" (e.link.filter (· ≠ "")) ++ optionalField "calendarId" e.calendarId

variable [Host]

def attendeeText : Value → Except Fault String
  | .map fields => Field.text (Fields.get fields "email")
  | v => Field.text v

def attendeeTexts : Value → Except Fault (List String)
  | .list items => do .ok (Field.distinctTexts [] (← items.mapM attendeeText))
  | _ => .ok []

def ofRecord (record : Fields) : Except Fault Event := do
  let get := Fields.get record
  let id ← Field.nonemptyText? ((get "id").orElse (get "eventId"))
  let title ← Field.nonemptyText? ((get "summary").orElse (get "title"))
  let description ← Field.text (get "description")
  let start ← EventTime.read (get "start")
  let finish ← EventTime.read (get "end")
  let location ← Field.text (get "location")
  let attendees ← attendeeTexts (get "attendees")
  let colorId ← Field.nonemptyText? (get "colorId")
  let status ← Field.nonemptyText? (get "status")
  let link ← Field.nonemptyText? (get "htmlLink")
  let calendarId ← Field.nonemptyText? (get "calendarId")
  .ok
    { title := title.getD untitled
      start
      finish
      id
      description
      location
      attendees
      colorId
      status
      link
      calendarId }

/--
What a reading gives, with an unreadable date counted as nothing. Other faults stay faults.
-/
def readable? {α : Type} : Except Fault α → Except Fault (Option α)
  | .ok a => .ok (some a)
  | .error (.date _) => .ok none
  | .error e => .error e

end Event

end Datebook
