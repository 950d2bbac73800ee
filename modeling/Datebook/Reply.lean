import Datebook.Calendar
import Datebook.Command

/-!
This module contains replies of a calendar service: what a raw reply amounts to, and the canonical
data that each kind of command makes of it.
-/

namespace Datebook

inductive Reply where
  | empty
  | prose (text : String)
  | structured (payload : Value) (message : Option String)
  deriving Repr

namespace Reply

variable [Host]

def wrapperKeys : List String := ["message", "success", "status"]

def failureDetail (fields : Fields) : Value :=
  let error := match Fields.get fields "error" with
    | .map inner => Fields.get inner "message"
    | v => v
  (error.orElse (Fields.get fields "message")).orElse
    (.text "Calendar backend rejected the request")

def reportsFailure (fields : Fields) : Bool :=
  match Fields.get fields "success" with
  | .bool false => true
  | _ => (Fields.get fields "error").isTruthy

def messageOf (fields : Fields) : Option String :=
  match Fields.get fields "message" with
  | .text s => Listing.nonempty? (Text.strip s)
  | _ => none

def ofText (s : String) : Reply :=
  if Text.isBlankText s then empty else prose (Text.strip s)

def rejection (detail : Value) : Fault :=
  match detail.flaw? with
  | none => .backend (.rejected detail.shown)
  | some flaw => .crash (.unshown flaw)

/--
What a raw reply amounts to. A report of failure is a fault of the service.
-/
def ofValue (raw : Value) : Except Fault Reply :=
  match raw with
  | .null => .ok empty
  | .text s => .ok (ofText s)
  | .map fields =>
    if reportsFailure fields then .error (rejection (failureDetail fields))
    else if fields.any fun field => !wrapperKeys.contains field.1 then
      .ok (structured raw (messageOf fields))
    else
      match messageOf fields with
      | none => .ok empty
      | some message => .ok (prose message)
  | .list items => .ok (if items.isEmpty then empty else structured raw none)
  | v =>
    match v.flaw? with
    | none => .ok (prose v.shown)
    | some flaw => .error (.crash (.unshown flaw))

def messageField (message : Option String) : Fields :=
  match message with
  | none => []
  | some s => if s = "" then [] else [("message", .text s)]

def message? : Reply → Option String
  | empty => none
  | prose text => some text
  | structured _ message => message

/--
The list of records in a payload: the payload itself, or the first list under one of the keys.
-/
def recordsOf (payload : Value) (keys : List String) : Option (List Value) :=
  match payload with
  | .list items => some items
  | .map fields => keys.findSome? fun key => (Fields.get fields key).items?
  | _ => none

def eventsOfRecords : List Value → Except Fault (List Event)
  | [] => .ok []
  | .map record :: rest => do
    let event ← Event.readable? (Event.ofRecord record)
    let events ← eventsOfRecords rest
    .ok (event.toList ++ events)
  | _ :: rest => eventsOfRecords rest

/--
The value that may be the one event of a payload: what stands under `event`, or the payload itself.
-/
def candidate : Value → Value
  | .map fields =>
    if Fields.has fields "event" then Fields.get fields "event" else .map fields
  | v => v

def singleEvent (payload : Value) : Except Fault (Option Event) :=
  match candidate payload with
  | .map record => Event.readable? (Event.ofRecord record)
  | _ => .ok none

def event : Reply → Except Fault (Option Event)
  | empty => .ok none
  | prose text => (Listing.events text).map (·.head?)
  | structured payload _ => singleEvent payload

def events : Reply → Except Fault (List Event)
  | empty => .ok []
  | prose text => Listing.events text
  | structured payload message =>
    match recordsOf payload ["events", "items"] with
    | some records => eventsOfRecords records
    | none =>
      match message with
      | none => .ok []
      | some message => Listing.events message

def calendarsOfRecords : List Value → Except Fault (List Calendar)
  | [] => .ok []
  | .map record :: rest => do
    let calendar ← Calendar.ofRecord record
    let calendars ← calendarsOfRecords rest
    .ok (calendar.toList ++ calendars)
  | _ :: rest => calendarsOfRecords rest

def calendars : Reply → Except Fault (List Calendar)
  | empty => .ok []
  | prose text => .ok (Calendar.ofListing text)
  | structured payload message =>
    match recordsOf payload ["calendars", "items"] with
    | some records => calendarsOfRecords records
    | none =>
      match message with
      | none => .ok []
      | some message => .ok (Calendar.ofListing message)

structure Period where
  start : String
  finish : String
  deriving DecidableEq, Repr

def Period.toRecord (p : Period) : Fields :=
  [("start", .text p.start), ("end", .text p.finish)]

def Period.ofRecord (record : Fields) : Except Fault Period := do
  let start ← EventTime.read (Fields.get record "start")
  let finish ← EventTime.read (Fields.get record "end")
  .ok ⟨start, finish⟩

/--
The period of a record, if it has readable times. A detailed log notes a record without them, which
therefore must not be nested too deeply.
-/
def Period.readable? (detailed : Bool) (record : Fields) : Except Fault (Option Period) := do
  let period ← Event.readable? (Period.ofRecord record)
  if detailed ∧ period.isNone ∧ (Value.map record).isTooDeep then
    .error (.crash (.unshown .tooDeep))
  else .ok period

def periodsOfRecords (detailed : Bool) : List Value → Except Fault (List Period)
  | [] => .ok []
  | .map record :: rest => do
    let period ← Period.readable? detailed record
    let periods ← periodsOfRecords detailed rest
    .ok (period.toList ++ periods)
  | _ :: rest => periodsOfRecords detailed rest

/--
The periods that a value lists. A text and a map have items, but no period among them; a value that
is given and has no items cannot be gone through.
-/
def periods (detailed : Bool) (v : Value) : Except Fault (List Period) :=
  if !v.isTruthy then .ok []
  else
    match v with
    | .list items => periodsOfRecords detailed items
    | .text _ | .map _ => .ok []
    | _ => .error (.crash .notIterable)

abbrev FreeBusy := List (String × List Period)

def freeBusyOf (detailed : Bool) : Fields → Except Fault FreeBusy
  | [] => .ok []
  | (id, entry) :: rest => do
    let busy := match entry with
      | .map fields => Fields.get fields "busy"
      | _ => .null
    let periods ← periods detailed busy
    let others ← freeBusyOf detailed rest
    .ok ((id, periods) :: others)

def calendarEntries (payload : Fields) : Fields :=
  let source := match Fields.get payload "freebusy" with
    | .map inner => inner
    | _ => payload
  match Fields.get source "calendars" with
  | .map entries => entries
  | _ => []

def freeBusy (detailed : Bool) : Reply → Except Fault FreeBusy
  | structured (.map payload) _ => freeBusyOf detailed (calendarEntries payload)
  | _ => .ok []

/--
The words that a free/busy reply carries into its data; those that came with a list are dropped.
-/
def freeBusyMessage : Reply → Option String
  | structured (.map _) message => message
  | prose text => some text
  | _ => none

def freeBusyRecord (calendars : FreeBusy) : Value :=
  .map <| calendars.map fun (id, periods) =>
    (id, .map [("busy", .list (periods.map fun p => .map p.toRecord))])

/--
The data of an event that was created or changed. Where the reply describes none it is the event that
was asked for.
-/
def eventData (reply : Reply) (requested : Option Event) : Except Fault Value := do
  let found ← reply.event
  let field := match found.or requested with
    | none => []
    | some e => [("event", Value.map e.toRecord)]
  .ok (.map (field ++ messageField reply.message?))

def eventsData (reply : Reply) : Except Fault Value := do
  let events ← reply.events
  .ok <| .map <|
    ("events", Value.list (events.map fun e => .map e.toRecord)) :: messageField reply.message?

def deletedId : Reply → Value
  | structured (.map payload) _ => (Fields.get payload "eventId").orElse (Fields.get payload "id")
  | _ => .null

def deletionData (reply : Reply) (target : Option Event) (targetId : Option String) : Value :=
  let known := (targetId.filter (· ≠ "")).or (target.bind (·.id))
  let deleted := match known.filter (· ≠ "") with
    | some id => .text id
    | none =>
      match reply with
      | structured (.map _) _ => reply.deletedId
      | _ => .ofText? known
  let field := match target with
    | none => []
    | some e => [("event", Value.map e.toRecord)]
  .map (("deleted", deleted) :: field ++ messageField reply.message?)

def calendarsData (reply : Reply) : Except Fault Value := do
  let calendars ← reply.calendars
  .ok (.map [("calendars", .list (calendars.map fun c => .map c.toRecord))])

def freeBusyData (reply : Reply) (detailed : Bool) : Except Fault Value := do
  let calendars ← reply.freeBusy detailed
  .ok (.map (("calendars", freeBusyRecord calendars) :: messageField reply.freeBusyMessage))

def plainData : Reply → Value
  | empty => .map []
  | prose text => .map [("message", .text text)]
  | structured payload _ => payload

/--
The data that a kind of command makes of a reply. `requested` is the event that was asked for, and
`targetId` the event that a deletion named.
-/
def data (kind : Kind) (reply : Reply) (requested : Option Event) (targetId : Option String) :
    Except Fault Value :=
  match kind with
  | .create | .update => reply.eventData requested
  | .list | .search => reply.eventsData
  | .delete => .ok (reply.deletionData requested targetId)
  | .listCalendars => reply.calendarsData
  | .freeBusy => reply.freeBusyData false
  | .availability | .listColors | .currentTime => .ok reply.plainData

def normalize (kind : Kind) (raw : Value) (requested : Option Event) (targetId : Option String) :
    Except Fault Value := do
  let reply ← ofValue raw
  reply.data kind requested targetId

end Reply

end Datebook
