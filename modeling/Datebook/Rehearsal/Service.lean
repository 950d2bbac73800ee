import Datebook.Backend

/-!
This module contains a calendar service that plays prepared answers, for rehearsing commands without
a real service.
-/

namespace Datebook.Rehearsal

/--
A prepared answer. If `drops` is set the connection is lost before the answer comes.
-/
structure Answer where
  answer : Except Fault Value
  drops : Bool

/--
The answers prepared for each operation. The last answer of an operation repeats.
-/
abbrev Script := List (String × List Answer)

def Script.next (operation : String) : Script → Answer × Script
  | [] => (⟨.ok .null, false⟩, [])
  | (name, answers) :: rest =>
    if name = operation then
      match answers with
      | [] => (⟨.ok .null, false⟩, (name, []) :: rest)
      | [last] => (last, (name, [last]) :: rest)
      | answer :: more => (answer, (name, more) :: rest)
    else
      let (answer, rest) := Script.next operation rest
      (answer, (name, answers) :: rest)

def Script.prepare (script : Script) (operation : String) (answers : List Answer) : Script :=
  (operation, answers) :: script.filter fun entry => entry.1 ≠ operation

structure Service where
  connected : Bool
  available : Bool
  connects : Nat
  script : Script

/--
The rehearsed service as a backend. A call without a connection fails.
-/
def service : Backend Service where
  isConnected s := s.connected
  connect s := (s.available, { s with connects := s.connects + 1, connected := s.available })
  call s operation _ :=
    if s.connected then
      let (answer, script) := s.script.next operation
      (answer.answer, { s with script, connected := !answer.drops })
    else (.error (.backend (.unavailableBecause "not connected")), s)

def monotone (answer : Value) : Backend Unit where
  isConnected _ := true
  connect _ := (true, ())
  call _ _ _ := (.ok answer, ())

def listing (start : String) : Value :=
  .map
    [("events", .list
      [.map
        [("id", .text "e1"), ("summary", .text "Standup"), ("start", .text start),
         ("end", .text "2025-08-20T10:15:00Z")]])]

/--
A service that is always connected, finds one event and answers everything else in the way given.
-/
def finding (reply : Value) : Backend Unit where
  isConnected _ := true
  connect _ := (true, ())
  call _ operation _ :=
    (.ok (if operation = "search-events" then listing "2025-08-20T10:00:00Z" else reply), ())

/--
A reply that lists an event without a readable start and one without an identifier before another.
-/
def crowd : Value :=
  .map
    [("events", .list
      [.map
        [("id", .text "e7"), ("start", .text "whenever"), ("end", .text "2025-08-20T09:15:00Z")],
       .map
        [("summary", .text "Standup"), ("start", .text "2025-08-20T09:00:00Z"),
         ("end", .text "2025-08-20T09:15:00Z")],
       .map
        [("id", .text " e1 "), ("start", .map [("dateTime", .text "2025-08-20T15:30:00+05:30")]),
         ("end", .text "2025-08-20T10:15:00Z")]])]

def refusal (detail : Value) : Value :=
  .map [("success", .bool false), ("message", detail)]

def preferences : Preferences :=
  { zone := "Asia/Kolkata"
    calendarId := "primary"
    listHorizon := 7 * Instant.day
    searchHorizon := 30 * Instant.day
    availabilityHorizon := 7 * Instant.day
    freeBusyHorizon := 7 * Instant.day
    duration := .int 60 }

def morning : Instant := 63891268200000000

def farStart : String :=
  "Wed Aug 20 2025 15:00:00 GMT+9900"

/--
A record of one event in a listing, with its number, its identifier and the text given for its start.
-/
def record (number id start : String) : String :=
  number ++ ". Event: Standup\nEvent ID: " ++ id ++ "\nStart: " ++ start
    ++ "\nEnd: 2025-08-20T10:15:00Z"

def standup (id : String) : Event :=
  { title := "Standup"
    start := "2025-08-20T10:00:00.000Z"
    finish := "2025-08-20T10:15:00.000Z"
    id := some id }

def inspection : String :=
  "\x7b\"kind\": \"list\"\x7d"

def postponement : String :=
  "\x7b\"kind\": \"update\", \"query\": \"standup\", \"start\": \"2025-08-21\"\x7d"

def retitling : Command :=
  { kind := .update
    params := [("query", .text "standup"), ("title", .text "Retrospective")]
    message := "" }

def delaying : Command :=
  { kind := .update
    params := [("query", .text "standup"), ("start", .text "2025-08-21")]
    message := "" }

/--
A command that would let an event end a day before it starts, with a title that is a value of any
kind.
-/
def inverting (title : Value) : Command :=
  { kind := .update
    params :=
      [("query", .text "standup"), ("start", .text "2025-08-21"), ("end", .text "2025-08-20"),
       ("title", title)]
    message := "" }

def palette : Command :=
  { kind := .listColors
    params := []
    message := "" }

def occupied (start finish : String) : Value :=
  .map
    [("calendars", .map
      [("primary", .map
        [("busy", .list [.map [("start", .text start), ("end", .text finish)]])])])]

def vacancy : Command :=
  { kind := .availability
    params := [("timeMin", .text "2025-08-20T09:00:00Z"), ("timeMax", .text "2025-08-20T17:00:00Z")]
    message := "" }

def rehearse [Host] (start text : String) : Run Unit (Except Crash Outcome) :=
  (monotone (listing start)).handle preferences morning text ()

end Datebook.Rehearsal
