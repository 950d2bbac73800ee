import Datebook.Host
import Datebook.Number.Numeral
import Datebook.Value.Show

/-!
This module contains the reading of single fields of a command: texts, e-mail addresses, attendees,
durations, recurrence rules and calendar lists.
-/

namespace Datebook.Field

variable [Host]

/--
The trimmed text of a value; an absent value has the empty text.
-/
def text (v : Value) : Except Fault String :=
  match v with
  | .null => .ok ""
  | v =>
    match v.flaw? with
    | none => .ok (Text.strip v.shown)
    | some flaw => .error (.crash (.unshown flaw))

def nonemptyText? (v : Value) : Except Fault (Option String) := do
  let s ← text v
  .ok (if s = "" then none else some s)

def required (v : Value) (field : String) : Except Fault String :=
  match v with
  | .null => .error (.field (.missing field))
  | v => do
    let s ← text v
    if s = "" then .error (.field (.blank field)) else .ok s

def isDomain (s : List Char) : Bool :=
  s.all (fun c => !Text.isBlank c && c ≠ '@') && (s.drop 1).dropLast.contains '.'

/--
Whether a text without a line feed at its end is an address: a name without blanks, the sign `@`
once, and a domain.
-/
def isAddressBody (s : List Char) : Bool :=
  let name := s.takeWhile (· ≠ '@')
  match s.dropWhile (· ≠ '@') with
  | [] => false
  | _ :: domain => !name.isEmpty && name.all (fun c => !Text.isBlank c) && isDomain domain

/--
Whether a text is an e-mail address. One line feed may end it.
-/
def isAddress (s : String) : Bool :=
  let s := s.toList
  isAddressBody (if s.getLast? = some '\n' then s.dropLast else s)

/--
The values that may name an attendee: the parts of a text between commas, a map, or the items of a
list.
-/
def attendeeCandidates : Value → Except FieldFault (List Value)
  | .text s => .ok ((Text.parts ',' s.toList).map fun part => Value.text (String.ofList part))
  | .map fields => .ok [.map fields]
  | .list items => .ok items
  | _ => .error .attendeesShape

def attendeeText : Value → Except Fault String
  | .map fields => text (Fields.get fields "email")
  | v => text v

/--
Collect addresses in the order of their first occurrence, each once. Blank candidates are passed
over, and the first that is no address is refused.
-/
def collectAddresses (collected : List String) : List Value → Except Fault (List String)
  | [] => .ok collected
  | v :: rest =>
    match attendeeText v with
    | .error e => .error e
    | .ok s =>
      if s = "" then collectAddresses collected rest
      else if !isAddress s then .error (.field (.address s))
      else if s ∈ collected then collectAddresses collected rest
      else collectAddresses (collected ++ [s]) rest

def attendees : Value → Except Fault (List String)
  | .null => .ok []
  | v =>
    match attendeeCandidates v with
    | .error e => .error (.field e)
    | .ok candidates => collectAddresses [] candidates

def minDuration : Int := 1

def maxDuration : Int := 1440

/--
The number of minutes that a value stands for, cut toward zero. An infinite number has none, which
no stage reports.
-/
def minutes : Value → Except Fault Int
  | .int i => .ok i
  | .float (.infinite _) => .error (.crash (.length .tooLong))
  | .float x =>
    match x.truncate? with
    | some i => .ok i
    | none => .error (.field .durationShape)
  | .text s =>
    match Numeral.int? s with
    | some i => .ok i
    | none => .error (.field .durationShape)
  | _ => .error (.field .durationShape)

/--
A duration in whole minutes, between one and a day; an absent value stands for the default, which is
taken as it is.
-/
def duration (v default : Value) : Except Fault Value :=
  if v.isAbsent then .ok default
  else
    match minutes v with
    | .error e => .error e
    | .ok n =>
      if minDuration ≤ n ∧ n ≤ maxDuration then .ok (.int n) else .error (.field .durationRange)

def texts? : List Value → Option (List String)
  | [] => some []
  | .text s :: rest => (texts? rest).map (s :: ·)
  | _ :: _ => none

/--
The recurrence rules of an event: a text or a list of texts, trimmed, without the blank ones.
-/
def recurrence (v : Value) : Except FieldFault (List String) :=
  let rules := match v with
    | .null => some []
    | .text s => some [s]
    | .list items => texts? items
    | _ => none
  match rules with
  | none => .error .recurrenceShape
  | some rules => .ok ((rules.map Text.strip).filter (· ≠ ""))

def calendarText : Value → Except Fault String
  | .map fields => text (Fields.get fields "id")
  | v => text v

/--
The texts of a list without the empty ones, each once, in the order of their first occurrence.
-/
def distinctTexts (collected : List String) : List String → List String
  | [] => collected
  | s :: rest =>
    if s = "" ∨ s ∈ collected then distinctTexts collected rest
    else distinctTexts (collected ++ [s]) rest

def calendars (v : Value) (default : String) : Except Fault (List String) :=
  let items := match v with
    | .null => some []
    | .text s => some ((Text.parts ',' s.toList).map fun part => Value.text (String.ofList part))
    | .list items => some items
    | _ => none
  match items with
  | none => .error (.field .calendarsShape)
  | some items => do
    let ids := distinctTexts [] (← items.mapM calendarText)
    .ok (if ids.isEmpty then [default] else ids)

end Datebook.Field
