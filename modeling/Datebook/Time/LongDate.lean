import Datebook.Time.Timestamp

/-!
This module contains long dates, such as `Wed Aug 20 2025 15:00:00 GMT+0530 (India Standard Time)`,
and the times of events, which may be written either way.
-/

namespace Datebook

namespace LongDate

def months : List String :=
  ["jan", "feb", "mar", "apr", "may", "jun", "jul", "aug", "sep", "oct", "nov", "dec"]

def isLetter (c : Char) : Bool :=
  ('A' ≤ c && c ≤ 'Z') || ('a' ≤ c && c ≤ 'z')

def threeLetters : List Char → Option (List Char × List Char)
  | a :: b :: c :: rest =>
    if isLetter a && isLetter b && isLetter c then some ([a, b, c], rest) else none
  | _ => none

def blanks : List Char → Option (List Char)
  | [] => none
  | c :: rest => if Text.isBlank c then some (Text.trimStart rest) else none

def skipComma : List Char → List Char
  | ',' :: rest => rest
  | s => s

def shortNumber (s : List Char) : Option (Nat × List Char) :=
  match Timestamp.number 0 2 s with
  | some found => some found
  | none => Timestamp.number 0 1 s

def month (s : List Char) : Option (List Char × List Char) := do
  let (first, rest) ← threeLetters s
  let named := do
    let rest ← blanks (skipComma rest)
    let (second, rest) ← threeLetters rest
    let rest ← blanks rest
    some (second, rest)
  match named with
  | some found => some found
  | none =>
    let rest ← blanks rest
    some (first, rest)

def clock (s : List Char) : Option ((Nat × Nat × Nat) × List Char) :=
  match blanks s with
  | none => some ((0, 0, 0), s)
  | some rest =>
    match shortNumber rest with
    | none => some ((0, 0, 0), s)
    | some (hour, rest) => do
      let rest ← Timestamp.after ':' rest
      let (minute, rest) ← Timestamp.number 0 2 rest
      match rest with
      | ':' :: rest => do
        let (second, rest) ← Timestamp.number 0 2 rest
        some ((hour, minute, second), rest)
      | rest => some ((hour, minute, 0), rest)

/--
The offset, where blanks and `GMT` start it: the flag tells whether it lies behind universal time.
-/
def offset (s : List Char) : Option (Option (Bool × Nat × Nat) × List Char) :=
  match blanks s with
  | some ('G' :: 'M' :: 'T' :: rest) =>
    match rest with
    | mark :: rest' =>
      if mark = '+' ∨ mark = '-' then do
        let (hour, rest') ← Timestamp.number 0 2 rest'
        let (minute, rest') ← Timestamp.number 0 2 rest'
        some (some (mark = '-', hour, minute), rest')
      else some (none, rest)
    | [] => some (none, [])
  | _ => some (none, s)

def isZoneName (s : List Char) : Bool :=
  match s with
  | [] => true
  | s =>
    match blanks s with
    | some ('(' :: rest) => rest.getLast? = some ')' && !rest.contains '\n'
    | _ => false

structure Parts where
  month : List Char
  day : Nat
  year : Nat
  hour : Nat
  minute : Nat
  second : Nat
  offset : Option (Bool × Nat × Nat)
  deriving DecidableEq, Repr

def parts? (s : List Char) : Option Parts := do
  let (month, s) ← month s
  let (day, s) ← shortNumber s
  let s ← blanks (skipComma s)
  let (year, s) ← Timestamp.number 0 4 s
  let ((hour, minute, second), s) ← clock s
  let (offset, s) ← offset s
  if isZoneName s then some ⟨month, day, year, hour, minute, second, offset⟩ else none

def monthNumber? (name : List Char) : Option Nat :=
  let name := String.ofList (name.map Char.toLower)
  (months.idxOf? name).map (· + 1)

/--
The seconds that the clock of a long date is ahead of universal time.
-/
def Parts.ahead (p : Parts) : Int :=
  match p.offset with
  | none => 0
  | some (behind, hour, minute) =>
    let seconds : Int := hour * 3600 + minute * 60
    if behind then -seconds else seconds

def read (text : String) : Except Fault String :=
  match parts? (Text.trim text.toList) with
  | none => .error (.date (.longForm text))
  | some p =>
    match monthNumber? p.month with
    | none => .error (.date (.month text))
    | some month =>
      if 86400 ≤ p.ahead.natAbs then .error (.crash .offsetTooLarge)
      else
        let reading : ClockReading := ⟨⟨p.year, month, p.day⟩, p.hour, p.minute, p.second, 0⟩
        if reading.isReal then
          match Timestamp.ofMoment ⟨reading.toMicros, .fixed p.ahead⟩ with
          | .error e => .error (.date e)
          | .ok t => .ok t.stamp
        else .error (.date (.components text))

end LongDate

namespace EventTime

/--
The value that holds the time of an event: in a map it is the field `dateTime`, or else `date`.
-/
def source : Value → Value
  | .map fields => (Fields.get fields "dateTime").orElse (Fields.get fields "date")
  | v => v

/--
Read the time of an event, written as a timestamp or as a long date, on its own or in a map.
-/
def read (v : Value) : Except Fault String :=
  match source v with
  | .text s =>
    if Text.isBlankText s then .error (.date .eventTime)
    else
      match Timestamp.read s with
      | .ok t => .ok t.stamp
      | .error _ => LongDate.read s
  | _ => .error (.date .eventTime)

end EventTime

end Datebook
