import Datebook.Fault
import Datebook.Text.Blank
import Datebook.Value.Show

/-!
This module contains timestamps: the canonical text of an instant, and the reading of the looser
texts, dates and moments that stand for one. Whatever carries no offset is read in universal time.
-/

namespace Datebook

/--
The canonical text of an instant: date, time and milliseconds in universal time. What lies below a
millisecond is cut off.
-/
def Instant.stamp (t : Instant) : String :=
  let c := ClockReading.ofMicros t
  String.ofList (c.text 'T' ++ '.' :: Text.padded 3 (c.micro / 1000) ++ ['Z'])

namespace Timestamp

/--
The parts of a timestamp as written. A part that is not written is zero.
-/
structure Parts where
  year : Nat
  month : Nat
  day : Nat
  hour : Nat
  minute : Nat
  second : Nat
  /-- The fraction of the second, cut to microseconds. -/
  micro : Nat
  /-- Whether the offset lies behind universal time. -/
  behind : Bool
  offsetHour : Nat
  offsetMinute : Nat
  deriving DecidableEq, Repr

/--
The number written by the next `count` digits, continuing from `value`.
-/
def number (value : Nat) : Nat → List Char → Option (Nat × List Char)
  | 0, s => some (value, s)
  | _ + 1, [] => none
  | count + 1, c :: rest =>
    match Text.digit? c with
    | none => none
    | some d => number (10 * value + d) count rest

def after (c : Char) : List Char → Option (List Char)
  | [] => none
  | d :: rest => if d = c then some rest else none

def digits : List Char → List Nat × List Char
  | [] => ([], [])
  | c :: rest =>
    match Text.digit? c with
    | none => ([], c :: rest)
    | some d =>
      let (values, rest) := digits rest
      (d :: values, rest)

/--
The microseconds that a fraction's digits stand for: the first six of them, filled up with zeros.
-/
def micros (values : List Nat) : Nat :=
  Text.ofDigits (values.take 6 ++ List.replicate (6 - values.length) 0)

def seconds : List Char → Option ((Nat × Nat) × List Char)
  | ':' :: rest => do
    let (second, rest) ← number 0 2 rest
    match rest with
    | mark :: rest' =>
      if mark = '.' ∨ mark = ',' then
        match digits rest' with
        | ([], _) => none
        | (values, rest') => if values.length ≤ 9 then some ((second, micros values), rest') else none
      else some ((second, 0), rest)
    | [] => some ((second, 0), [])
  | s => some ((0, 0), s)

def clock : List Char → Option ((Nat × Nat × Nat × Nat) × List Char)
  | [] => some ((0, 0, 0, 0), [])
  | mark :: rest =>
    if mark = 'T' ∨ mark = 't' ∨ mark = ' ' then do
      let (hour, rest) ← number 0 2 rest
      let rest ← after ':' rest
      let (minute, rest) ← number 0 2 rest
      let ((second, micro), rest) ← seconds rest
      some ((hour, minute, second, micro), rest)
    else some ((0, 0, 0, 0), mark :: rest)

/--
The offset, which ends the text: nothing, a `Z`, or a sign with hours and possibly minutes.
-/
def offset : List Char → Option (Bool × Nat × Nat)
  | [] => some (false, 0, 0)
  | mark :: rest =>
    if mark = 'Z' ∨ mark = 'z' then if rest.isEmpty then some (false, 0, 0) else none
    else if mark = '+' ∨ mark = '-' then do
      let (hour, rest) ← number 0 2 rest
      match rest with
      | [] => some (mark = '-', hour, 0)
      | c :: more => do
        let (minute, rest) ← number 0 2 (if c = ':' then more else c :: more)
        if rest.isEmpty then some (mark = '-', hour, minute) else none
    else none

/--
The parts of a text that has the form of a timestamp: a date, then possibly a time of day with
seconds and up to nine digits of their fraction, then possibly an offset.
-/
def parts? (s : List Char) : Option Parts := do
  let (year, s) ← number 0 4 s
  let s ← after '-' s
  let (month, s) ← number 0 2 s
  let s ← after '-' s
  let (day, s) ← number 0 2 s
  let ((hour, minute, second, micro), s) ← clock s
  let (behind, offsetHour, offsetMinute) ← offset s
  some ⟨year, month, day, hour, minute, second, micro, behind, offsetHour, offsetMinute⟩

def isToMinute (s : List Char) : Bool :=
  let rest := do
    let (_, s) ← number 0 4 s
    let s ← after '-' s
    let (_, s) ← number 0 2 s
    let s ← after '-' s
    let (_, s) ← number 0 2 s
    let s ← after 'T' s
    let (_, s) ← number 0 2 s
    let s ← after ':' s
    let (_, s) ← number 0 2 s
    some s
  rest = some []

/--
Whether the capital form of a character has a `T` in it: that of a `t`, of one with a diaeresis above,
and of two ligatures.
-/
def hasCapitalT (c : Char) : Bool :=
  [0x54, 0x74, 0x1E97, 0xFB05, 0xFB06].contains c.toNat

def endsWithOffset : List Char → Bool
  | [] => false
  | c :: rest => (offset (c :: rest)).isSome || endsWithOffset rest

/--
A text with what may be left out: the seconds after a time of day to the minute, and then a `Z` where
a time of day has no offset.
-/
def completed (s : List Char) : List Char :=
  let s := if isToMinute s then s ++ [':', '0', '0'] else s
  if s.any hasCapitalT && !endsWithOffset s then s ++ ['Z'] else s

def Parts.reading (p : Parts) : ClockReading :=
  ⟨⟨p.year, p.month, p.day⟩, p.hour, p.minute, p.second, p.micro⟩

/--
The seconds that the wall clock of a timestamp is ahead of universal time.
-/
def Parts.ahead (p : Parts) : Int :=
  let seconds : Int := p.offsetHour * 3600 + p.offsetMinute * 60
  if p.behind then -seconds else seconds

/--
The instant of a timestamp, if its reading and its offset exist and it lies in the supported years.
-/
def Parts.instant? (p : Parts) : Option Instant :=
  if p.reading.isReal ∧ p.offsetHour ≤ 23 ∧ p.offsetMinute ≤ 59 then
    Instant.supported? (p.reading.toMicros - p.ahead * Instant.second)
  else none

def read (text : String) : Except DateFault Instant :=
  match Text.trim text.toList with
  | [] => .error .blank
  | s =>
    match parts? (completed s) with
    | none => .error (.form text)
    | some parts =>
      match parts.instant? with
      | none => .error (.components text)
      | some t => .ok t

def ofMoment (m : Moment) : Except DateFault Instant :=
  match m.instant? with
  | none => .error (.range m)
  | some t => .ok t

def ofValue : Value → Except DateFault Instant
  | .text s => read s
  | .moment m => ofMoment m
  | .date d => ofMoment ⟨d.toDays * Instant.day, .unknown⟩
  | .null => .error .missing
  | v => .error (.wrongKind v.kindName)

def normalize (v : Value) : Except DateFault String :=
  match ofValue v with
  | .error e => .error e
  | .ok t => .ok t.stamp

end Timestamp

end Datebook
