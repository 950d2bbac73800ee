import Datebook.Reply

/-!
This module contains free slots: the gaps of a window that busy periods leave and that are long
enough.
-/

namespace Datebook

structure Span where
  start : Instant
  finish : Instant
  deriving DecidableEq, Repr

/--
The order in which busy spans are gone through: by start, and by end among equal starts.
-/
def Span.before (a b : Span) : Bool :=
  a.start < b.start || (a.start = b.start && a.finish ≤ b.finish)

structure Slot where
  start : String
  finish : String
  minutes : Int
  deriving DecidableEq, Repr

namespace Slot

/--
The whole minutes in a length of time. The seconds are counted as a floating-point number, so that a
length of many centuries may be taken up to the next minute if less than its last digit is missing.
-/
def wholeMinutes (length : Length) : Int :=
  match Binary64.ofRatio (length < 0) length.natAbs Instant.second.natAbs with
  | .finite negative m e =>
    let n : Int := m * Binary64.up e
    (if negative then -n else n) / (60 * (Binary64.down e : Int))
  | _ => 0

def ofSpan (span : Span) : Slot :=
  ⟨span.start.stamp, span.finish.stamp, wholeMinutes (span.finish - span.start)⟩

def toRecord (s : Slot) : Fields :=
  [("start", .text s.start), ("end", .text s.finish), ("duration", .int s.minutes)]

def gap (minimum : Length) (start finish : Instant) : List Span :=
  if minimum ≤ finish - start then [⟨start, finish⟩] else []

/--
The gaps of at least `minimum` that busy spans leave between `cursor` and `finish`. The spans come in
ascending order of their starts; `cursor` is the first instant that none of them so far covers.
-/
def gaps (finish : Instant) (minimum : Length) (cursor : Instant) : List Span → List Span
  | [] => gap minimum cursor finish
  | busy :: rest =>
    if finish ≤ cursor then gap minimum cursor finish
    else
      gap minimum cursor (min busy.start finish) ++
        gaps finish minimum (max cursor busy.finish) rest

def free (start finish : Instant) (minimum : Length) (busy : List Span) : List Span :=
  gaps finish minimum start (busy.mergeSort Span.before)

def boundOf (record : Value) (name : String) : Except Fault Instant :=
  match record with
  | .map fields =>
    if Fields.has fields name then
      (Timestamp.ofValue (Fields.get fields name)).mapError .date
    else .error (.crash (.fieldAbsent name))
  | _ => .error (.crash .notIterable)

def busySpans : List Value → Except Fault (List Span)
  | [] => .ok []
  | record :: rest => do
    let start ← boundOf record "start"
    let finish ← boundOf record "end"
    let spans ← busySpans rest
    .ok (⟨start, finish⟩ :: spans)

/--
The records of a list. Other values hold none, and only an empty one may stand for the empty list.
-/
def recordsOf : Value → Except Crash (List Value)
  | .list records => .ok records
  | .text "" | .map [] => .ok []
  | _ => .error .notIterable

def find (start finish busy minutes : Value) : Except Fault (List Slot) := do
  let start ← (Timestamp.ofValue start).mapError .date
  let finish ← (Timestamp.ofValue finish).mapError .date
  let minimum ← (Length.ofValue Instant.minute minutes).mapError fun flaw => .crash (.length flaw)
  let records ← (recordsOf busy).mapError .crash
  let spans ← busySpans records
  .ok ((free start finish minimum spans).map ofSpan)

end Slot

end Datebook
