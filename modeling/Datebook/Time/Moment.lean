import Datebook.Text.Digit
import Datebook.Text.Line
import Datebook.Text.Quoted
import Datebook.Time.Date

/-!
This module contains points in time: instants, counted in microseconds, and moments, which are wall
clock readings with or without an offset from universal time.
-/

namespace Datebook

/--
An instant, in microseconds since the start of the year 1 in universal time.
-/
abbrev Instant := Int

namespace Instant

def second : Int := 1000000

def minute : Int := 60 * second

def day : Int := 86400 * second

/--
The first microsecond after the year 9999.
-/
def limit : Int := Date.count * day

/--
Whether an instant lies in the years 1 to 9999.
-/
def isSupported (t : Instant) : Bool :=
  0 ≤ t && t < limit

def supported? (t : Int) : Option Instant :=
  if isSupported t then some t else none

end Instant

structure ClockReading where
  date : Date
  hour : Nat
  minute : Nat
  second : Nat
  micro : Nat
  deriving DecidableEq, Repr

namespace ClockReading

def isReal (c : ClockReading) : Bool :=
  c.date.isReal && c.hour ≤ 23 && c.minute ≤ 59 && c.second ≤ 59 && c.micro ≤ 999999

def toMicros (c : ClockReading) : Int :=
  ((((c.date.toDays : Int) * 24 + c.hour) * 60 + c.minute) * 60 + c.second) * 1000000 + c.micro

def ofMicros (t : Int) : ClockReading :=
  let n := t.toNat
  let seconds := n / 1000000
  { date := Date.ofDays (seconds / 86400)
    hour := seconds / 3600 % 24
    minute := seconds / 60 % 60
    second := seconds % 60
    micro := n % 1000000 }

def dateText (d : Date) : List Char :=
  Text.padded 4 d.year ++ '-' :: Text.padded 2 d.month ++ '-' :: Text.padded 2 d.day

/--
A reading to the second; `between` stands between the date and the time.
-/
def text (between : Char) (c : ClockReading) : List Char :=
  dateText c.date ++ between :: Text.padded 2 c.hour ++ ':' :: Text.padded 2 c.minute ++
    ':' :: Text.padded 2 c.second

end ClockReading

/--
How a wall clock stands to universal time: unknown, ahead by a number of seconds, or as in a named
zone, ahead by a number of seconds at that moment.
-/
inductive Offset where
  | unknown
  | fixed (seconds : Int)
  | zone (name : String) (seconds : Int)
  deriving DecidableEq, Repr

/--
A wall clock reading, in microseconds since the start of the year 1 on that clock, with its offset.
-/
structure Moment where
  wall : Int
  offset : Offset
  deriving DecidableEq, Repr

namespace Moment

/--
The seconds that the wall clock is ahead of universal time; a clock whose offset is unknown is read
as universal time.
-/
def ahead (m : Moment) : Int :=
  match m.offset with
  | .unknown => 0
  | .fixed seconds => seconds
  | .zone _ seconds => seconds

def instant? (m : Moment) : Option Instant :=
  Instant.supported? (m.wall - m.ahead * Instant.second)

def offsetText (seconds : Int) : List Char :=
  let n := seconds.natAbs
  let sign := if seconds < 0 then '-' else '+'
  sign :: Text.padded 2 (n / 3600) ++ ':' :: Text.padded 2 (n / 60 % 60) ++
    (if n % 60 = 0 then [] else ':' :: Text.padded 2 (n % 60))

def text (m : Moment) : String :=
  let c := ClockReading.ofMicros m.wall
  let fraction := if c.micro = 0 then [] else '.' :: Text.padded 6 c.micro
  let offset :=
    match m.offset with
    | .unknown => []
    | _ => offsetText m.ahead
  String.ofList (c.text ' ' ++ fraction ++ offset)

/--
The constructor call that describes an offset, in the style in which message texts show values.
-/
def offsetForm : Offset → Option String
  | .unknown => none
  | .fixed seconds =>
    if seconds = 0 then some "datetime.timezone.utc"
    else
      let days := Int.fdiv seconds 86400
      let rest := Int.fmod seconds 86400
      let items := (if days = 0 then [] else ["days=" ++ toString days]) ++
        (if rest = 0 then [] else ["seconds=" ++ toString rest])
      some ("datetime.timezone(datetime.timedelta(" ++ Text.joined ", " items ++ "))")
  | .zone name _ => some ("zoneinfo.ZoneInfo(key=" ++ Text.quoted name ++ ")")

def dateForm (d : Date) : String :=
  "datetime.date(" ++ Text.joined ", " ([d.year, d.month, d.day].map toString) ++ ")"

/--
The constructor call that describes a moment. Seconds are shown when they or the microseconds are
not zero, microseconds when they are not zero.
-/
def form (m : Moment) : String :=
  let c := ClockReading.ofMicros m.wall
  let numbers := [c.date.year, c.date.month, c.date.day, c.hour, c.minute] ++
    (if c.second = 0 ∧ c.micro = 0 then [] else [c.second]) ++
    (if c.micro = 0 then [] else [c.micro])
  let zone :=
    match offsetForm m.offset with
    | none => []
    | some form => ["tzinfo=" ++ form]
  "datetime.datetime(" ++ Text.joined ", " (numbers.map toString ++ zone) ++ ")"

end Moment

end Datebook
