import Datebook.Time.Timestamp
import Datebook.Time.Zone.Name

/-!
This module contains windows of time: the span that a listing or a search covers, given in full, by
a horizon from now, or as the present day of a zone.
-/

namespace Datebook

structure Window where
  start : String
  finish : String
  zone : String
  deriving DecidableEq, Repr

namespace Window

variable [Host]

/--
One bound of a window: the instant of the value given, or `fallback` where the value is absent.
-/
def bound (v : Value) (fallback : Except Fault Instant) : Except Fault Instant :=
  if v.isAbsent then fallback
  else (Timestamp.ofValue v).mapError .date

def reach (start : Instant) (horizon : Length) : Except Fault Instant :=
  match Instant.supported? (start + horizon) with
  | none => .error (.field .windowPastEnd)
  | some t => .ok t

/--
The window between the canonical texts of two instants, of which the second has to read as the later
one.
-/
def between (start finish : Instant) (zone : String) : Except Fault Window := do
  let later ← (Timestamp.read finish.stamp).mapError .date
  let earlier ← (Timestamp.read start.stamp).mapError .date
  if later ≤ earlier then .error (.field (.order "timeMax"))
  else .ok ⟨start.stamp, finish.stamp, zone⟩

/--
The window with the bounds given. With a horizon, a missing start means `now` and a missing end
means the start and the horizon; without one both bounds have to be given. Bounds are never swapped.
-/
def resolve (start finish zone : Value) (defaultZone : String) (horizon : Option Length)
    (now : Instant) : Except Fault Window := do
  let zone ← Zone.resolve zone defaultZone
  let start ← bound start <|
    match horizon with
    | none => .error (.date .windowStart)
    | some _ => .ok now
  let finish ← bound finish <|
    match horizon with
    | none => .error (.date .windowEnd)
    | some horizon => reach start horizon
  between start finish zone

/--
The present day in a zone: from the start of the day on the zone's wall clocks to the start of the
next.
-/
def ofDay (zone : Zone) (now : Instant) : Except Fault Window :=
  let wall := zone.wallAt now
  if !Instant.isSupported wall then .error (.crash .dateOverflow)
  else
    let today := wall / Instant.day
    let tomorrow := today + 1
    if !Instant.isSupported (tomorrow * Instant.day) then .error (.crash .dateOverflow)
    else do
      let start ← (Timestamp.ofMoment (zone.momentOfWall (today * Instant.day))).mapError .date
      let finish ← (Timestamp.ofMoment (zone.momentOfWall (tomorrow * Instant.day))).mapError .date
      .ok ⟨start.stamp, finish.stamp, zone.name⟩

def today (zone : String) (now : Instant) : Except Fault Window :=
  match Zone.settled zone with
  | .error cause => .error (.crash cause)
  | .ok zone => ofDay zone now

end Window

/--
Check that an event's end comes after its start.
-/
def checkOrder (start finish : Value) : Except Fault Unit := do
  let finish ← (Timestamp.ofValue finish).mapError .date
  let start ← (Timestamp.ofValue start).mapError .date
  if finish ≤ start then .error (.field (.order "end")) else .ok ()

end Datebook
