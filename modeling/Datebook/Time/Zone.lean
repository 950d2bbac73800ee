import Datebook.Time.Moment

/-!
This module contains time zones: an offset from universal time that changes at certain instants, and
the two conversions between instants and readings of the zone's wall clocks.
-/

namespace Datebook

/--
A change of a zone's offset: from `time` on, the wall clock is `offset` seconds ahead of universal
time.
-/
structure Zone.Change where
  time : Instant
  offset : Int
  deriving DecidableEq, Repr

/--
A time zone: the offset in seconds before the first change, and the changes in ascending order.
-/
structure Zone where
  name : String
  initial : Int
  changes : List Zone.Change
  deriving DecidableEq, Repr

namespace Zone

def offsetAt (zone : Zone) (t : Instant) : Int :=
  go zone.initial zone.changes
where
  go (current : Int) : List Change → Int
    | [] => current
    | change :: rest => if change.time ≤ t then go change.offset rest else current

/--
The offset with which a reading of the wall clock is understood. A reading that the clock skips is
taken with the offset before the change, and of a reading that it shows twice the first is taken:
in both cases the new offset counts only once the old clock and the new one have reached the change.
-/
def offsetOfWall (zone : Zone) (wall : Int) : Int :=
  go zone.initial zone.changes
where
  go (current : Int) : List Change → Int
    | [] => current
    | change :: rest =>
      if change.time + max current change.offset * Instant.second ≤ wall then go change.offset rest
      else current

/--
Whether the clocks of a zone are always less than a day away from universal time.
-/
structure IsNear (zone : Zone) : Prop where
  initial : zone.initial.natAbs < 86400
  changes : ∀ change ∈ zone.changes, change.offset.natAbs < 86400

def wallAt (zone : Zone) (t : Instant) : Int :=
  t + zone.offsetAt t * Instant.second

def momentOfWall (zone : Zone) (wall : Int) : Moment :=
  ⟨wall, .zone zone.name (zone.offsetOfWall wall)⟩

end Zone

end Datebook
