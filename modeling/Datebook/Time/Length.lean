import Datebook.Value

/-!
This module contains lengths of time: how long a number of units lasts, and which lengths are too
great to be counted.
-/

namespace Datebook

/--
A length of time, in microseconds.
-/
abbrev Length := Int

inductive LengthFlaw where
  | notANumber
  | undefined
  | tooLong
  deriving DecidableEq, Repr

def LengthFlaw.message : LengthFlaw → String
  | notANumber => "The value is no number"
  | undefined => "The number is undefined"
  | tooLong => "The length of time is too great"

namespace Length

def maxDays : Int := 999999999

/--
Whether a number of microseconds is a length of time. It counts its days downward, so that there is
room for the rest of a day above the greatest number of days but not below the least.
-/
def isSupported (micros : Int) : Bool :=
  -maxDays * Instant.day ≤ micros && micros < (maxDays + 1) * Instant.day

def ofMicros (micros : Int) : Except LengthFlaw Length :=
  if isSupported micros then .ok micros else .error .tooLong

def ofInt (unit : Length) (n : Int) : Except LengthFlaw Length :=
  ofMicros (n * unit)

/--
The microseconds of `m * 2 ^ e` units. The whole units are exact, the fraction of a unit is a product
rounded to the nearest number, and the sum is rounded to the nearest microsecond, a half to the even
one.
-/
def microsOf (unit m : Nat) (e : Int) : Nat :=
  let num := m * Binary64.up e
  let den := Binary64.down e
  let whole := num / den * unit
  match Binary64.ofRatio false (unit * (num % den)) den with
  | .finite _ m e =>
    Binary64.roundDiv (whole * Binary64.down e + m * Binary64.up e) (Binary64.down e)
  | _ => whole

def ofFloat (unit : Length) : Binary64 → Except LengthFlaw Length
  | .finite negative m e =>
    let micros : Int := microsOf unit.toNat m e
    ofMicros (if negative then -micros else micros)
  | .infinite _ => .error .tooLong
  | .nan => .error .undefined

/--
The length of as many units as a value says. The truth values count as one and none.
-/
def ofValue (unit : Length) : Value → Except LengthFlaw Length
  | .bool b => ofInt unit (if b then 1 else 0)
  | .int n => ofInt unit n
  | .float x => ofFloat unit x
  | _ => .error .notANumber

end Length

end Datebook
