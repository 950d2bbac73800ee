/-!
This module contains the binary floating-point numbers of 64 bits as exact values: every finite
number is an integer times a power of two, and every operation here is exact or rounded once.
-/

namespace Datebook

/--
A number of the 64-bit binary format. A finite number is `mantissa * 2 ^ exponent`, and either its
mantissa has 53 bits or its exponent is the least one, `-1074`.
-/
inductive Binary64 where
  | finite (negative : Bool) (mantissa : Nat) (exponent : Int)
  | infinite (negative : Bool)
  | nan
  deriving DecidableEq, Repr, Inhabited

namespace Binary64

def minExponent : Int := -1074

def maxExponent : Int := 971

def leastNormal : Nat := 4503599627370496

def zero (negative : Bool) : Binary64 :=
  .finite negative 0 minExponent

def roundDiv (num den : Nat) : Nat :=
  let q := num / den
  let r := num % den
  if den < 2 * r || (2 * r = den && q % 2 = 1) then q + 1 else q

/--
The power of two by which a numerator is multiplied when the quotient is scaled by `2 ^ k`.
-/
def up (k : Int) : Nat := Nat.pow 2 k.toNat

/--
The power of two by which a denominator is multiplied when the quotient is scaled by `2 ^ k`.
-/
def down (k : Int) : Nat := Nat.pow 2 (-k).toNat

def floorLog2 (num den : Nat) : Int :=
  let k : Int := (num.log2 : Int) - den.log2
  if den * up k ≤ num * down k then k else k - 1

/--
The number nearest to the fraction `num / den`, a tie going to the even mantissa. Beyond the
greatest finite number it is infinite.
-/
def ofRatio (negative : Bool) (num den : Nat) : Binary64 :=
  if num = 0 then zero negative
  else
    let e := max minExponent (floorLog2 num den - 52)
    let m := roundDiv (num * down e) (den * up e)
    let (m, e) := if m = 2 * leastNormal then (leastNormal, e + 1) else (m, e)
    if maxExponent < e then .infinite negative else .finite negative m e

/--
The number nearest to `digits * 10 ^ exponent`. Exponents so large or so small that the result is
infinite or zero whatever the digits are decided without the power.
-/
def ofDecimal (negative : Bool) (digits : Nat) (exponent : Int) : Binary64 :=
  if digits = 0 then zero negative
  else if 400 < exponent then .infinite negative
  else if exponent + digits.log2 / 3 + 1 < -400 then zero negative
  else ofRatio negative (digits * Nat.pow 10 exponent.toNat) (Nat.pow 10 (-exponent).toNat)

def ofInt (i : Int) : Binary64 :=
  ofRatio (i < 0) i.natAbs 1

def isZero : Binary64 → Bool
  | finite _ m _ => m = 0
  | _ => false

def isNegative : Binary64 → Bool
  | finite negative _ _ => negative
  | infinite negative => negative
  | nan => false

def scaleUp (x : Binary64) (k : Nat) : Binary64 :=
  match x with
  | finite negative m e => ofRatio negative (m * up e * Nat.pow 2 k) (down e)
  | infinite negative => .infinite negative
  | nan => .nan

def truncate? : Binary64 → Option Int
  | finite negative m e =>
    let n : Int := m * up e / down e
    some (if negative then -n else n)
  | _ => none

end Binary64

end Datebook
