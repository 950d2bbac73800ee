import Datebook.Number.Binary64
import Datebook.Text.Digit

/-!
This module contains the shortest decimal that reads back as a given binary number, and the writing
of such decimals.
-/

namespace Datebook.Binary64

/--
A positive decimal in scientific form: the value is `digits * 10 ^ (exponent + 1 - count)`, where
`count` is the number of digits.
-/
structure Decimal where
  digits : Nat
  count : Nat
  exponent : Int
  deriving DecidableEq, Repr

def floorLog10 (num den : Nat) : Int :=
  let k := Int.fdiv (floorLog2 num den * 30103) 100000
  let reaches (k : Int) : Bool := den * Nat.pow 10 k.toNat ≤ num * Nat.pow 10 (-k).toNat
  if reaches (k + 1) then k + 1 else if reaches k then k else k - 1

/--
The shortest decimal among those that round to the number with this mantissa and exponent. Of two
with the same count of digits it is the nearer, and of two equally near the one with an even last
digit.
-/
def shortest (mantissa : Nat) (exponent : Int) : Decimal :=
  -- all quantities below are in units of `2 ^ (exponent - 2)`
  let value := 4 * mantissa
  let low := if mantissa = leastNormal ∧ minExponent < exponent then value - 1 else value - 2
  let high := value + 2
  let closed := mantissa % 2 = 0
  let num := up (exponent - 2)
  let den := down (exponent - 2)
  let top := floorLog10 (value * num) den
  go value low high closed num den top 17 1
where
  go (value low high : Nat) (closed : Bool) (num den : Nat) (top : Int) : Nat → Nat → Decimal
    | 0, count => ⟨value * num / den, count, top⟩
    | fuel + 1, count =>
      let step : Int := top + 1 - count
      -- the grid is `10 ^ step`; in these units a point `n` of it is `n * gridNum / gridDen`
      let gridNum := den * Nat.pow 10 step.toNat
      let gridDen := num * Nat.pow 10 (-step).toNat
      let below := value * gridDen / gridNum
      let inside (n : Nat) : Bool :=
        let point := n * gridNum
        if closed then low * gridDen ≤ point && point ≤ high * gridDen
        else low * gridDen < point && point < high * gridDen
      let above := below + 1
      let under := value * gridDen - below * gridNum
      let beyond := above * gridNum - value * gridDen
      match inside below, inside above with
      | true, false => normal below count top
      | false, true => normal above count top
      | true, true =>
        if under < beyond || (under = beyond && below % 2 = 0) then normal below count top
        else normal above count top
      | false, false => go value low high closed num den top fuel (count + 1)
  normal (n count : Nat) (top : Int) : Decimal :=
    if n = Nat.pow 10 count then ⟨1, 1, top + 1⟩ else ⟨n, count, top⟩

/--
How a decimal is laid out. Exponents from `leastPositional` to `15` are written in positions, with at
least one digit on each side of the point; the others after an `e`, with a sign and at least
`exponentDigits` digits.
-/
structure Layout where
  leastPositional : Int
  exponentDigits : Nat
  deriving DecidableEq, Repr

/--
The digits of a decimal without the zeros at its end; the first digit stays.
-/
def Decimal.significant (d : Decimal) : List Char :=
  match (Nat.toDigits 10 d.digits).reverse.dropWhile (· == '0') |>.reverse with
  | [] => ['0']
  | digits => digits

def Layout.write (layout : Layout) (d : Decimal) : List Char :=
  let digits := d.significant
  let e := d.exponent
  if layout.leastPositional ≤ e ∧ e < 16 then
    if e < 0 then
      '0' :: '.' :: List.replicate ((-e).toNat - 1) '0' ++ digits
    else
      let whole := e.toNat + 1
      let fraction := digits.drop whole
      digits.take whole ++ List.replicate (whole - digits.length) '0' ++
        '.' :: (if fraction.isEmpty then ['0'] else fraction)
  else
    let head := digits.take 1
    let tail := digits.drop 1
    let sign := if e < 0 then '-' else '+'
    head ++ (if tail.isEmpty then [] else '.' :: tail) ++
      'e' :: sign :: Text.padded layout.exponentDigits e.natAbs

def write (layout : Layout) (x : Binary64) : String :=
  match x with
  | .finite negative m e =>
    let sign := if negative then ['-'] else []
    let body := if m = 0 then ['0', '.', '0'] else layout.write (shortest m e)
    String.ofList (sign ++ body)
  | .infinite negative => if negative then "-inf" else "inf"
  | .nan => "nan"

/--
The layout of numbers in messages: positions down to `0.0001`, and exponents of at least two digits.
-/
def inText : Layout := ⟨-4, 2⟩

/--
The layout of numbers in data interchange: positions down to `0.00001`, and exponents without leading
zeros.
-/
def inData : Layout := ⟨-5, 1⟩

end Datebook.Binary64
