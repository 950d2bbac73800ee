import Datebook.Number.Binary64
import Datebook.Text.Blank
import Datebook.Time.Moment

/-!
This module contains the values that commands and replies carry: what a data interchange text can
hold, and the dates and moments that a caller may put into a command.
-/

namespace Datebook

/--
Give a name a value among named values. A name that is already there keeps its place, a new one comes
last.
-/
def setNamed {α : Type} (entries : List (String × α)) (name : String) (value : α) :
    List (String × α) :=
  match entries with
  | [] => [(name, value)]
  | (other, old) :: rest =>
    if other = name then (name, value) :: rest else (other, old) :: setNamed rest name value

/--
A value. The fields of a map keep the order in which they were given.
-/
inductive Value where
  | null
  | bool (b : Bool)
  | int (i : Int)
  | float (x : Binary64)
  | text (s : String)
  | list (items : List Value)
  | map (fields : List (String × Value))
  | date (d : Date)
  | moment (m : Moment)
  deriving Inhabited, BEq, Repr

abbrev Fields := List (String × Value)

namespace Fields

def get (fields : Fields) (name : String) : Value :=
  (fields.lookup name).getD .null

def has (fields : Fields) (name : String) : Bool :=
  fields.any (·.1 == name)

end Fields

namespace Value

/--
Whether a value counts as given: `null`, `false`, zeros and everything empty do not.
-/
def isTruthy : Value → Bool
  | null => false
  | bool b => b
  | int i => i ≠ 0
  | float x => !x.isZero
  | text s => s ≠ ""
  | list items => !items.isEmpty
  | map fields => !fields.isEmpty
  | date _ => true
  | moment _ => true

/--
The first value if it counts as given, otherwise the second.
-/
def orElse (v w : Value) : Value :=
  if v.isTruthy then v else w

def isAbsent : Value → Bool
  | null => true
  | text s => s.toList.all Text.isBlank
  | _ => false

mutual

/--
How many lists and maps stand around the innermost part of a value, the value itself included.
-/
def depth : Value → Nat
  | list items => depthOfItems items + 1
  | map fields => depthOfFields fields + 1
  | _ => 0

def depthOfItems : List Value → Nat
  | [] => 0
  | v :: rest => max (depth v) (depthOfItems rest)

def depthOfFields : List (String × Value) → Nat
  | [] => 0
  | (_, v) :: rest => max (depth v) (depthOfFields rest)

end

mutual

def allIntegers (p : Int → Bool) : Value → Bool
  | int i => p i
  | list items => allIntegersOfItems p items
  | map fields => allIntegersOfFields p fields
  | _ => true

def allIntegersOfItems (p : Int → Bool) : List Value → Bool
  | [] => true
  | v :: rest => allIntegers p v && allIntegersOfItems p rest

def allIntegersOfFields (p : Int → Bool) : List (String × Value) → Bool
  | [] => true
  | (_, v) :: rest => allIntegers p v && allIntegersOfFields p rest

end

/--
Whether an integer fits into 64 bits, signed or unsigned.
-/
def fitsIn64Bits (i : Int) : Bool :=
  -9223372036854775808 ≤ i && i ≤ 18446744073709551615

def fields? : Value → Option Fields
  | map fields => some fields
  | _ => none

def items? : Value → Option (List Value)
  | list items => some items
  | _ => none

def text? : Value → Option String
  | text s => some s
  | _ => none

def ofText? : Option String → Value
  | none => null
  | some s => text s

end Value

end Datebook
