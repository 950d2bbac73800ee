import Datebook.Host
import Datebook.Number.Numeral
import Datebook.Time.Zone.Table

/-!
This module contains a host on which commands are rehearsed: its zones are those of the table, and it
shows lists and maps up to a certain depth and integers up to a certain number of digits.
-/

namespace Datebook

namespace Value

theorem depthOfFields_append (fields more : Fields)
    : depthOfFields (fields ++ more) = max (depthOfFields fields) (depthOfFields more) := by
  induction fields with
  | nil => simp [depthOfFields]
  | cons field fields ih =>
    rw [List.cons_append, depthOfFields, depthOfFields, ih, Nat.max_assoc]

theorem allIntegersOfFields_append (p : Int → Bool) (fields more : Fields)
    : allIntegersOfFields p (fields ++ more)
        = (allIntegersOfFields p fields && allIntegersOfFields p more) := by
  induction fields with
  | nil => simp [allIntegersOfFields]
  | cons field fields ih =>
    rw [List.cons_append, allIntegersOfFields, allIntegersOfFields, ih, Bool.and_assoc]

end Value

namespace Rehearsal

def maxDepth : Nat := 980

def isShort (i : Int) : Bool :=
  i.natAbs < Nat.pow 10 Numeral.maxDigits

/--
What keeps a value from being shown: first its depth, then its integers.
-/
def showFlaw? (v : Value) : Option ShowFlaw :=
  if maxDepth < v.depth then some .tooDeep
  else if v.allIntegers isShort then none
  else some .tooLong

theorem showFlaw?_plain {before after : Fields} {name : String} {v : Value} (h : v.isPlain = true)
    : showFlaw? (.map (before ++ (name, v) :: after)) = showFlaw? (.map (before ++ after)) := by
  have hv : v.depth = 0 ∧ v.allIntegers isShort = true := by
    cases v with
    | null | text _ => exact ⟨rfl, rfl⟩
    | _ => cases h
  simp [showFlaw?, Value.depth, Value.allIntegers, Value.depthOfFields_append, Value.depthOfFields,
    Value.allIntegersOfFields_append, Value.allIntegersOfFields, hv]

scoped instance host : Host where
  zone? := Zone.tabled?
  zone?_name := Zone.name_of_tabled?
  zone?_near := Zone.isNear_of_tabled?
  showFlaw? := showFlaw?
  showFlaw?_plain := showFlaw?_plain

def nested : Nat → Value
  | 0 => .list []
  | n + 1 => .list [nested n]

theorem depth_nested (n : Nat) : (nested n).depth = n + 1 := by
  induction n with
  | zero => rfl
  | succ n ih => simp [nested, Value.depth, Value.depthOfItems, ih]

theorem flaw?_nested {n : Nat} (h : maxDepth ≤ n) : (nested n).flaw? = some .tooDeep := by
  have hdeep : maxDepth < (nested n).depth := by
    rw [depth_nested]
    exact Nat.lt_succ_of_le h
  cases n with
  | zero => exact if_pos hdeep
  | succ n => exact if_pos hdeep

end Rehearsal

end Datebook
