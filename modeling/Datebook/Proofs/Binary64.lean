import Datebook.Number.Binary64
import Mathlib.Algebra.Ring.Nat

/-!
This module contains the verification of how far a quotient is from the floating-point number that it
is rounded to.
-/

namespace Datebook

namespace Binary64

theorem roundDiv_bounds {den : Nat} (hden : 0 < den) (num : Nat)
    : 2 * num ≤ 2 * (roundDiv num den * den) + den ∧ 2 * (roundDiv num den * den) ≤ 2 * num + den := by
  have hdiv := Nat.div_add_mod num den
  have hmod := Nat.mod_lt num hden
  rw [Nat.mul_comm] at hdiv
  unfold roundDiv
  dsimp only
  split
  . next hup =>
    rw [Nat.add_mul, Nat.one_mul]
    simp only [Bool.or_eq_true, Bool.and_eq_true, decide_eq_true_eq] at hup
    omega
  . next hdown =>
    simp only [Bool.or_eq_true, Bool.and_eq_true, decide_eq_true_eq, not_or] at hdown
    omega

theorem down_of_nonpos {e : Int} (h : e ≤ -1) : down e = 2 * down (e + 1) := by
  unfold down
  have hsucc : (-e).toNat = (-(e + 1)).toNat + 1 := by omega
  rw [hsucc]
  exact Nat.pow_succ'

theorem up_of_nonpos {e : Int} (h : e ≤ 0) : up e = 1 := by
  unfold up
  rw [Int.toNat_of_nonpos h]

theorem le_down {e : Int} (h : e ≤ -10) : 1024 ≤ down e := by
  have hexponent : 10 ≤ (-e).toNat := by omega
  exact Nat.pow_le_pow_right Nat.two_pos hexponent

theorem floorLog2_le (num den : Nat) : floorLog2 num den ≤ (num.log2 : Int) - den.log2 := by
  unfold floorLog2
  dsimp only
  split <;> omega

theorem exists_ofRatio {num den : Nat} (hnum : num ≠ 0) (hden : 0 < den)
    (hlog : floorLog2 num den ≤ 41) (negative : Bool)
    : ∃ m e, ofRatio negative num den = .finite negative m e ∧ e ≤ -10
        ∧ 2 * (num * down e) ≤ 2 * (m * den) + den ∧ 2 * (m * den) ≤ 2 * (num * down e) + den := by
  unfold ofRatio
  rw [if_neg hnum]
  dsimp only
  have hexponent : max minExponent (floorLog2 num den - 52) ≤ -11 := by
    unfold minExponent
    omega
  generalize max minExponent (floorLog2 num den - 52) = e at hexponent
  rw [up_of_nonpos (by omega), Nat.mul_one]
  have hbounds := roundDiv_bounds hden (num * down e)
  generalize roundDiv (num * down e) den = m at hbounds
  by_cases hcarry : m = 2 * leastNormal
  . rw [if_pos hcarry]
    dsimp only
    rw [if_neg (by unfold maxExponent; omega)]
    refine ⟨leastNormal, e + 1, rfl, by omega, ?_⟩
    -- The mantissa is halved and the exponent raised, so the number stays the same.
    have hscale : num * down e = 2 * (num * down (e + 1)) := by
      rw [down_of_nonpos (by omega), Nat.mul_left_comm]
    rw [hcarry, hscale, Nat.mul_assoc] at hbounds
    omega
  . rw [if_neg hcarry]
    dsimp only
    rw [if_neg (by unfold maxExponent; omega)]
    exact ⟨m, e, rfl, by omega, hbounds⟩

end Binary64

end Datebook
