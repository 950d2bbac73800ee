import Datebook.Time.Date
import Mathlib.Algebra.Ring.Nat
import Mathlib.Data.Nat.Init

/-!
This module contains the verification that the civil calendar and the order numbers of its days
determine each other.
-/

namespace Datebook

namespace Date

def yearLength (leap : Bool) : Nat :=
  if leap then 366 else 365

theorem monthAndDay_eq (lengths : List Nat) (month n : Nat) (h : n < lengths.sum)
    : ∃ k, k < lengths.length
        ∧ (lengths.take k).sum ≤ n
        ∧ n - (lengths.take k).sum < lengths.getD k 0
        ∧ monthAndDay month n lengths = (month + k, n - (lengths.take k).sum + 1) := by
  induction lengths generalizing month n with
  | nil => simp at h
  | cons length rest ih =>
    rw [List.sum_cons] at h
    unfold monthAndDay
    split
    . next hlt => exact ⟨0, by simp, by simp, by simpa using hlt, by simp⟩
    . next hge =>
      obtain ⟨k, hk, hle, hlt, heq⟩ := ih (month + 1) (n - length) (by omega)
      refine ⟨k + 1, by simpa using hk, ?_, ?_, ?_⟩
      . rw [List.take_succ_cons, List.sum_cons]
        omega
      . rw [List.take_succ_cons, List.sum_cons, List.getD_cons_succ]
        omega
      . rw [heq, List.take_succ_cons, List.sum_cons]
        congr 1
        . omega
        . omega

theorem sum_monthLengths (leap : Bool) : (monthLengths leap).sum = yearLength leap := by
  cases leap <;> decide

theorem monthLengths_getD_le (leap : Bool) (k : Nat) (h : k < (monthLengths leap).length)
    : (monthLengths leap).getD k 0 ≤ 31 := by
  revert k
  cases leap <;> decide

theorem daysBeforeMonth_succ (leap : Bool) (k : Nat)
    : daysBeforeMonth leap (k + 1) = ((monthLengths leap).take k).sum := by
  unfold daysBeforeMonth
  rw [Nat.add_sub_cancel, List.sum_eq_foldl]

theorem daysBeforeYear_split (c₄ c f s : Nat) (hc : c ≤ 3) (hf : f ≤ 24) (hs : s ≤ 3)
    : daysBeforeYear (c₄ * 400 + c * 100 + f * 4 + s + 1)
        = 146097 * c₄ + 36524 * c + 1461 * f + 365 * s := by
  unfold daysBeforeYear
  dsimp only
  omega

theorem isLeap_split (c₄ c f s : Nat) (hc : c ≤ 3) (hf : f ≤ 24) (hs : s ≤ 3)
    : isLeap (c₄ * 400 + c * 100 + f * 4 + s + 1) = true ↔ s = 3 ∧ (f = 24 → c = 3) := by
  unfold isLeap
  simp only [Bool.and_eq_true, Bool.or_eq_true, decide_eq_true_eq]
  omega

theorem ofDays_eq (n : Nat)
    : ∃ century inCentury single year d,
        century = min 3 (n % 146097 / 36524)
          ∧ inCentury = n % 146097 - century * 36524
          ∧ single = min 3 (inCentury % 1461 / 365)
          ∧ year = n / 146097 * 400 + century * 100 + inCentury / 1461 * 4 + single + 1
          ∧ d = inCentury % 1461 - single * 365
          ∧ ofDays n = ⟨year, (monthAndDay 1 d (monthLengths (isLeap year))).1,
              (monthAndDay 1 d (monthLengths (isLeap year))).2⟩ :=
  ⟨_, _, _, _, _, rfl, rfl, rfl, rfl, rfl, rfl⟩

theorem ofDays_year (n : Nat)
    : ∃ year d,
        d < yearLength (isLeap year)
          ∧ daysBeforeYear year + d = n
          ∧ ofDays n = ⟨year, (monthAndDay 1 d (monthLengths (isLeap year))).1,
              (monthAndDay 1 d (monthLengths (isLeap year))).2⟩ := by
  obtain ⟨century, inCentury, single, year, d, hcentury, hin, hsingle, hyear, hd, heq⟩ := ofDays_eq n
  refine ⟨year, d, ?_, ?_, heq⟩
  . have hleap := isLeap_split (n / 146097) century (inCentury / 1461) single
      (by omega) (by omega) (by omega)
    rw [← hyear] at hleap
    unfold yearLength
    split
    . omega
    . next hnot =>
      rw [hleap] at hnot
      omega
  . rw [hyear, daysBeforeYear_split _ _ _ _ (by omega) (by omega) (by omega)]
    omega

theorem ofDays_spec (n : Nat)
    : (ofDays n).toDays = n
        ∧ 1 ≤ (ofDays n).day
        ∧ (ofDays n).day ≤ monthLength (isLeap (ofDays n).year) (ofDays n).month
        ∧ (ofDays n).month ≤ 12 ∧ (ofDays n).day ≤ 31 := by
  obtain ⟨year, d, hd, hdays, hofDays⟩ := ofDays_year n
  rw [← sum_monthLengths] at hd
  obtain ⟨k, hk, hle, hlt, heq⟩ := monthAndDay_eq _ 1 d hd
  rw [heq, Nat.add_comm 1 k] at hofDays
  have hk' : k < 12 := by
    revert hk
    cases isLeap year <;> exact id
  have hmost := monthLengths_getD_le _ k hk
  rw [hofDays]
  unfold toDays monthLength
  dsimp only
  rw [daysBeforeMonth_succ]
  refine ⟨by omega, by omega, by omega, by omega, by omega⟩

theorem year_pos (n : Nat) : 1 ≤ (ofDays n).year := by
  obtain ⟨century, inCentury, single, year, d, -, -, -, hyear, -, heq⟩ := ofDays_eq n
  rw [heq]
  dsimp only
  omega

theorem year_le_of_lt_count {n : Nat} (h : n < count) : (ofDays n).year ≤ 9999 := by
  obtain ⟨year, d, -, hdays, heq⟩ := ofDays_year n
  unfold daysBeforeYear at hdays
  unfold count at h
  rw [heq]
  dsimp only at hdays ⊢
  omega

@[simp]
theorem toDays_ofDays (n : Nat) : (ofDays n).toDays = n :=
  (ofDays_spec n).1

theorem isReal_ofDays {n : Nat} (h : n < count) : (ofDays n).isReal = true := by
  obtain ⟨-, hpos, hle, -, -⟩ := ofDays_spec n
  have hyear := year_le_of_lt_count h
  have hfirst := year_pos n
  unfold isReal
  simp only [Bool.and_eq_true, decide_eq_true_eq]
  exact ⟨⟨⟨hfirst, hyear⟩, hpos⟩, hle⟩

theorem daysBeforeYear_succ {year : Nat} (hpos : 1 ≤ year)
    : daysBeforeYear (year + 1) = daysBeforeYear year + yearLength (isLeap year) := by
  obtain ⟨past, rfl⟩ : ∃ past, year = past + 1 := ⟨year - 1, by omega⟩
  -- A year is no multiple of four, or one but no century, or a century, or every fourth of them.
  have hkind : ((past + 1) % 4 ≠ 0 ∧ (past + 1) % 100 ≠ 0 ∧ (past + 1) % 400 ≠ 0)
      ∨ ((past + 1) % 4 = 0 ∧ (past + 1) % 100 ≠ 0 ∧ (past + 1) % 400 ≠ 0)
      ∨ ((past + 1) % 4 = 0 ∧ (past + 1) % 100 = 0 ∧ (past + 1) % 400 ≠ 0)
      ∨ ((past + 1) % 4 = 0 ∧ (past + 1) % 100 = 0 ∧ (past + 1) % 400 = 0) := by
    omega
  have hcenturies : past / 100 ≤ past / 4 := by omega
  unfold daysBeforeYear yearLength isLeap
  simp only [Nat.add_sub_cancel, Nat.succ_div, Nat.dvd_iff_mod_eq_zero]
  rcases hkind with ⟨hfour, hcentury, hcycle⟩ | ⟨hfour, hcentury, hcycle⟩ | ⟨hfour, hcentury, hcycle⟩
    | ⟨hfour, hcentury, hcycle⟩
  . simp [hfour, hcentury, hcycle]
    omega
  . simp [hfour, hcentury, hcycle]
    omega
  . simp [hfour, hcentury, hcycle]
    omega
  . simp [hfour, hcentury, hcycle]
    omega

theorem daysBeforeYear_add_le {year later : Nat} (h : year < later) (hpos : 1 ≤ year)
    : daysBeforeYear year + yearLength (isLeap year) ≤ daysBeforeYear later := by
  induction later, h using Nat.le_induction with
  | base => rw [daysBeforeYear_succ hpos]
  | succ later hlater ih =>
    rw [daysBeforeYear_succ (by omega)]
    omega

theorem daysBeforeMonth_add_le (leap : Bool)
    : ∀ later ≤ 12, ∀ month < later,
        daysBeforeMonth leap month + monthLength leap month ≤ daysBeforeMonth leap later := by
  cases leap <;> decide

theorem daysBeforeMonth_add_le_yearLength (leap : Bool)
    : ∀ month ≤ 12,
        daysBeforeMonth leap month + monthLength leap month ≤ yearLength leap := by
  cases leap <;> decide

theorem eq_iff {d e : Date} : d = e ↔ d.year = e.year ∧ d.month = e.month ∧ d.day = e.day := by
  cases d
  cases e
  rw [mk.injEq]

def Before (d e : Date) : Prop :=
  d.year < e.year ∨ d.year = e.year ∧ (d.month < e.month ∨ d.month = e.month ∧ d.day < e.day)

theorem isReal_iff {d : Date}
    : d.isReal = true
        ↔ (1 ≤ d.year ∧ d.year ≤ 9999) ∧ d.month ≤ 12
          ∧ 1 ≤ d.day ∧ d.day ≤ monthLength (isLeap d.year) d.month := by
  unfold isReal
  simp only [Bool.and_eq_true, decide_eq_true_eq]
  constructor
  . rintro ⟨⟨hyear, hpos⟩, hle⟩
    refine ⟨hyear, ?_, hpos, hle⟩
    -- There is no month after the twelfth, so it has no days.
    by_contra hmonth
    obtain ⟨month, hmonth'⟩ : ∃ month, d.month = month + 1 := ⟨d.month - 1, by omega⟩
    have hnone : monthLength (isLeap d.year) d.month = 0 := by
      rw [hmonth', monthLength, List.getD_eq_getElem?_getD, List.getElem?_eq_none]
      . rfl
      . simp only [monthLengths, List.length_cons, List.length_nil]
        omega
    omega
  . rintro ⟨hyear, -, hpos, hle⟩
    exact ⟨⟨hyear, hpos⟩, hle⟩

theorem toDays_lt_of_before {d e : Date} (hd : d.isReal = true) (he : e.isReal = true)
    (h : d.Before e) : d.toDays < e.toDays := by
  obtain ⟨hyear, hmonth, hday, hlast⟩ := isReal_iff.mp hd
  obtain ⟨-, hmonth', hday', -⟩ := isReal_iff.mp he
  unfold toDays
  rcases h with h | ⟨h, h' | ⟨h', h''⟩⟩
  . have hyears := daysBeforeYear_add_le h hyear.1
    have hmonths := daysBeforeMonth_add_le_yearLength (isLeap d.year) d.month hmonth
    omega
  . have hmonths := daysBeforeMonth_add_le (isLeap d.year) e.month hmonth' d.month h'
    rw [← h]
    omega
  . rw [← h, ← h']
    omega

theorem toDays_lt_iff {d e : Date} (hd : d.isReal = true) (he : e.isReal = true)
    : d.toDays < e.toDays ↔ d.Before e := by
  refine ⟨?_, toDays_lt_of_before hd he⟩
  intro hlt
  by_contra hnot
  have hle : e.Before d ∨ e = d := by
    unfold Before at *
    rw [eq_iff]
    omega
  cases hle with
  | inl hbefore => exact absurd (toDays_lt_of_before he hd hbefore) (by omega)
  | inr heq =>
    rw [heq] at hlt
    omega

theorem toDays_inj {d e : Date} (hd : d.isReal = true) (he : e.isReal = true)
    : d.toDays = e.toDays ↔ d = e := by
  refine ⟨?_, congrArg toDays⟩
  intro heq
  have hbefore := mt (toDays_lt_iff hd he).mpr (by omega)
  have hafter := mt (toDays_lt_iff he hd).mpr (by omega)
  unfold Before at *
  rw [eq_iff]
  omega

end Date

end Datebook
