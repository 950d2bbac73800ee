import Datebook.Number.Shortest
import Datebook.Text.Blank
import Mathlib.Algebra.Ring.Nat
import Mathlib.Data.List.TakeWhile

/-!
This module contains the verification of texts: decimal digits of a fixed width, trimming, and what is
not blank.
-/

namespace Datebook

namespace Text

theorem padded_succ (width n : Nat) (h : 0 < width)
    : padded (width + 1) n = padded width (n / 10) ++ [Nat.digitChar (n % 10)] := by
  unfold padded
  dsimp only
  by_cases hn : n < 10
  . have hdiv : n / 10 = 0 := by omega
    have hmod : n % 10 = n := by omega
    obtain ⟨k, rfl⟩ : ∃ k, width = k + 1 := ⟨width - 1, by omega⟩
    rw [hdiv, hmod, Nat.toDigits_of_lt_base hn, Nat.toDigits_zero]
    simp only [List.length_cons, List.length_nil, Nat.zero_add, Nat.add_sub_cancel]
    rw [List.replicate_succ']
  . rw [Nat.toDigits_of_base_le (by decide) (Nat.le_of_not_lt hn)]
    rw [List.length_append, ← List.append_assoc]
    congr 3
    simp

theorem padded_one {n : Nat} (h : n < 10) : padded 1 n = [Nat.digitChar n] := by
  unfold padded
  rw [Nat.toDigits_of_lt_base h]
  rfl

@[simp]
theorem digit?_digitChar {d : Nat} (h : d < 10) : digit? (Nat.digitChar d) = some d := by
  revert d
  decide

theorem isDigit_of_mem_padded {width n : Nat} {c : Char} (h : c ∈ padded width n)
    : '0' ≤ c ∧ c ≤ '9' := by
  unfold padded at h
  rw [List.mem_append] at h
  cases h with
  | inl h =>
    rw [List.eq_of_mem_replicate h]
    decide
  | inr h =>
    have hdigit := Nat.isDigit_of_mem_toDigits (by decide) (by decide) h
    unfold Char.isDigit at hdigit
    rw [Bool.and_eq_true, decide_eq_true_eq, decide_eq_true_eq] at hdigit
    exact hdigit

theorem length_padded {width n : Nat} (h : n < 10 ^ (width + 1))
    : (padded (width + 1) n).length = width + 1 := by
  induction width generalizing n with
  | zero =>
    rw [padded_one h]
    rfl
  | succ width ih =>
    rw [padded_succ (width + 1) n (by omega), List.length_append, ih (by omega)]
    rfl

theorem isBlank_of_isDigit {c : Char} (h : '0' ≤ c ∧ c ≤ '9') : isBlank c = false := by
  obtain ⟨hlow, hhigh⟩ := h
  have hlow : 48 ≤ c.toNat := hlow
  have hhigh : c.toNat ≤ 57 := hhigh
  unfold isBlank
  simp only [Bool.or_eq_false_iff, Bool.and_eq_false_iff, decide_eq_false_iff_not,
    beq_eq_false_iff_ne]
  omega

theorem exists_digit? {c : Char} (h : '0' ≤ c ∧ c ≤ '9')
    : ∃ d, digit? c = some d := by
  obtain ⟨hlow, hhigh⟩ := h
  have hlow : 48 ≤ c.toNat := hlow
  have hhigh : c.toNat ≤ 57 := hhigh
  refine ⟨c.toNat - 48, ?_⟩
  unfold digit?
  dsimp only
  rw [if_pos (by omega), if_pos (by omega)]

theorem trimEnd_of_all {s : List Char} (h : ∀ c ∈ s, isBlank c = false) : trimEnd s = s := by
  induction s with
  | nil => rfl
  | cons c rest ih =>
    rw [trimEnd_cons_of_not_blank (h c (by simp)), ih]
    intro d hd
    exact h d (by simp [hd])

theorem trim_of_all {s : List Char} (h : ∀ c ∈ s, isBlank c = false) : trim s = s := by
  unfold trim trimStart
  cases s with
  | nil => rfl
  | cons c rest =>
    rw [List.dropWhile_cons_of_neg (by simp [h c])]
    exact trimEnd_of_all h

theorem trimEnd_append {gap : List Char} (hgap : ∀ c ∈ gap, isBlank c = true) (s : List Char)
    : trimEnd (s ++ gap) = trimEnd s := by
  induction s with
  | nil =>
    induction gap with
    | nil => rfl
    | cons c gap ih =>
      rw [List.forall_mem_cons] at hgap
      have hrest : trimEnd gap = [] := ih hgap.2
      simp [trimEnd, hrest, hgap.1]
  | cons c s ih =>
    rw [List.cons_append, trimEnd, ih]
    rfl

theorem trimEnd_append_of_ink {c : Char} (hc : isBlank c = false) (s rest : List Char)
    : trimEnd (s ++ c :: rest) = s ++ c :: trimEnd rest := by
  induction s with
  | nil => exact trimEnd_cons_of_not_blank hc rest
  | cons d s ih =>
    rw [List.cons_append, trimEnd, ih]
    cases s with
    | nil => rfl
    | cons e s => rfl

theorem trimEnd_concat {c : Char} (hc : isBlank c = false) (s : List Char)
    : trimEnd (s ++ [c]) = s ++ [c] :=
  trimEnd_append_of_ink hc s []

theorem trimStart_append_of_ink {c : Char} (hc : isBlank c = false) (s rest : List Char)
    : trimStart (s ++ c :: rest) = trimStart s ++ c :: rest := by
  unfold trimStart
  rw [List.dropWhile_append]
  split
  . next hempty =>
    rw [List.isEmpty_iff.mp hempty, List.dropWhile_cons_of_neg (by simp [hc]), List.nil_append]
  . rfl

theorem trim_framed {before after : List Char} (hbefore : ∀ c ∈ before, isBlank c = true)
    (hafter : ∀ c ∈ after, isBlank c = true) {first last : Char} (hfirst : isBlank first = false)
    (hlast : isBlank last = false) (inner : List Char)
    : trim (before ++ (first :: (inner ++ [last]) ++ after)) = first :: (inner ++ [last]) := by
  unfold trim trimStart
  rw [List.dropWhile_append_of_pos hbefore, List.cons_append,
    List.dropWhile_cons_of_neg (by simp [hfirst]), ← List.cons_append, trimEnd_append hafter,
    ← List.cons_append, trimEnd_concat hlast]

def EndsWithInk (s : List Char) : Prop :=
  ∃ before c, s = before ++ [c] ∧ isBlank c = false

theorem EndsWithInk.append {s : List Char} (h : EndsWithInk s) (before : List Char)
    : EndsWithInk (before ++ s) := by
  obtain ⟨middle, c, rfl, hc⟩ := h
  exact ⟨before ++ middle, c, (List.append_assoc _ _ _).symm, hc⟩

theorem trim_of_ends {c : Char} (hc : isBlank c = false) {s : List Char} (h : EndsWithInk (c :: s))
    : trim (c :: s) = c :: s := by
  obtain ⟨before, last, heq, hlast⟩ := h
  unfold trim trimStart
  rw [List.dropWhile_cons_of_neg (by simp [hc]), heq, trimEnd_concat hlast]

theorem trim_eq_nil_iff {s : List Char} : trim s = [] ↔ s.all isBlank = true := by
  induction s with
  | nil => simp [trim, trimStart, trimEnd]
  | cons c rest ih =>
    unfold trim trimStart at *
    cases hc : isBlank c with
    | true => rw [List.dropWhile_cons_of_pos hc, ih, List.all_cons, hc, Bool.true_and]
    | false =>
      rw [List.dropWhile_cons_of_neg (by simp [hc]), trimEnd_cons_of_not_blank hc]
      simp [hc]

theorem mem_trimEnd {c : Char} (hc : isBlank c = false) {s : List Char} (h : c ∈ s)
    : c ∈ trimEnd s := by
  induction s with
  | nil => exact h
  | cons d rest ih =>
    rw [List.mem_cons] at h
    rw [trimEnd]
    split
    . next hrest =>
      cases h with
      | inl h => simp [← h, hc]
      | inr h =>
        have hmem := ih h
        rw [hrest] at hmem
        cases hmem
    . cases h with
      | inl h => simp [h]
      | inr h => exact List.mem_cons_of_mem _ (ih h)

theorem mem_trim {c : Char} (hc : isBlank c = false) {s : List Char} (h : c ∈ s) : c ∈ trim s := by
  apply mem_trimEnd hc
  rw [← List.takeWhile_append_dropWhile (p := isBlank) (l := s), List.mem_append] at h
  cases h with
  | inl h =>
    rw [List.all_eq_true.mp List.all_takeWhile c h] at hc
    cases hc
  | inr h => exact h

theorem trimEnd_prefix_self (s : List Char) : trimEnd s <+: s := by
  induction s with
  | nil => exact List.prefix_rfl
  | cons c rest ih =>
    rw [trimEnd]
    split
    . split
      . exact List.nil_prefix
      . exact List.cons_prefix_cons.mpr ⟨rfl, List.nil_prefix⟩
    . exact List.cons_prefix_cons.mpr ⟨rfl, ih⟩

theorem mem_of_mem_trim {c : Char} {s : List Char} (h : c ∈ trim s) : c ∈ s :=
  (List.dropWhile_suffix _).subset ((trimEnd_prefix_self _).subset h)

theorem length_trim_le (s : List Char) : (trim s).length ≤ s.length :=
  Nat.le_trans (trimEnd_prefix_self _).length_le (List.dropWhile_suffix _).length_le

theorem strip_eq_empty_iff {s : String} : strip s = "" ↔ s.toList.all isBlank = true := by
  unfold strip
  rw [← trim_eq_nil_iff, String.ofList_eq_empty_iff]

def IsTrimmed (s : String) : Prop :=
  strip s = s

instance (s : String) : Decidable (IsTrimmed s) :=
  inferInstanceAs (Decidable (strip s = s))

theorem IsTrimmed.trim_eq {s : String} (h : IsTrimmed s) : trim s.toList = s.toList := by
  have htoList := congrArg String.toList h
  rwa [strip, String.toList_ofList] at htoList

theorem isTrimmed_trim (s : List Char) : IsTrimmed (String.ofList (trim s)) := by
  unfold IsTrimmed strip
  rw [String.toList_ofList, trim_trim]

theorem isTrimmed_strip (s : String) : IsTrimmed (strip s) :=
  isTrimmed_trim s.toList

def HasInk (s : List Char) : Prop :=
  ∃ c ∈ s, isBlank c = false

theorem trimStart_ne_nil {s : List Char} (h : HasInk s) : trimStart s ≠ [] := by
  obtain ⟨c, hmem, hc⟩ := h
  unfold trimStart
  rw [Ne, List.dropWhile_eq_nil_iff]
  intro hall
  rw [hall c hmem] at hc
  cases hc

theorem trimStart_append {s : List Char} (h : HasInk s) (rest : List Char)
    : trimStart (s ++ rest) = trimStart s ++ rest := by
  have hne := trimStart_ne_nil h
  unfold trimStart at hne ⊢
  rw [List.dropWhile_append, if_neg (by simpa using hne)]

theorem trimStart_of_trim {s : List Char} (h : trim s = s) : trimStart s = s := by
  apply (List.dropWhile_suffix _).eq_of_length_le
  have hlength := (trimEnd_prefix_self (trimStart s)).length_le
  unfold trim at h
  rwa [h] at hlength

theorem hasInk_of_trim (before : List Char) {rest : List Char}
    (h : trim (before ++ rest) = before ++ rest) (hne : rest ≠ []) : HasInk rest := by
  have hend : trimEnd (before ++ rest) = before ++ rest := by
    have htrim := h
    unfold trim at htrim
    rwa [trimStart_of_trim h] at htrim
  by_contra hnone
  have hblank : ∀ c ∈ rest, isBlank c = true := by
    intro c hc
    by_contra hink
    exact hnone ⟨c, hc, by simpa using hink⟩
  have hlength := (trimEnd_prefix_self before).length_le
  rw [trimEnd_append hblank] at hend
  rw [hend, List.length_append] at hlength
  exact hne (List.eq_nil_of_length_eq_zero (by omega))

theorem ends_of_trim {s : List Char} (h : trim s = s) (hne : s ≠ [])
    : (∃ c rest, s = c :: rest ∧ isBlank c = false) ∧ EndsWithInk s := by
  constructor
  . obtain ⟨c, rest, rfl⟩ := List.exists_cons_of_ne_nil hne
    refine ⟨c, rest, rfl, ?_⟩
    have hstart := List.head?_dropWhile_not isBlank (c :: rest)
    have htrim := trimStart_of_trim h
    rw [trimStart] at htrim
    rw [htrim] at hstart
    simpa using hstart
  . have hlast := (List.dropLast_concat_getLast hne).symm
    refine ⟨_, _, hlast, ?_⟩
    have hends : HasInk [s.getLast hne] := hasInk_of_trim s.dropLast (hlast ▸ h) nofun
    obtain ⟨c, hc, hink⟩ := hends
    rwa [List.mem_singleton.mp hc] at hink

theorem trim_append_of_blank {before : List Char} (h : ∀ c ∈ before, isBlank c = true)
    (s : List Char) : trim (before ++ s) = trim s := by
  rw [trim, trim, trimStart, trimStart, List.dropWhile_append_of_pos h]

theorem HasInk.strip_ne_empty {s : String} (h : HasInk s.toList) : strip s ≠ "" := by
  obtain ⟨c, hmem, hc⟩ := h
  rw [Ne, strip_eq_empty_iff, List.all_eq_true]
  intro hall
  rw [hall c hmem] at hc
  cases hc

theorem hasInk_toString (i : Int) : HasInk (toString i).toList := by
  cases i with
  | ofNat n =>
    have hdigits : (toString (Int.ofNat n)).toList = Nat.toDigits 10 n := Nat.toList_repr
    rw [hdigits]
    obtain ⟨c, hmem⟩ := List.exists_mem_of_length_pos (Nat.length_toDigits_pos (b := 10) (n := n))
    refine ⟨c, hmem, ?_⟩
    have hdigit := Nat.isDigit_of_mem_toDigits (by decide) (by decide) hmem
    unfold Char.isDigit at hdigit
    rw [Bool.and_eq_true, decide_eq_true_eq, decide_eq_true_eq] at hdigit
    exact isBlank_of_isDigit hdigit
  | negSucc n =>
    refine ⟨'-', ?_, by decide⟩
    show '-' ∈ ("-" ++ (n + 1).repr).toList
    simp

end Text

namespace Binary64

theorem hasInk_layout_write (layout : Layout) (d : Decimal) : Text.HasInk (layout.write d) := by
  unfold Layout.write
  dsimp only
  split
  . refine ⟨'.', ?_, by decide⟩
    split
    . simp
    . simp
  . refine ⟨'e', ?_, by decide⟩
    simp

theorem hasInk_write (layout : Layout) (x : Binary64) : Text.HasInk (x.write layout).toList := by
  unfold write
  split
  . next negative m e =>
    rw [String.toList_ofList]
    by_cases hm : m = 0
    . refine ⟨'.', ?_, by decide⟩
      simp [hm]
    . obtain ⟨c, hmem, hc⟩ := hasInk_layout_write layout (shortest m e)
      refine ⟨c, ?_, hc⟩
      rw [if_neg hm]
      exact List.mem_append_right _ hmem
  . split
    . exact ⟨'i', by decide, by decide⟩
    . exact ⟨'i', by decide, by decide⟩
  . exact ⟨'n', by decide, by decide⟩

end Binary64

end Datebook
