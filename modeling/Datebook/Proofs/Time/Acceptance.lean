import Datebook.Proofs.Time.Stamp

/-!
This module contains the verification of which texts are timestamps, of which instants, and for which
reason the others are not.
-/

namespace Datebook

namespace Timestamp

/--
Whether the date of a timestamp is one of the calendar, and the clock and the offset show such times.
-/
structure Parts.IsReal (p : Parts) : Prop where
  date : (Date.mk p.year p.month p.day).isReal = true
  hour : p.hour ≤ 23
  minute : p.minute ≤ 59
  second : p.second ≤ 59
  offsetHour : p.offsetHour ≤ 23
  offsetMinute : p.offsetMinute ≤ 59

def Parts.universal (p : Parts) : Int :=
  p.reading.toMicros - p.ahead * Instant.second

variable {s : List Char} {p : Parts} {t : Int}

theorem IsFraction.micro_lt {micro : Nat} (h : IsFraction s micro) : micro < 10 ^ 6 := by
  cases h with
  | absent => decide
  | given hmark hdigits hsome hmost =>
    have hlt := Text.ofDigits_lt hdigits.lt_ten
    apply Nat.div_lt_of_lt_mul
    apply Nat.mul_lt_mul_of_pos_right hlt
    decide

theorem IsClock.micro_lt {hour minute second micro : Nat}
    (h : IsClock s hour minute second micro) : micro < 10 ^ 6 := by
  cases h with
  | absent => decide
  | given hmark hhour hminute hseconds =>
    cases hseconds with
    | absent => decide
    | given hsecond hfraction => exact hfraction.micro_lt

theorem IsWritten.micro_lt (h : IsWritten s p) : p.micro < 10 ^ 6 := by
  obtain ⟨hyear, hmonth, hday, hclock, hoffset⟩ := h
  exact hclock.micro_lt

theorem Parts.isReal_iff (hmicro : p.micro < 10 ^ 6)
    : p.IsReal ↔ p.reading.isReal = true ∧ p.offsetHour ≤ 23 ∧ p.offsetMinute ≤ 59 := by
  unfold Parts.reading ClockReading.isReal
  simp only [Bool.and_eq_true, decide_eq_true_eq]
  constructor
  . rintro ⟨hdate, hhour, hminute, hsecond, hoffset, hoffset'⟩
    exact ⟨⟨⟨⟨⟨hdate, hhour⟩, hminute⟩, hsecond⟩, by omega⟩, hoffset, hoffset'⟩
  . rintro ⟨⟨⟨⟨⟨hdate, hhour⟩, hminute⟩, hsecond⟩, -⟩, hoffset, hoffset'⟩
    exact ⟨hdate, hhour, hminute, hsecond, hoffset, hoffset'⟩

theorem IsWritten.instant?_eq_some_iff (h : IsWritten s p)
    : p.instant? = some t ↔ p.IsReal ∧ t = p.universal ∧ Instant.isSupported t = true := by
  rw [instant?_eq_some, ← Parts.isReal_iff h.micro_lt, ← Parts.universal, eq_comm]

theorem IsWritten.ne_nil (h : IsWritten s p) : s ≠ [] := by
  obtain ⟨hyear, hmonth, hday, hclock, hoffset⟩ := h
  simp

theorem IsWritten.unique {q : Parts} (hp : IsWritten s p) (hq : IsWritten s q) : q = p := by
  have hparts := hq.parts?_eq
  rw [hp.parts?_eq, Option.some.injEq] at hparts
  exact hparts.symm

def Parts.Exists (p : Parts) : Prop :=
  p.IsReal ∧ Instant.isSupported p.universal = true

variable {text : String}

theorem read_of_blank (h : Text.trim text.toList = []) : read text = .error .blank := by
  rw [read_eq, h]

theorem read_of_not_written (hsome : Text.trim text.toList ≠ [])
    (h : ∀ p, ¬ IsWritten (Text.trim text.toList) p) : read text = .error (.form text) := by
  have hnone : parts? (Text.trim text.toList) = none := by
    rw [Option.eq_none_iff_forall_not_mem]
    intro p hp
    exact h p (parts?_eq_some_iff.mp hp)
  rw [read_eq]
  split
  . contradiction
  . rw [hnone]

theorem read_of_exists (h : IsWritten (Text.trim text.toList) p) (hp : p.Exists)
    : read text = .ok p.universal :=
  read_eq_ok.mpr ⟨p, h.parts?_eq, h.instant?_eq_some_iff.mpr ⟨hp.1, rfl, hp.2⟩⟩

theorem read_of_not_exists (h : IsWritten (Text.trim text.toList) p) (hp : ¬ p.Exists)
    : read text = .error (.components text) := by
  have hnone : p.instant? = none := by
    rw [Option.eq_none_iff_forall_not_mem]
    intro t ht
    obtain ⟨hreal, rfl, hsupported⟩ := h.instant?_eq_some_iff.mp ht
    exact hp ⟨hreal, hsupported⟩
  rw [read_eq]
  split
  . next hnil => exact absurd hnil h.ne_nil
  . simp only [h.parts?_eq, hnone]

/--
What becomes of a text is decided by the parts with which it is written: the text is an instant if
they are real and the instant lies in the supported years. Neither zero seconds nor a `Z` that are put
where none are written have a part in this.
-/
theorem ofValue_accepts_grammar (text : String)
    : (∀ t, ofValue (.text text) = .ok t
        ↔ ∃ p, IsWritten (Text.trim text.toList) p ∧ p.Exists ∧ t = p.universal)
      ∧ (ofValue (.text text) = .error .blank ↔ Text.trim text.toList = [])
      ∧ (ofValue (.text text) = .error (.form text)
        ↔ Text.trim text.toList ≠ [] ∧ ∀ p, ¬ IsWritten (Text.trim text.toList) p)
      ∧ (ofValue (.text text) = .error (.components text)
        ↔ ∃ p, IsWritten (Text.trim text.toList) p ∧ ¬ p.Exists)
      ∧ (∀ e, ofValue (.text text) = .error e → e ∈ [.blank, .form text, .components text])
      ∧ parts? (completed (Text.trim text.toList)) = parts? (Text.trim text.toList) := by
  have hvalue : ofValue (.text text) = read text := rfl
  rw [hvalue, parts?_completed]
  by_cases hnil : Text.trim text.toList = []
  . have hnone : ∀ p, ¬ IsWritten [] p := fun p h => h.ne_nil rfl
    simp [read_of_blank hnil, hnil, hnone]
  . by_cases hsome : ∃ p, IsWritten (Text.trim text.toList) p
    . obtain ⟨p, hp⟩ := hsome
      have hparts : ∀ q, IsWritten (Text.trim text.toList) q ↔ q = p :=
        fun q => ⟨hp.unique, fun h => h ▸ hp⟩
      by_cases hexists : p.Exists
      . simp [read_of_exists hp hexists, hnil, hparts, hexists, eq_comm]
      . simp [read_of_not_exists hp hexists, hnil, hparts, hexists]
    . rw [not_exists] at hsome
      simp [read_of_not_written hnil hsome, hnil, hsome]

end Timestamp

end Datebook
