import Datebook.Proofs.Time.Stamp

/-!
This module contains the verification that canonical timestamps are in the order of the instants they
stand for, and that the normalization of dates gives nothing else.
-/

namespace Datebook

namespace Text

theorem digitChar_lt_iff
    : ∀ a < 10, ∀ b < 10, (Nat.digitChar a < Nat.digitChar b ↔ a < b)
        ∧ (Nat.digitChar a = Nat.digitChar b ↔ a = b) := by
  decide

/--
Numbers that are written with the same width are in the order of their texts, whatever follows.
-/
theorem padded_append_lt {width a b : Nat} (ha : a < 10 ^ (width + 1)) (hb : b < 10 ^ (width + 1))
    (s r : List Char)
    : padded (width + 1) a ++ s < padded (width + 1) b ++ r ↔ a < b ∨ a = b ∧ s < r := by
  induction width generalizing a b s r with
  | zero =>
    obtain ⟨hlt, heq⟩ := digitChar_lt_iff a ha b hb
    rw [padded_one ha, padded_one hb, List.singleton_append, List.singleton_append,
      List.cons_lt_cons_iff, hlt, heq]
  | succ width ih =>
    obtain ⟨hlt, heq⟩ := digitChar_lt_iff (a % 10) (by omega) (b % 10) (by omega)
    rw [padded_succ _ a (by omega), padded_succ _ b (by omega), List.append_assoc,
      List.append_assoc, ih (by omega) (by omega), List.singleton_append, List.singleton_append,
      List.cons_lt_cons_iff, hlt, heq]
    by_cases hrest : s < r
    . simp only [hrest, and_true]
      omega
    . simp only [hrest, and_false, or_false]
      omega

theorem padded_cons_lt {width a b : Nat} (ha : a < 10 ^ (width + 1)) (hb : b < 10 ^ (width + 1))
    (mark : Char) (s r : List Char)
    : padded (width + 1) a ++ mark :: s < padded (width + 1) b ++ mark :: r
        ↔ a < b ∨ a = b ∧ s < r := by
  rw [padded_append_lt ha hb, List.cons_lt_cons_iff]
  simp

end Text

namespace ClockReading

def millis (c : ClockReading) : Nat :=
  (((c.date.toDays * 24 + c.hour) * 60 + c.minute) * 60 + c.second) * 1000 + c.micro / 1000

def Before (c e : ClockReading) : Prop :=
  c.date.Before e.date ∨ c.date = e.date ∧ (c.hour < e.hour ∨ c.hour = e.hour
    ∧ (c.minute < e.minute ∨ c.minute = e.minute ∧ (c.second < e.second ∨ c.second = e.second
      ∧ c.micro / 1000 < e.micro / 1000)))

variable {c e : ClockReading}

theorem millis_lt_iff (hc : c.isReal = true) (he : e.isReal = true)
    : c.millis < e.millis ↔ c.Before e := by
  unfold isReal at hc he
  simp only [Bool.and_eq_true, decide_eq_true_eq] at hc he
  obtain ⟨⟨⟨⟨hdate, hhour⟩, hminute⟩, hsecond⟩, hmicro⟩ := hc
  obtain ⟨⟨⟨⟨hdate', hhour'⟩, hminute'⟩, hsecond'⟩, hmicro'⟩ := he
  unfold millis Before
  rw [← Date.toDays_lt_iff hdate hdate', ← Date.toDays_inj hdate hdate']
  generalize c.date.toDays = days
  generalize e.date.toDays = days'
  omega

theorem text_lt_iff (hc : c.InRange) (he : e.InRange)
    : c.text 'T' ++ '.' :: Text.padded 3 (c.micro / 1000) ++ ['Z']
          < e.text 'T' ++ '.' :: Text.padded 3 (e.micro / 1000) ++ ['Z']
        ↔ c.Before e := by
  unfold text dateText
  simp only [List.append_assoc, List.cons_append]
  rw [Text.padded_cons_lt hc.year he.year]
  rw [Text.padded_cons_lt hc.month he.month]
  rw [Text.padded_cons_lt hc.day he.day]
  rw [Text.padded_cons_lt hc.hour he.hour]
  rw [Text.padded_cons_lt hc.minute he.minute]
  rw [Text.padded_cons_lt hc.second he.second]
  rw [Text.padded_cons_lt hc.micro he.micro]
  unfold Before Date.Before
  rw [Date.eq_iff]
  simp only [List.lt_irrefl, and_false, or_false]
  tauto

end ClockReading

namespace Timestamp

variable {t u : Int}

theorem millis_ofMicros (h : Instant.isSupported t = true)
    : ((ClockReading.ofMicros t).millis : Int) = t / 1000 := by
  obtain ⟨-, hmicros⟩ := ClockReading.ofMicros_parts h
  unfold ClockReading.toMicros at hmicros
  unfold ClockReading.millis
  push_cast
  omega

theorem stamp_lt_stamp (ht : Instant.isSupported t = true) (hu : Instant.isSupported u = true)
    : Instant.stamp t < Instant.stamp u ↔ Instant.floorMilli t < Instant.floorMilli u := by
  have hfloor : Instant.floorMilli t < Instant.floorMilli u ↔ t / 1000 < u / 1000 := by
    show t - t % 1000 < u - u % 1000 ↔ _
    omega
  obtain ⟨hreal, -⟩ := ClockReading.ofMicros_parts ht
  obtain ⟨hreal', -⟩ := ClockReading.ofMicros_parts hu
  unfold Instant.stamp
  rw [String.lt_iff, String.toList_ofList, String.toList_ofList,
    ClockReading.text_lt_iff (ClockReading.inRange_ofMicros ht) (ClockReading.inRange_ofMicros hu),
    ← ClockReading.millis_lt_iff hreal hreal', hfloor, ← millis_ofMicros ht, ← millis_ofMicros hu,
    Int.ofNat_lt]

theorem stamp_inj (ht : Instant.isSupported t = true) (hu : Instant.isSupported u = true)
    : Instant.stamp t = Instant.stamp u ↔ Instant.floorMilli t = Instant.floorMilli u := by
  constructor
  . intro h
    have hread := read_stamp ht
    rw [h, read_stamp hu, Except.ok.injEq] at hread
    exact hread.symm
  . intro h
    rw [← stamp_floorMilli ht, h, stamp_floorMilli hu]

theorem normalize_of_ofValue {v : Value} (h : ofValue v = .ok t)
    : normalize v = .ok (Instant.stamp t) := by
  unfold normalize
  rw [h]

theorem exists_normalize_iff (v : Value) : (∃ s, normalize v = .ok s) ↔ ∃ t, ofValue v = .ok t := by
  constructor
  . rintro ⟨s, hs⟩
    obtain ⟨t, ht, -, -⟩ := exists_of_normalize hs
    exact ⟨t, ht⟩
  . rintro ⟨t, ht⟩
    exact ⟨_, normalize_of_ofValue ht⟩

/--
Every value that can be read as an instant is normalized to a canonical timestamp, which reads as the
instant cut down to a millisecond and is normalized to itself. The timestamps of two values are in the
order of their milliseconds, and the same if these are.
-/
theorem normalize_isCanonical {v w : Value} (hv : ofValue v = .ok t) (hw : ofValue w = .ok u)
    : (∀ x, (∃ s, normalize x = .ok s) ↔ ∃ t, ofValue x = .ok t)
      ∧ ∃ s r, normalize v = .ok s ∧ normalize w = .ok r
        ∧ isStamp s = true
        ∧ ofValue (.text s) = .ok (Instant.floorMilli t)
        ∧ normalize (.text s) = .ok s
        ∧ (s < r ↔ Instant.floorMilli t < Instant.floorMilli u)
        ∧ (s = r ↔ Instant.floorMilli t = Instant.floorMilli u) := by
  have ht := isSupported_of_ofValue hv
  have hu := isSupported_of_ofValue hw
  have hread := ofValue_of_denotes (denotes_stamp ht)
  have hagain := normalize_of_ofValue hread
  rw [stamp_floorMilli ht] at hagain
  exact ⟨exists_normalize_iff, Instant.stamp t, Instant.stamp u, normalize_of_ofValue hv,
    normalize_of_ofValue hw, isStamp_stamp ht, hread, hagain, stamp_lt_stamp ht hu, stamp_inj ht hu⟩

def eve : Value := .text " 2024-02-28 23:59:59,9999-00:30\n"

def leapDay : Value := .date ⟨2024, 2, 29⟩

theorem normalize_isCanonical_on_leap_day
    : (ofValue eve = .ok 63844763399999900 ∧ ofValue leapDay = .ok 63844761600000000)
      ∧ ∃ s r, normalize eve = .ok s ∧ normalize leapDay = .ok r
        ∧ ofValue (.text s) = .ok 63844763399999000 ∧ normalize (.text s) = .ok s ∧ r < s := by
  have heve : ofValue eve = .ok 63844763399999900 := by decide +kernel
  have hleap : ofValue leapDay = .ok 63844761600000000 := by decide
  refine ⟨⟨heve, hleap⟩, ?_⟩
  obtain ⟨-, r, s, hr, hs, -, -, -, hlt, -⟩ := normalize_isCanonical hleap heve
  obtain ⟨-, s', -, hs', -, -, hread, hagain, -, -⟩ := normalize_isCanonical heve heve
  rw [hs, Except.ok.injEq] at hs'
  subst hs'
  exact ⟨s, r, hs, hr, hread, hagain, hlt.mpr (by decide)⟩

end Timestamp

end Datebook
