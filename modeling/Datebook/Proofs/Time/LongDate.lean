import Datebook.Proofs.Fault
import Datebook.Proofs.Time.Stamp
import Datebook.Time.LongDate

/-!
This module contains the verification of the times of events: what is read is a canonical timestamp,
and there is one kind of text that cannot even be refused.
-/

namespace Datebook

namespace LongDate

variable {s stamp : String}

def isFarOff (s : String) : Bool :=
  match parts? (Text.trim s.toList) with
  | none => false
  | some p => (monthNumber? p.month).isSome && 86400 ≤ p.ahead.natAbs

theorem read_crashes : Crashes (read s) ↔ isFarOff s = true := by
  unfold read isFarOff
  cases hparts : parts? (Text.trim s.toList) with
  | none => simp [Fault.IsCrash]
  | some p =>
    dsimp only
    split
    . next hmonth => simp [Fault.IsCrash, hmonth]
    . next month hmonth =>
      rw [hmonth]
      split
      . next hfar => simp [Fault.IsCrash, hfar]
      . next hnear =>
        simp only [Option.isSome_some, hnear, decide_false, Bool.and_false, Bool.false_eq_true,
          iff_false]
        split
        . split
          . simp [Fault.IsCrash]
          . simp
        . simp [Fault.IsCrash]

theorem read_failsOnly (s : String) : FailsOnly (fun e => e.IsDate ∨ e.IsCrash) (read s) := by
  unfold read
  split
  . simp [Fault.IsDate]
  . split
    . simp [Fault.IsDate]
    . split
      . simp [Fault.IsCrash]
      . dsimp only
        split
        . split
          . simp [Fault.IsDate]
          . simp
        . simp [Fault.IsDate]

theorem exists_stamp (h : read s = .ok stamp)
    : ∃ t, Instant.isSupported t = true ∧ stamp = Instant.stamp t := by
  unfold read at h
  split at h
  . cases h
  . split at h
    . cases h
    . split at h
      . cases h
      . dsimp only at h
        split at h
        . split at h
          . cases h
          . next t ht =>
            injection h with h
            exact ⟨t, Timestamp.isSupported_of_ofMoment ht, h.symm⟩
        . cases h

theorem digit?_of_isLetter {c : Char} (h : isLetter c = true) : Text.digit? c = none := by
  unfold isLetter at h
  simp only [Bool.or_eq_true, Bool.and_eq_true, decide_eq_true_eq] at h
  have hcode : (65 ≤ c.toNat ∧ c.toNat ≤ 90) ∨ (97 ≤ c.toNat ∧ c.toNat ≤ 122) := h
  unfold Text.digit?
  dsimp only
  rw [if_pos (by omega), if_neg (by omega)]

theorem isBlank_of_isLetter {c : Char} (h : isLetter c = true) : Text.isBlank c = false := by
  unfold isLetter at h
  simp only [Bool.or_eq_true, Bool.and_eq_true, decide_eq_true_eq] at h
  have hcode : (65 ≤ c.toNat ∧ c.toNat ≤ 90) ∨ (97 ≤ c.toNat ∧ c.toNat ≤ 122) := h
  unfold Text.isBlank
  simp only [Bool.or_eq_false_iff, Bool.and_eq_false_iff, decide_eq_false_iff_not,
    beq_eq_false_iff_ne]
  omega

theorem head_of_parts? {s : List Char} {p : Parts} (h : parts? s = some p)
    : ∃ c rest, s = c :: rest ∧ isLetter c = true := by
  unfold parts? month at h
  cases hletters : threeLetters s with
  | none =>
    rw [hletters] at h
    cases h
  | some found =>
    unfold threeLetters at hletters
    split at hletters
    . next a b c rest =>
      split at hletters
      . next hall =>
        rw [Bool.and_eq_true, Bool.and_eq_true] at hall
        exact ⟨a, b :: c :: rest, rfl, hall.1.1⟩
      . cases hletters
    . cases hletters

/--
No text is both a timestamp and a long date, for the one starts with a digit and the other with a
letter.
-/
theorem timestamp_parts?_eq_none {s : List Char} {p : Parts} (h : parts? s = some p)
    : Timestamp.parts? s = none := by
  obtain ⟨c, rest, rfl, hletter⟩ := head_of_parts? h
  unfold Timestamp.parts? Timestamp.number
  rw [digit?_of_isLetter hletter]
  rfl

theorem of_parts? {p : Parts} (h : parts? (Text.trim s.toList) = some p)
    : Text.isBlankText s = false ∧ ∃ e, Timestamp.read s = .error e := by
  obtain ⟨c, rest, htrim, -⟩ := head_of_parts? h
  constructor
  . rw [← Bool.not_eq_true]
    intro hblank
    rw [Text.isBlankText, ← Text.trim_eq_nil_iff, htrim] at hblank
    cases hblank
  . have hnone := timestamp_parts?_eq_none h
    rw [htrim] at hnone
    rw [Timestamp.read_eq, htrim]
    dsimp only
    rw [hnone]
    exact ⟨_, rfl⟩

theorem of_isFarOff (h : isFarOff s = true)
    : Text.isBlankText s = false ∧ ∃ e, Timestamp.read s = .error e := by
  unfold isFarOff at h
  split at h
  . cases h
  . next p hparts => exact of_parts? hparts

end LongDate

namespace EventTime

variable {v : Value} {stamp : String}

/--
Whether the time of an event is a long date whose offset from universal time is a day or more.
-/
def isFarOff (v : Value) : Bool :=
  match source v with
  | .text s => LongDate.isFarOff s
  | _ => false

theorem read_crashes : Crashes (read v) ↔ isFarOff v = true := by
  unfold read isFarOff
  cases source v with
  | text s =>
    dsimp only
    split
    . next hblank =>
      simp only [Crashes.error, Fault.IsCrash, false_iff]
      intro hfar
      rw [(LongDate.of_isFarOff hfar).1] at hblank
      cases hblank
    . split
      . next t ht =>
        simp only [Crashes.ok, false_iff]
        intro hfar
        obtain ⟨-, e, he⟩ := LongDate.of_isFarOff hfar
        rw [ht] at he
        cases he
      . exact LongDate.read_crashes
  | _ => simp [Fault.IsCrash]

theorem read_failsOnly (v : Value) : FailsOnly (fun e => e.IsDate ∨ e.IsCrash) (read v) := by
  unfold read
  split
  . split
    . simp [Fault.IsDate]
    . split
      . simp
      . apply LongDate.read_failsOnly
  . simp [Fault.IsDate]

theorem exists_stamp (h : read v = .ok stamp)
    : ∃ t, Instant.isSupported t = true ∧ stamp = Instant.stamp t := by
  unfold read at h
  split at h
  . split at h
    . cases h
    . split at h
      . next t ht =>
        injection h with h
        exact ⟨t, Timestamp.isSupported_of_read ht, h.symm⟩
      . exact LongDate.exists_stamp h
  . cases h

theorem denotes_of_read (h : read v = .ok stamp) : ∃ t, Timestamp.Denotes (.text stamp) t := by
  obtain ⟨t, ht, rfl⟩ := exists_stamp h
  exact ⟨_, Timestamp.denotes_stamp ht⟩

theorem read_of_denotes {s : String} {t : Int} (h : Timestamp.Denotes (.text s) t)
    : read (.text s) = .ok (Instant.stamp t) := by
  obtain ⟨_, ⟨⟩, hstamp, hread⟩ := h
  have hink : Text.isBlankText s = false := by
    rw [← Bool.not_eq_true, Text.isBlankText, ← Text.trim_eq_nil_iff,
      Timestamp.trim_of_isStamp hstamp]
    intro hnil
    rw [Timestamp.isStamp, hnil] at hstamp
    cases hstamp
  unfold read source
  simp [hink, hread]

theorem read_stamp {t : Int} (h : Instant.isSupported t = true)
    : read (.text (Instant.stamp t)) = .ok (Instant.stamp t) := by
  rw [read_of_denotes (Timestamp.denotes_stamp h), Timestamp.stamp_floorMilli h]

theorem read_again (h : read v = .ok stamp) : read (.text stamp) = .ok stamp := by
  obtain ⟨t, ht, rfl⟩ := exists_stamp h
  exact read_stamp ht

end EventTime

end Datebook
