import Datebook.Proofs.Time.Window

/-!
This module contains the verification that a zone has a present day, except near the ends of the
supported years, where its clocks stay within a day of universal time.
-/

namespace Datebook

/--
Whether an instant lies in the years 2 to 9998.
-/
def Instant.isInner (t : Instant) : Bool :=
  (Date.mk 2 1 1).toDays * Instant.day ≤ t && t < (Date.mk 9999 1 1).toDays * Instant.day

theorem Instant.isInner_iff {t : Int}
    : Instant.isInner t = true ↔ 365 * Instant.day ≤ t ∧ t < 3651694 * Instant.day := by
  have hfirst : (Date.mk 2 1 1).toDays = 365 := by decide
  have hlast : (Date.mk 9999 1 1).toDays = 3651694 := by decide
  unfold isInner
  rw [hfirst, hlast, Bool.and_eq_true, decide_eq_true_eq, decide_eq_true_eq]
  rfl

theorem Instant.isSupported_of_isInner {t : Int} (h : Instant.isInner t = true)
    : Instant.isSupported t = true := by
  rw [isInner_iff] at h
  unfold isSupported limit
  unfold day second at *
  rw [Bool.and_eq_true, decide_eq_true_eq, decide_eq_true_eq]
  show (0 : Int) ≤ t ∧ t < 3652059 * (86400 * 1000000)
  omega

namespace Zone

theorem natAbs_offsetAt_go_lt {t : Instant} {current : Int} {changes : List Change}
    (hcurrent : current.natAbs < 86400) (hchanges : ∀ change ∈ changes, change.offset.natAbs < 86400)
    : (offsetAt.go t current changes).natAbs < 86400 := by
  induction changes generalizing current with
  | nil => exact hcurrent
  | cons change rest ih =>
    rw [List.forall_mem_cons] at hchanges
    unfold offsetAt.go
    split
    . exact ih hchanges.1 hchanges.2
    . exact hcurrent

variable {zone : Zone} {now : Int}

theorem IsNear.hasToday (h : zone.IsNear) (hnow : Instant.isInner now = true)
    : zone.HasToday now := by
  -- A year is left at both ends, and the clocks take away less than a day of it.
  have hoffset : (zone.offsetAt now).natAbs < 86400 := natAbs_offsetAt_go_lt h.initial h.changes
  rw [Instant.isInner_iff] at hnow
  have hwall : 0 ≤ zone.wallAt now ∧ zone.wallAt now < 3651695 * Instant.day := by
    show 0 ≤ now + zone.offsetAt now * Instant.second ∧ now + zone.offsetAt now * Instant.second < _
    unfold Instant.day Instant.second at *
    omega
  have hsupported {t : Int} (h : 0 ≤ t ∧ t < 3652059 * Instant.day)
      : Instant.isSupported t = true := by
    unfold Instant.isSupported
    rw [Bool.and_eq_true, decide_eq_true_eq, decide_eq_true_eq]
    exact h
  constructor
  . apply hsupported
    unfold Instant.day Instant.second at *
    omega
  . apply hsupported
    unfold Instant.day Instant.second at *
    omega

end Zone

end Datebook
