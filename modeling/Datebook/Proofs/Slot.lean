import Datebook.Slot
import Mathlib.Data.List.Pairwise

/-!
This module contains the verification of the gaps that busy spans leave in a window. The spans may
overlap, be empty or end before they start.
-/

namespace Datebook

namespace Span

theorem before_iff {a b c d : Int}
    : before ⟨a, b⟩ ⟨c, d⟩ = true ↔ a < c ∨ (a = c ∧ b ≤ d) := by
  simp [before]

theorem before_trans (p q r : Span) (hpq : p.before q = true) (hqr : q.before r = true)
    : p.before r = true := by
  cases p
  cases q
  cases r
  rw [before_iff] at *
  omega

theorem before_total (p q : Span) : (p.before q || q.before p) = true := by
  cases p
  cases q
  rw [Bool.or_eq_true, before_iff, before_iff]
  omega

theorem start_le_of_before {p q : Span} (h : p.before q = true) : p.start ≤ q.start := by
  cases p
  cases q
  rw [before_iff] at h
  cases h with
  | inl hlt => exact Int.le_of_lt hlt
  | inr heq => exact Int.le_of_eq heq.1

theorem pairwise_mergeSort (spans : List Span)
    : (spans.mergeSort before).Pairwise fun p q => p.start ≤ q.start := by
  apply (List.pairwise_mergeSort before_trans before_total spans).imp
  intro p q h
  exact start_le_of_before h

def IsClearOf (a b : Span) : Prop :=
  a.finish ≤ b.start ∨ b.finish ≤ a.start

end Span

namespace Slot

variable {finish cursor t : Int} {minimum : Length} {busy : List Span} {g : Span}

theorem mem_gap {start finish : Int} (h : g ∈ gap minimum start finish)
    : g = ⟨start, finish⟩ ∧ minimum ≤ finish - start := by
  unfold gap at h
  split at h
  . next hlong =>
    rw [List.mem_singleton] at h
    exact ⟨h, hlong⟩
  . cases h

theorem gap_eq_nil {start finish minimum : Int} (hminimum : 0 < minimum) (h : finish ≤ start)
    : gap minimum start finish = [] := by
  unfold gap
  rw [if_neg]
  show ¬ (minimum ≤ finish - start)
  omega

theorem pairwise_gap {R : Span → Span → Prop} {start finish : Int}
    : (gap minimum start finish).Pairwise R := by
  unfold gap
  split
  . apply List.pairwise_singleton
  . apply List.Pairwise.nil

/--
What lies between no later instant than `cursor` and no earlier one than `finish`, and lasts at least
`minimum`.
-/
structure IsGap (finish cursor : Instant) (minimum : Length) (busy : List Span) (g : Span) : Prop where
  start : cursor ≤ g.start
  finish : g.finish ≤ finish
  long : minimum ≤ g.finish - g.start
  clear : ∀ p ∈ busy, g.IsClearOf p

theorem isGap_of_mem_gaps (hminimum : 0 < minimum)
    (hsorted : busy.Pairwise fun a b => a.start ≤ b.start) (h : g ∈ gaps finish minimum cursor busy)
    : IsGap finish cursor minimum busy g := by
  induction busy generalizing cursor with
  | nil =>
    obtain ⟨rfl, hlong⟩ := mem_gap h
    exact ⟨Int.le_refl _, Int.le_refl _, hlong, nofun⟩
  | cons p rest ih =>
    rw [List.pairwise_cons] at hsorted
    unfold gaps at h
    split at h
    . next hend =>
      rw [gap_eq_nil hminimum hend] at h
      cases h
    . rw [List.mem_append] at h
      cases h with
      | inl h =>
        obtain ⟨rfl, hlong⟩ := mem_gap h
        refine ⟨Int.le_refl _, Int.min_le_right .., hlong, ?_⟩
        intro q hq
        left
        rw [List.mem_cons] at hq
        cases hq with
        | inl hq =>
          rw [hq]
          apply Int.min_le_left
        | inr hq => exact Int.le_trans (Int.min_le_left ..) (hsorted.1 q hq)
      | inr h =>
        obtain ⟨hstart, hfinish, hlong, hclear⟩ := ih hsorted.2 h
        refine ⟨Int.le_trans (Int.le_max_left ..) hstart, hfinish, hlong, ?_⟩
        intro q hq
        rw [List.mem_cons] at hq
        cases hq with
        | inl hq =>
          right
          rw [hq]
          exact Int.le_trans (Int.le_max_right ..) hstart
        | inr hq => exact hclear q hq

theorem le_finish_of_mem_gaps (hfinish : t ≤ finish) (hstarts : ∀ p ∈ busy, t ≤ p.start)
    (h : g ∈ gaps finish minimum cursor busy) : t ≤ g.finish := by
  induction busy generalizing cursor with
  | nil =>
    obtain ⟨rfl, -⟩ := mem_gap h
    exact hfinish
  | cons p rest ih =>
    rw [List.forall_mem_cons] at hstarts
    unfold gaps at h
    split at h
    . obtain ⟨rfl, -⟩ := mem_gap h
      exact hfinish
    . rw [List.mem_append] at h
      cases h with
      | inl h =>
        obtain ⟨rfl, -⟩ := mem_gap h
        exact Int.le_min.mpr ⟨hstarts.1, hfinish⟩
      | inr h => exact ih hstarts.2 h

/--
How a gap lies to a later one: it neither starts nor ends after it. Where it does not end before the
later one starts, a busy span is to blame that starts after both and ends before.
-/
structure Precedes (busy : List Span) (a b : Span) : Prop where
  start : a.start ≤ b.start
  finish : a.finish ≤ b.finish
  apart : a.finish ≤ b.start ∨ ∃ p ∈ busy, p.finish ≤ b.start ∧ b.start < a.finish ∧ a.finish ≤ p.start

theorem Precedes.mono {busy' : List Span} {a b : Span} (h : Precedes busy a b)
    (hsub : ∀ p ∈ busy, p ∈ busy') : Precedes busy' a b := by
  refine ⟨h.start, h.finish, ?_⟩
  cases h.apart with
  | inl hapart => exact .inl hapart
  | inr hblame =>
    obtain ⟨p, hp, hspan⟩ := hblame
    exact .inr ⟨p, hsub p hp, hspan⟩

theorem pairwise_gaps (hminimum : 0 < minimum)
    (hsorted : busy.Pairwise fun a b => a.start ≤ b.start)
    : (gaps finish minimum cursor busy).Pairwise (Precedes busy) := by
  induction busy generalizing cursor with
  | nil => apply pairwise_gap
  | cons p rest ih =>
    have hstarts := List.pairwise_cons.mp hsorted
    unfold gaps
    split
    . apply pairwise_gap
    . rw [List.pairwise_append]
      refine ⟨pairwise_gap, ?_, ?_⟩
      . apply (ih hstarts.2).imp
        intro a b h
        exact h.mono fun q hq => List.mem_cons_of_mem p hq
      . intro a ha b hb
        obtain ⟨rfl, -⟩ := mem_gap ha
        obtain ⟨hstart, -, -, -⟩ := isGap_of_mem_gaps hminimum hstarts.2 hb
        rw [Int.max_le] at hstart
        have hle : min p.start finish ≤ p.start := Int.min_le_left ..
        refine ⟨hstart.1, ?_, ?_⟩
        . apply le_finish_of_mem_gaps (Int.min_le_right ..) _ hb
          intro q hq
          exact Int.le_trans hle (hstarts.1 q hq)
        . -- The later gap starts after this span ends, and this gap ends before it starts.
          by_cases hoverlap : b.start < min p.start finish
          . exact .inr ⟨p, List.mem_cons_self, hstart.2, hoverlap, hle⟩
          . exact .inl (Int.not_lt.mp hoverlap)

theorem forall_mem_gaps {P : Int → Prop} (hcursor : P cursor) (hfinish : P finish)
    (hbusy : ∀ p ∈ busy, P p.start ∧ P p.finish) (h : g ∈ gaps finish minimum cursor busy)
    : P g.start ∧ P g.finish := by
  induction busy generalizing cursor with
  | nil =>
    obtain ⟨rfl, -⟩ := mem_gap h
    exact ⟨hcursor, hfinish⟩
  | cons p rest ih =>
    rw [List.forall_mem_cons] at hbusy
    unfold gaps at h
    split at h
    . obtain ⟨rfl, -⟩ := mem_gap h
      exact ⟨hcursor, hfinish⟩
    . rw [List.mem_append] at h
      cases h with
      | inl h =>
        obtain ⟨rfl, -⟩ := mem_gap h
        refine ⟨hcursor, ?_⟩
        show P (min p.start finish)
        rw [Int.min_def]
        split
        . exact hbusy.1.1
        . exact hfinish
      | inr h =>
        refine ih ?_ hbusy.2 h
        rw [Int.max_def]
        split
        . exact hbusy.1.2
        . exact hcursor

end Slot

end Datebook
