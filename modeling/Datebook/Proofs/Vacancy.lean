import Datebook.Proofs.Availability
import Datebook.Proofs.Binary64

/-!
This module contains the verification of free slots against their definition: they are the longest
spans of a window that no busy period meets, as far as they last long enough.
-/

namespace Datebook

open Timestamp (Denotes)

namespace Span

variable {V W : Instant → Prop} {g p window : Span} {busy slots slots' : List Span}
  {a c finish t : Int}

/--
Whether an instant lies in a span. The end of a span is no part of it.
-/
def Covers (p : Span) (t : Instant) : Prop :=
  p.start ≤ t ∧ t < p.finish

/--
Whether an instant lies in a window and in none of the busy spans.
-/
def LeavesFree (window : Span) (busy : List Span) (t : Instant) : Prop :=
  window.Covers t ∧ ∀ p ∈ busy, ¬ p.Covers t

/--
A span that is not empty, holds only instants of a set, and lies in no other such span.
-/
structure IsMaximalIn (V : Instant → Prop) (g : Span) : Prop where
  nonempty : g.start < g.finish
  inside : ∀ t, g.Covers t → V t
  maximal : ∀ h : Span, (∀ t, h.Covers t → V t) → (∀ t, g.Covers t → h.Covers t) → h = g

theorem isMaximalIn_iff {start finish : Int}
    : IsMaximalIn V ⟨start, finish⟩
        ↔ start < finish ∧ (∀ t, start ≤ t ∧ t < finish → V t) ∧ ¬ V (start - 1) ∧ ¬ V finish := by
  constructor
  . intro ⟨hnonempty, hinside, hmaximal⟩
    refine ⟨hnonempty, hinside, ?_, ?_⟩
    . intro hbefore
      have hlonger := hmaximal ⟨start - 1, finish⟩ ?_ ?_
      . rw [Span.mk.injEq] at hlonger
        exact absurd hlonger.1 (by dsimp only [Instant]; omega)
      . intro t ht
        by_cases hfirst : t = start - 1
        . rw [hfirst]
          exact hbefore
        . apply hinside
          dsimp only [Covers, Instant] at *
          omega
      . intro t ht
        dsimp only [Covers, Instant] at *
        omega
    . intro hafter
      have hlonger := hmaximal ⟨start, finish + 1⟩ ?_ ?_
      . rw [Span.mk.injEq] at hlonger
        exact absurd hlonger.2 (by dsimp only [Instant]; omega)
      . intro t ht
        by_cases hlast : t = finish
        . rw [hlast]
          exact hafter
        . apply hinside
          dsimp only [Covers, Instant] at *
          omega
      . intro t ht
        dsimp only [Covers, Instant] at *
        omega
  . intro ⟨hnonempty, hinside, hbefore, hafter⟩
    refine ⟨hnonempty, hinside, ?_⟩
    intro ⟨start', finish'⟩ hfree hsub
    dsimp only [Covers, Instant] at *
    have hfirst := hsub start ⟨by omega, by omega⟩
    have hlast := hsub (finish - 1) ⟨by omega, by omega⟩
    have hstart : ¬ start' < start := by
      intro hlt
      apply hbefore
      apply hfree
      dsimp only [Instant] at *
      omega
    have hfinish : ¬ finish < finish' := by
      intro hlt
      apply hafter
      apply hfree
      dsimp only [Instant] at *
      omega
    rw [Span.mk.injEq]
    dsimp only [Instant] at *
    omega

/--
Where a set falls apart into a first span and instants after its end, so do its maximal spans.
-/
theorem isMaximalIn_or (hV : ∀ t, V t ↔ (c ≤ t ∧ t < a) ∨ W t) (hW : ∀ t, W t → a < t)
    : IsMaximalIn V g ↔ (g = ⟨c, a⟩ ∧ c < a) ∨ IsMaximalIn W g := by
  obtain ⟨start, finish⟩ := g
  rw [isMaximalIn_iff, isMaximalIn_iff, Span.mk.injEq]
  simp only [hV, not_or]
  constructor
  . intro ⟨hnonempty, hinside, hbefore, hafter⟩
    have hstart := hinside start ⟨Int.le_refl _, hnonempty⟩
    by_cases hfirst : start < a
    . -- The end of the first span belongs to neither part, so the span cannot go beyond it.
      have hend : ¬ a < finish := by
        intro hlt
        cases hinside a ⟨Int.le_of_lt hfirst, hlt⟩ with
        | inl ha => exact Int.lt_irrefl a ha.2
        | inr ha => exact Int.lt_irrefl a (hW a ha)
      have hc : c ≤ start := by
        cases hstart with
        | inl hstart => exact hstart.1
        | inr hstart =>
          have hlate := hW start hstart
          dsimp only [Instant] at *
          omega
      left
      dsimp only [Instant] at *
      omega
    . right
      refine ⟨hnonempty, ?_, hbefore.2, hafter.2⟩
      intro t ht
      cases hinside t ht with
      | inl hearly =>
        dsimp only [Instant] at *
        omega
      | inr hw => exact hw
  . intro h
    cases h with
    | inl h =>
      obtain ⟨⟨hstart, hfinish⟩, hnonempty⟩ := h
      rw [hstart, hfinish]
      refine ⟨hnonempty, fun t ht => .inl ht, ⟨?_, ?_⟩, ?_, ?_⟩
      . exact fun h => absurd h.1 (Int.not_le.mpr (Int.sub_lt_self c Int.one_pos))
      . intro hw
        exact Int.lt_asymm hnonempty (Int.lt_trans (hW _ hw) (Int.sub_lt_self c Int.one_pos))
      . exact fun h => Int.lt_irrefl a h.2
      . exact fun hw => Int.lt_irrefl a (hW a hw)
    | inr h =>
      obtain ⟨hnonempty, hinside, hbefore, hafter⟩ := h
      have hlate := hW start (hinside start ⟨Int.le_refl _, hnonempty⟩)
      refine ⟨hnonempty, fun t ht => .inr (hinside t ht), ⟨?_, hbefore⟩, ?_, hafter⟩
      . dsimp only [Instant] at *
        omega
      . dsimp only [Instant] at *
        omega

/--
The busy span that starts first cuts a window in two: no other one reaches into the part before it.
-/
theorem leavesFree_cons (hfirst : ∀ q ∈ busy, p.start ≤ q.start)
    : LeavesFree ⟨c, finish⟩ (p :: busy) t
        ↔ (c ≤ t ∧ t < min p.start finish) ∨ LeavesFree ⟨max c p.finish, finish⟩ busy t := by
  unfold LeavesFree
  rw [List.forall_mem_cons]
  constructor
  . intro ⟨hwindow, hp, hbusy⟩
    by_cases hbefore : t < p.start
    . left
      dsimp only [Covers, Instant] at *
      omega
    . right
      refine ⟨?_, hbusy⟩
      dsimp only [Covers, Instant] at *
      omega
  . intro h
    cases h with
    | inl h =>
      refine ⟨?_, ?_, ?_⟩
      . dsimp only [Covers, Instant] at *
        omega
      . dsimp only [Covers, Instant] at *
        omega
      . intro q hq hcovers
        have hle := hfirst q hq
        dsimp only [Covers, Instant] at *
        omega
    | inr h =>
      obtain ⟨hwindow, hbusy⟩ := h
      refine ⟨?_, ?_, hbusy⟩
      . dsimp only [Covers, Instant] at *
        omega
      . dsimp only [Covers, Instant] at *
        omega

theorem leavesFree_congr {busy' : List Span}
    (h : ∀ t, (∃ p ∈ busy', p.Covers t) ↔ ∃ p ∈ busy, p.Covers t)
    : LeavesFree window busy' = LeavesFree window busy := by
  funext t
  have ht := not_congr (h t)
  simp only [not_exists, not_and] at ht
  rw [LeavesFree, LeavesFree, ht]

theorem isMaximalIn_leavesFree_nil
    : IsMaximalIn (LeavesFree window []) g ↔ g = window ∧ window.start < window.finish := by
  have hV (t : Int) : LeavesFree window [] t ↔ (window.start ≤ t ∧ t < window.finish) ∨ False := by
    simp [LeavesFree, Covers]
  rw [isMaximalIn_or hV (fun t ht => ht.elim), or_iff_left_iff_imp]
  intro hempty
  exact (hempty.inside g.start ⟨Int.le_refl _, hempty.nonempty⟩).elim

theorem nodup_of_pairwise (hspan : ∀ s ∈ slots, s.start < s.finish)
    (hordered : slots.Pairwise fun a b => a.finish ≤ b.start) : slots.Nodup := by
  apply hordered.imp_of_mem
  intro a b ha _ hab heq
  have hlt := hspan a ha
  rw [heq] at hab hlt
  exact absurd hab (Int.not_le.mpr hlt)

theorem eq_of_mem_iff (hspan : ∀ s ∈ slots, s.start < s.finish)
    (hspan' : ∀ s ∈ slots', s.start < s.finish)
    (hordered : slots.Pairwise fun a b => a.finish ≤ b.start)
    (hordered' : slots'.Pairwise fun a b => a.finish ≤ b.start)
    (hmem : ∀ s, s ∈ slots ↔ s ∈ slots') : slots = slots' := by
  have hperm : slots.Perm slots' :=
    (List.perm_ext_iff_of_nodup (nodup_of_pairwise hspan hordered)
      (nodup_of_pairwise hspan' hordered')).mpr hmem
  apply hperm.eq_of_pairwise ?_ hordered hordered'
  intro a b ha hb hab hba
  have hlt := hspan a ha
  have hlt' := hspan' b hb
  dsimp only [Instant] at *
  omega

end Span

namespace Slot

open Datebook.Span (LeavesFree IsMaximalIn)

variable {spans busy : List Span} {records : List Value} {g : Span} {start finish : Value}
  {cursor t u d : Int} {minimum : Length}

theorem mem_gap_iff {start finish : Int}
    : g ∈ gap minimum start finish ↔ g = ⟨start, finish⟩ ∧ minimum ≤ finish - start := by
  constructor
  . exact mem_gap
  . intro ⟨hg, hlong⟩
    unfold gap
    rw [if_pos hlong, hg]
    exact List.mem_singleton_self _

/--
The gaps that busy spans leave after the cursor are the maximal free spans there that last long
enough. By induction on the spans: each takes the part before it off the window.
-/
theorem mem_gaps_iff {finish : Int} (hminimum : 0 < minimum)
    (hsorted : busy.Pairwise fun a b => a.start ≤ b.start) (hbusy : ∀ p ∈ busy, p.start < p.finish)
    : g ∈ gaps finish minimum cursor busy
        ↔ g.IsMaximalIn (LeavesFree ⟨cursor, finish⟩ busy) ∧ minimum ≤ g.finish - g.start := by
  induction busy generalizing cursor with
  | nil =>
    rw [gaps, mem_gap_iff, Span.isMaximalIn_leavesFree_nil]
    constructor
    . intro ⟨hg, hlong⟩
      rw [hg]
      exact ⟨⟨rfl, Int.lt_of_sub_pos (Int.lt_of_lt_of_le hminimum hlong)⟩, hlong⟩
    . intro ⟨⟨hg, _⟩, hlong⟩
      rw [hg] at hlong
      exact ⟨hg, hlong⟩
  | cons p rest ih =>
    rw [List.pairwise_cons] at hsorted
    rw [List.forall_mem_cons] at hbusy
    unfold gaps
    split
    . next hend =>
      rw [gap_eq_nil hminimum hend]
      constructor
      . intro h
        cases h
      . intro ⟨hg, _⟩
        have hwindow := (hg.inside g.start ⟨Int.le_refl _, hg.nonempty⟩).1
        exact absurd (Int.lt_of_le_of_lt hwindow.1 hwindow.2) (Int.not_lt.mpr hend)
    . have hlate (t : Int) (ht : LeavesFree ⟨max cursor p.finish, finish⟩ rest t)
          : min p.start finish < t := by
        have hstart := ht.1.1
        have hspan := hbusy.1
        dsimp only [Instant] at *
        omega
      rw [List.mem_append, mem_gap_iff, ih hsorted.2 hbusy.2,
        Span.isMaximalIn_or (fun t => Span.leavesFree_cons hsorted.1) hlate]
      constructor
      . intro h
        cases h with
        | inl h =>
          obtain ⟨hg, hlong⟩ := h
          rw [hg]
          exact ⟨.inl ⟨rfl, Int.lt_of_sub_pos (Int.lt_of_lt_of_le hminimum hlong)⟩, hlong⟩
        | inr h => exact ⟨.inr h.1, h.2⟩
      . intro ⟨h, hlong⟩
        cases h with
        | inl h =>
          rw [h.1] at hlong
          exact .inl ⟨h.1, hlong⟩
        | inr h => exact .inr ⟨h, hlong⟩

theorem mem_free_iff {start finish : Int} (hminimum : 0 < minimum)
    (hbusy : ∀ p ∈ busy, p.start < p.finish)
    : g ∈ free start finish minimum busy
        ↔ g.IsMaximalIn (LeavesFree ⟨start, finish⟩ busy) ∧ minimum ≤ g.finish - g.start := by
  have hwindow : LeavesFree ⟨start, finish⟩ (busy.mergeSort Span.before)
      = LeavesFree ⟨start, finish⟩ busy := by
    funext t
    simp only [LeavesFree, List.mem_mergeSort]
  unfold free
  rw [mem_gaps_iff hminimum (Span.pairwise_mergeSort busy), hwindow]
  intro p hp
  exact hbusy p (List.mem_mergeSort.mp hp)

theorem div_of_rounded {n m scale : Nat} (hscale : 1024 ≤ scale) (hmillis : n % 1000 = 0)
    (hlow : 2 * (n * scale) ≤ 2 * (m * 1000000) + 1000000)
    (hhigh : 2 * (m * 1000000) ≤ 2 * (n * scale) + 1000000) : m / (60 * scale) = n / 60000000 := by
  have hfloor : 60000000 * (n / 60000000 * scale) ≤ n * scale := by
    rw [← Nat.mul_assoc]
    exact Nat.mul_le_mul_right scale (by omega)
  have hceil : (n + 1000) * scale ≤ 60000000 * ((n / 60000000 + 1) * scale) := by
    rw [← Nat.mul_assoc]
    exact Nat.mul_le_mul_right scale (by omega)
  rw [Nat.add_mul] at hceil
  apply Nat.div_eq_of_lt_le
  . have : n / 60000000 * (60 * scale) = 60 * (n / 60000000 * scale) := by
      rw [Nat.mul_left_comm]
    omega
  . have : (n / 60000000 + 1) * (60 * scale) = 60 * ((n / 60000000 + 1) * scale) := by
      rw [Nat.mul_left_comm]
    omega

/--
The whole minutes of a length in whole milliseconds are exact, if it lasts no longer than all the years
that are supported.
-/
theorem wholeMinutes_eq {length : Int} (hleast : 0 ≤ length) (hmost : length < Instant.limit)
    (hmillis : length % 1000 = 0) : wholeMinutes length = length / Instant.minute := by
  obtain ⟨n, rfl⟩ := Int.eq_ofNat_of_zero_le hleast
  have hlimit : Instant.limit = 315537897600000000 := by decide
  rw [hlimit] at hmost
  by_cases hzero : n = 0
  . rw [hzero]
    decide +kernel
  have hlog : Binary64.floorLog2 n 1000000 ≤ 41 := by
    have hle := Binary64.floorLog2_le n 1000000
    have hden : Nat.log2 1000000 = 19 := by decide +kernel
    have hnum : n.log2 < 59 := by
      rw [Nat.log2_lt hzero]
      omega
    omega
  obtain ⟨m, e, hratio, he, hlow, hhigh⟩ :=
    Binary64.exists_ofRatio hzero (by decide : 0 < 1000000) hlog false
  have hround := div_of_rounded (Binary64.le_down he) (by omega) hlow hhigh
  have hnegative : decide ((n : Int) < 0) = false := by
    rw [decide_eq_false_iff_not]
    omega
  have hsecond : Instant.second.natAbs = 1000000 := rfl
  unfold wholeMinutes
  rw [hnegative, Int.natAbs_natCast, hsecond, hratio]
  dsimp only
  rw [Binary64.up_of_nonpos (by omega)]
  have hminute : Instant.minute = 60000000 := rfl
  rw [if_neg Bool.false_ne_true, hminute, Int.natCast_one, Int.mul_one]
  exact_mod_cast hround

theorem has_of_get {fields : Fields} {name : String} (h : Fields.get fields name ≠ .null)
    : Fields.has fields name = true := by
  unfold Fields.get at h
  unfold Fields.has
  induction fields with
  | nil => exact absurd rfl h
  | cons field rest ih =>
    rw [List.any_cons, Bool.or_eq_true]
    by_cases hname : field.1 = name
    . left
      exact beq_iff_eq.mpr hname
    . right
      apply ih
      rw [List.lookup_cons, beq_eq_false_iff_ne.mpr (Ne.symm hname)] at h
      exact h

/--
Whether a record tells a span: it is a map with the canonical timestamps of both ends.
-/
def IsRecordOf (record : Value) (p : Span) : Prop :=
  ∃ fields, record = .map fields ∧ Denotes (Fields.get fields "start") p.start
    ∧ Denotes (Fields.get fields "end") p.finish

theorem boundOf_of_denotes {fields : Fields} {name : String} (h : Denotes (Fields.get fields name) t)
    : boundOf (.map fields) name = .ok t := by
  obtain ⟨s, hget, -, hread⟩ := h
  apply boundOf_eq_ok (has_of_get ?_) hget hread
  rw [hget]
  exact Value.noConfusion

theorem busySpans_of_records (h : List.Forall₂ IsRecordOf records busy)
    : busySpans records = .ok busy := by
  induction h with
  | nil => rfl
  | @cons record p _ _ hrecord _ ih =>
    obtain ⟨fields, rfl, hstart, hfinish⟩ := hrecord
    rw [busySpans, boundOf_of_denotes hstart, boundOf_of_denotes hfinish, ih]
    rfl

theorem isWhole_of_records (h : List.Forall₂ IsRecordOf records busy)
    : ∀ p ∈ busy, Instant.IsWhole p.start ∧ Instant.IsWhole p.finish := by
  induction h with
  | nil => nofun
  | @cons record p _ _ hrecord _ ih =>
    obtain ⟨_, -, hstart, hfinish⟩ := hrecord
    rw [List.forall_mem_cons]
    exact ⟨⟨hstart.isWhole, hfinish.isWhole⟩, ih⟩

def minuteLimit : Int :=
  (Length.maxDays + 1) * 1440

theorem length_ofValue (hleast : 1 ≤ d) (hmost : d < minuteLimit)
    : Length.ofValue Instant.minute (.int d) = .ok (d * Instant.minute) := by
  unfold minuteLimit Length.maxDays at hmost
  rw [Length.ofValue, Length.ofInt, Length.ofMicros, if_pos]
  unfold Length.isSupported Length.maxDays Instant.minute Instant.day Instant.second
  rw [Bool.and_eq_true, decide_eq_true_eq, decide_eq_true_eq]
  omega

theorem find_eq_error (hstart : Denotes start t) (hfinish : Denotes finish u)
    (hlong : minuteLimit ≤ d) (busy : Value)
    : find start finish busy (.int d) = .error (.crash (.length .tooLong)) := by
  have hlength : Length.ofValue Instant.minute (.int d) = .error .tooLong := by
    unfold minuteLimit Length.maxDays at hlong
    rw [Length.ofValue, Length.ofInt, Length.ofMicros, if_neg]
    unfold Length.isSupported Length.maxDays Instant.minute Instant.day Instant.second
    rw [Bool.and_eq_true, decide_eq_true_eq, decide_eq_true_eq]
    omega
  unfold find
  rw [Timestamp.ofValue_of_denotes hstart, Timestamp.ofValue_of_denotes hfinish, hlength]
  rfl

theorem find_eq_free (hstart : Denotes start t) (hfinish : Denotes finish u)
    (hrecords : List.Forall₂ IsRecordOf records busy) (hleast : 1 ≤ d) (hmost : d < minuteLimit)
    : find start finish (.list records) (.int d)
        = .ok ((free t u (d * Instant.minute) busy).map ofSpan) := by
  unfold find
  simp only [Except.bind_eq_ok, Except.mapError_eq_ok]
  exact ⟨t, Timestamp.ofValue_of_denotes hstart, u, Timestamp.ofValue_of_denotes hfinish,
    _, length_ofValue hleast hmost, records, rfl, busy, busySpans_of_records hrecords, rfl⟩

theorem ofSpan_eq {s : Span} (hspan : s.start < s.finish) (hstart : Instant.IsWhole s.start)
    (hfinish : Instant.IsWhole s.finish)
    : ofSpan s = ⟨s.start.stamp, s.finish.stamp, (s.finish - s.start) / Instant.minute⟩ := by
  obtain ⟨hfirst, hstart⟩ := hstart
  obtain ⟨hlast, hfinish⟩ := hfinish
  rw [Instant.isSupported_iff] at hfirst hlast
  have hlimit : Instant.limit = 315537897600000000 := by decide
  unfold Instant.floorMilli at hstart hfinish
  unfold ofSpan
  rw [wholeMinutes_eq]
  . dsimp only [Instant] at *
    omega
  . dsimp only [Instant] at *
    omega
  . dsimp only [Instant] at *
    omega

/--
The slots that are found are the longest spans of the window that no busy period meets, as far as they
last long enough, in order of time and each with its whole minutes. They depend on the union of the
busy periods alone.
-/
theorem find_reports_vacancies (hstart : Denotes start t) (hfinish : Denotes finish u)
    (hrecords : List.Forall₂ IsRecordOf records busy) (hbusy : ∀ p ∈ busy, p.start < p.finish)
    (hleast : 1 ≤ d) (hmost : d < minuteLimit)
    : (∃ slots : List Span,
        find start finish (.list records) (.int d)
            = .ok (slots.map fun s =>
                ⟨s.start.stamp, s.finish.stamp, (s.finish - s.start) / Instant.minute⟩)
          ∧ slots.Pairwise (fun a b => a.finish ≤ b.start)
          ∧ ∀ s, s ∈ slots
              ↔ IsMaximalIn (LeavesFree ⟨t, u⟩ busy) s ∧ d * Instant.minute ≤ s.finish - s.start)
        ∧ ∀ records' busy', List.Forall₂ IsRecordOf records' busy' →
            (∀ p ∈ busy', p.start < p.finish) →
            (∀ t, (∃ p ∈ busy', p.Covers t) ↔ ∃ p ∈ busy, p.Covers t) →
            find start finish (.list records') (.int d) = find start finish (.list records) (.int d) := by
  have hminimum : 0 < d * Instant.minute := Int.mul_pos hleast (by decide)
  have hfree := find_eq_free hstart hfinish hrecords hleast hmost
  have hmem (s : Span) : s ∈ free t u (d * Instant.minute) busy
      ↔ IsMaximalIn (LeavesFree ⟨t, u⟩ busy) s ∧ d * Instant.minute ≤ s.finish - s.start :=
    mem_free_iff hminimum hbusy
  have hordered := (fit_free (t := t) (u := u) hminimum busy).disjoint fun p hp =>
    Int.le_of_lt (hbusy p hp)
  constructor
  . refine ⟨free t u (d * Instant.minute) busy, ?_, hordered, hmem⟩
    rw [hfree]
    congr 1
    apply List.map_congr_left
    intro s hs
    have hwhole : Instant.IsWhole s.start ∧ Instant.IsWhole s.finish := by
      apply forall_mem_gaps hstart.isWhole hfinish.isWhole ?_ hs
      intro p hp
      exact isWhole_of_records hrecords p (List.mem_mergeSort.mp hp)
    exact ofSpan_eq ((hmem s).mp hs).1.nonempty hwhole.1 hwhole.2
  . intro records' busy' hrecords' hbusy' hunion
    have hmem' (s : Span) : s ∈ free t u (d * Instant.minute) busy'
        ↔ IsMaximalIn (LeavesFree ⟨t, u⟩ busy') s ∧ d * Instant.minute ≤ s.finish - s.start :=
      mem_free_iff hminimum hbusy'
    have hordered' := (fit_free (t := t) (u := u) hminimum busy').disjoint fun p hp =>
      Int.le_of_lt (hbusy' p hp)
    rw [hfree, find_eq_free hstart hfinish hrecords' hleast hmost]
    congr 2
    apply Span.eq_of_mem_iff
    . intro s hs
      exact ((hmem' s).mp hs).1.nonempty
    . intro s hs
      exact ((hmem s).mp hs).1.nonempty
    . exact hordered'
    . exact hordered
    . intro s
      rw [hmem, hmem', Span.leavesFree_congr hunion]

def opening : Value := .text "2025-08-20T09:00:00.000Z"

def closing : Value := .text "2025-08-20T17:00:00.000Z"

def meetings : List Span :=
  [⟨63891291600000000, 63891295200000000⟩, ⟨63891279000000000, 63891284400000000⟩,
    ⟨63891280800000000, 63891288000000000⟩]

def meetingRecords : List Value :=
  [.map [("start", .text "2025-08-20T13:00:00.000Z"), ("end", .text "2025-08-20T14:00:00.000Z")],
    .map [("start", .text "2025-08-20T09:30:00.000Z"), ("end", .text "2025-08-20T11:00:00.000Z")],
    .map [("start", .text "2025-08-20T10:00:00.000Z"), ("end", .text "2025-08-20T12:00:00.000Z")]]

theorem denotes_opening : Denotes opening 63891277200000000 :=
  ⟨_, rfl, by decide, by rfl⟩

theorem denotes_closing : Denotes closing 63891306000000000 :=
  ⟨_, rfl, by decide, by rfl⟩

theorem areRecords_meetings : List.Forall₂ IsRecordOf meetingRecords meetings := by
  have hrecord {s s' : String} {t u : Int} (hstart : Denotes (.text s) t) (hfinish : Denotes (.text s') u)
      : IsRecordOf (.map [("start", .text s), ("end", .text s')]) ⟨t, u⟩ :=
    ⟨_, rfl, hstart, hfinish⟩
  refine .cons (hrecord ?_ ?_) (.cons (hrecord ?_ ?_) (.cons (hrecord ?_ ?_) .nil))
  all_goals exact ⟨_, rfl, by decide, by rfl⟩

theorem find_reports_vacancies_around_meetings
    : (Denotes opening 63891277200000000 ∧ Denotes closing 63891306000000000
        ∧ List.Forall₂ IsRecordOf meetingRecords meetings ∧ (∀ p ∈ meetings, p.start < p.finish)
        ∧ (1 : Int) ≤ 30 ∧ 30 < minuteLimit)
      ∧ ∃ slots : List Span,
        find opening closing (.list meetingRecords) (.int 30)
            = .ok (slots.map fun s =>
                ⟨s.start.stamp, s.finish.stamp, (s.finish - s.start) / Instant.minute⟩)
          ∧ slots.Pairwise (fun a b => a.finish ≤ b.start)
          ∧ ∀ s, s ∈ slots
              ↔ IsMaximalIn (LeavesFree ⟨63891277200000000, 63891306000000000⟩ meetings) s
                ∧ 30 * Instant.minute ≤ s.finish - s.start := by
  have hspans : ∀ p ∈ meetings, p.start < p.finish := by decide
  refine ⟨⟨denotes_opening, denotes_closing, areRecords_meetings, hspans, by decide, by decide⟩, ?_⟩
  exact (find_reports_vacancies denotes_opening denotes_closing areRecords_meetings hspans
    (by decide) (by decide)).1

/--
No slots are found, not even none, for a duration that is no length of time.
-/
theorem not_forall_find_reports
    : ¬ ∀ (start finish : Value) (t u d : Int) (records : List Value) (busy : List Span),
        Denotes start t → Denotes finish u → t < u → List.Forall₂ IsRecordOf records busy →
        (∀ p ∈ busy, p.start < p.finish) → 1 ≤ d →
        ∃ slots, find start finish (.list records) (.int d) = .ok slots := by
  intro hall
  obtain ⟨slots, hfound⟩ := hall opening closing _ _ 10000000000000 [] [] denotes_opening
    denotes_closing (by decide) .nil nofun (by decide)
  rw [find_eq_error denotes_opening denotes_closing (by decide)] at hfound
  cases hfound

end Slot

end Datebook
