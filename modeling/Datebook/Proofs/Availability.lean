import Datebook.Proofs.Answer
import Datebook.Proofs.Slot
import Datebook.Proofs.Success
import Datebook.Rehearsal.Host
import Datebook.Rehearsal.Service

/-!
This module contains the verification of the free slots that a user is offered: where they lie in the
window that the service was asked about, and how they lie to each other and to the busy periods.
-/

namespace Datebook

open Timestamp (Denotes)

/--
Whether the canonical timestamp of an instant loses nothing.
-/
def Instant.IsWhole (t : Instant) : Prop :=
  Instant.isSupported t = true ∧ Instant.floorMilli t = t

theorem Instant.IsWhole.read_stamp {t : Int} (h : Instant.IsWhole t)
    : Timestamp.read (Instant.stamp t) = .ok t := by
  rw [Timestamp.read_stamp h.1, h.2]

theorem Timestamp.Denotes.isWhole {v : Value} {t : Int} (h : Denotes v t) : Instant.IsWhole t :=
  ⟨isSupported_of_ofValue (ofValue_of_denotes h), floorMilli_of_denotes h⟩

namespace Slot

variable {spans busy slots : List Span} {records : List Value} {periods : List Reply.Period}
  {start finish minutes : Value} {t u : Int} {minimum : Length}

theorem exists_record_of_mem {p : Span} (h : busySpans records = .ok spans) (hp : p ∈ spans)
    : ∃ record ∈ records, boundOf record "start" = .ok p.start
        ∧ boundOf record "end" = .ok p.finish := by
  induction records generalizing spans with
  | nil =>
    cases h
    cases hp
  | cons record rest ih =>
    unfold busySpans at h
    simp only [Except.bind_eq_ok] at h
    obtain ⟨t, ht, u, hu, others, hothers, h⟩ := h
    cases h
    rw [List.mem_cons] at hp
    cases hp with
    | inl hp =>
      rw [hp]
      exact ⟨record, List.mem_cons_self, ht, hu⟩
    | inr hp =>
      obtain ⟨record', hmem, hbounds⟩ := ih hothers hp
      exact ⟨record', List.mem_cons_of_mem record hmem, hbounds⟩

theorem boundOf_eq_ok {fields : Fields} {name s : String} (hhas : Fields.has fields name = true)
    (hget : Fields.get fields name = .text s) (hread : Timestamp.read s = .ok t)
    : boundOf (.map fields) name = .ok t := by
  unfold boundOf
  dsimp only
  rw [if_pos hhas, hget, Timestamp.ofValue, hread, Except.mapError_ok]

theorem isWhole_of_busySpans (hdated : ∀ p ∈ periods, p.IsDated)
    (h : busySpans (periods.map fun p => .map p.toRecord) = .ok spans)
    : ∀ p ∈ spans, Instant.IsWhole p.start ∧ Instant.IsWhole p.finish := by
  intro p hp
  obtain ⟨record, hmem, hstart, hfinish⟩ := exists_record_of_mem h hp
  rw [List.mem_map] at hmem
  obtain ⟨period, hperiod, rfl⟩ := hmem
  obtain ⟨⟨t, ht⟩, u, hu⟩ := hdated period hperiod
  rw [boundOf_eq_ok rfl rfl (Timestamp.ofValue_of_denotes ht)] at hstart
  rw [boundOf_eq_ok rfl rfl (Timestamp.ofValue_of_denotes hu)] at hfinish
  cases hstart
  cases hfinish
  exact ⟨ht.isWhole, hu.isWhole⟩

theorem busySpans_toRecord
    (h : ∀ p ∈ spans, Instant.IsWhole p.start ∧ Instant.IsWhole p.finish)
    : busySpans (spans.map fun p => .map (ofSpan p).toRecord) = .ok spans := by
  induction spans with
  | nil => rfl
  | cons p rest ih =>
    rw [List.forall_mem_cons] at h
    have hstart : boundOf (.map (ofSpan p).toRecord) "start" = .ok p.start :=
      boundOf_eq_ok rfl rfl h.1.1.read_stamp
    have hfinish : boundOf (.map (ofSpan p).toRecord) "end" = .ok p.finish :=
      boundOf_eq_ok rfl rfl h.1.2.read_stamp
    rw [List.map_cons, busySpans, hstart, hfinish, ih h.2]
    rfl

theorem find_eq_ok {found : List Slot} (hstart : Denotes start t) (hfinish : Denotes finish u)
    (h : find start finish (.list records) minutes = .ok found)
    : ∃ minimum spans, Length.ofValue Instant.minute minutes = .ok minimum
        ∧ busySpans records = .ok spans ∧ found = (free t u minimum spans).map ofSpan := by
  unfold find at h
  rw [Timestamp.ofValue_of_denotes hstart, Timestamp.ofValue_of_denotes hfinish] at h
  simp only [Except.bind_eq_ok, Except.mapError_eq_ok] at h
  obtain ⟨_, ht, _, hu, minimum, hminimum, _, hrecords, spans, hspans, h⟩ := h
  cases ht
  cases hu
  cases hrecords
  cases h
  exact ⟨minimum, spans, hminimum, hspans, rfl⟩

theorem length_of_minutes {n : Int} (h : Length.ofValue Instant.minute (.int n) = .ok minimum)
    : minimum = n * Instant.minute := by
  rw [Length.ofValue, Length.ofInt, Length.ofMicros] at h
  split at h
  . cases h
    rfl
  . cases h

/--
How the slots that are offered lie in a window, beside busy spans.
-/
structure Fit (window : Span) (minimum : Length) (slots busy : List Span) : Prop where
  inside : ∀ s ∈ slots, window.start ≤ s.start ∧ s.finish ≤ window.finish
  long : ∀ s ∈ slots, s.start < s.finish ∧ minimum ≤ s.finish - s.start
  clear : ∀ s ∈ slots, ∀ p ∈ busy, s.IsClearOf p
  ordered : slots.Pairwise (Precedes busy)
  first : ∀ first ∈ slots.head?, ∀ s ∈ slots, first.start ≤ s.start

theorem fit_free (hminimum : 0 < minimum) (busy : List Span)
    : Fit ⟨t, u⟩ minimum (free t u minimum busy) busy := by
  have hsorted := Span.pairwise_mergeSort busy
  have hgap (s : Span) (hs : s ∈ free t u minimum busy)
      : IsGap u t minimum (busy.mergeSort Span.before) s :=
    isGap_of_mem_gaps hminimum hsorted hs
  have hordered : (free t u minimum busy).Pairwise (Precedes busy) := by
    apply (pairwise_gaps hminimum hsorted).imp
    intro a b h
    exact h.mono fun p => List.mem_mergeSort.mp
  constructor
  . intro s hs
    exact ⟨(hgap s hs).start, (hgap s hs).finish⟩
  . intro s hs
    have hlong := (hgap s hs).long
    exact ⟨Int.lt_of_sub_pos (Int.lt_of_lt_of_le hminimum hlong), hlong⟩
  . intro s hs p hp
    exact (hgap s hs).clear p (List.mem_mergeSort.mpr hp)
  . exact hordered
  . intro first hfirst s hs
    cases hslots : free t u minimum busy with
    | nil =>
      rw [hslots] at hs
      cases hs
    | cons a rest =>
      rw [hslots] at hfirst hs hordered
      rw [List.head?_cons, Option.mem_some_iff] at hfirst
      rw [← hfirst]
      rw [List.mem_cons] at hs
      cases hs with
      | inl hs => exact Int.le_of_eq (congrArg Span.start hs.symm)
      | inr hs => exact ((List.pairwise_cons.mp hordered).1 s hs).start

theorem Fit.disjoint {window : Span} (h : Fit window minimum slots busy)
    (hbusy : ∀ p ∈ busy, p.start ≤ p.finish) : slots.Pairwise fun a b => a.finish ≤ b.start := by
  apply h.ordered.imp
  intro a b hab
  cases hab.apart with
  | inl hapart => exact hapart
  | inr hblame =>
    obtain ⟨p, hp, hbefore, hoverlap, hafter⟩ := hblame
    exact Int.le_trans (Int.le_trans hafter (hbusy p hp)) hbefore

end Slot

namespace Value

def field (name : String) : Value → Value
  | map fields => Fields.get fields name
  | _ => null

def spans? : Value → Option (List Span)
  | list records => (Slot.busySpans records).toOption
  | _ => none

end Value

/--
What the data of free slots tells: the slots, the busy spans, the least length of a slot in minutes
and the slot that comes first.
-/
structure Slot.IsOffer (data : Value) (slots busy : List Span) (minutes : Int) : Prop where
  free : (data.field "availableSlots").spans? = some slots
  taken : (data.field "busySlots").spans? = some busy
  duration : data.field "durationMinutes" = .int minutes
  none : data.field "nextSlot" = .null ↔ slots = []
  next : ∀ first ∈ slots.head?, (Value.list [data.field "nextSlot"]).spans? = some [first]

theorem Slot.isOffer_of_isWhole {slots busy : List Span} {records : List Value} {minutes : Int}
    (hslots : ∀ p ∈ slots, Instant.IsWhole p.start ∧ Instant.IsWhole p.finish)
    (hbusy : busySpans records = .ok busy)
    : IsOffer
        (.map
          [("availableSlots", .list (slots.map fun p => .map (ofSpan p).toRecord)),
           ("busySlots", .list records),
           ("durationMinutes", .int minutes),
           ("nextSlot", (slots.map fun p => Value.map (ofSpan p).toRecord).head?.getD .null)])
        slots busy minutes := by
  constructor
  . show (busySpans _).toOption = _
    rw [busySpans_toRecord hslots]
    rfl
  . show (busySpans _).toOption = _
    rw [hbusy]
    rfl
  . rfl
  . show Option.getD (List.head? _) Value.null = Value.null ↔ _
    cases slots with
    | nil => simp
    | cons p rest => simp
  . intro first hfirst
    show (busySpans [Option.getD (List.head? _) Value.null]).toOption = _
    cases slots with
    | nil => cases hfirst
    | cons p rest =>
      cases hfirst
      rw [List.forall_mem_cons] at hslots
      have hone := busySpans_toRecord (List.forall_mem_singleton.mpr hslots.1)
      rw [List.map_singleton] at hone
      rw [List.map_cons, List.head?_cons, Option.getD_some, hone]
      rfl

namespace Operation

variable [Host] {detailed : Bool} {inquiry : Inquiry} {raw data : Value} {t u n : Int}

theorem exists_slots (h : slotsData detailed inquiry raw = .ok data)
    : ∃ (periods : List Reply.Period) (found : List Slot), (∀ p ∈ periods, p.IsDated)
        ∧ Slot.find (.text inquiry.window.start) (.text inquiry.window.finish)
            (.list (periods.map fun p => .map p.toRecord)) inquiry.minutes = .ok found
        ∧ data = .map
            [("availableSlots", .list (found.map fun s => .map s.toRecord)),
             ("busySlots", .list (periods.map fun p => .map p.toRecord)),
             ("durationMinutes", inquiry.minutes),
             ("nextSlot", (found.map fun s => Value.map s.toRecord).head?.getD .null)] := by
  unfold slotsData slotsOf at h
  simp only [Except.bind_eq_ok, Except.mapError_eq_ok] at h
  obtain ⟨reply, -, calendars, hcalendars, periods, hperiods, found, hfound, h⟩ := h
  cases h
  obtain ⟨name, hmem⟩ := mem_of_busyOf hperiods
  exact ⟨periods, found, Reply.freeBusy_eq_ok hcalendars _ hmem, hfound, rfl⟩

theorem slotsData_spec (hstart : Denotes (.text inquiry.window.start) t)
    (hfinish : Denotes (.text inquiry.window.finish) u) (hminutes : inquiry.minutes = .int n)
    (hleast : 1 ≤ n) (h : slotsData detailed inquiry raw = .ok data)
    : ∃ slots busy, Slot.IsOffer data slots busy n
        ∧ Slot.Fit ⟨t, u⟩ (n * Instant.minute) slots busy := by
  obtain ⟨periods, found, hdated, hfound, rfl⟩ := exists_slots h
  rw [hminutes] at hfound ⊢
  obtain ⟨minimum, busy, hminimum, hbusy, rfl⟩ := Slot.find_eq_ok hstart hfinish hfound
  have hlength := Slot.length_of_minutes hminimum
  have hpos : 0 < n * Instant.minute := Int.mul_pos hleast (by decide)
  rw [← hlength] at hpos ⊢
  have hwhole := Slot.isWhole_of_busySpans hdated hbusy
  -- The bounds of slots are bounds of the window and of busy spans, so their timestamps are exact.
  have hslots : ∀ p ∈ Slot.free t u minimum busy,
      Instant.IsWhole p.start ∧ Instant.IsWhole p.finish := by
    intro p hp
    apply Slot.forall_mem_gaps hstart.isWhole hfinish.isWhole ?_ hp
    intro q hq
    exact hwhole q (List.mem_mergeSort.mp hq)
  refine ⟨Slot.free t u minimum busy, busy, ?_, Slot.fit_free hpos busy⟩
  rw [List.map_map, Function.comp_def]
  exact Slot.isOffer_of_isWhole hslots hbusy

end Operation

namespace Backend

section

variable [Host] {σ : Type} {b : Backend σ} {prefs : Preferences} {now : Int} {c : Command} {s : σ}
  {kind : Option Kind} {data : Value} {message : String}

theorem minutes_of_inquiry {params : Fields} {inquiry : Operation.Inquiry}
    (hdefault : ∃ d, prefs.duration = .int d ∧ Field.minDuration ≤ d ∧ d ≤ Field.maxDuration)
    (h : Operation.Inquiry.ofParams prefs now params = .ok inquiry)
    : ∃ n, inquiry.minutes = .int n ∧ Field.minDuration ≤ n ∧ n ≤ Field.maxDuration := by
  unfold Operation.Inquiry.ofParams at h
  simp only [Except.bind_eq_ok] at h
  obtain ⟨minutes, hminutes, _, -, _, -, h⟩ := h
  cases h
  cases Field.duration_eq_ok hminutes with
  | inl hdefaulted =>
    rw [hdefaulted.2]
    exact hdefault
  | inr hgiven => exact hgiven.2

/--
Whatever busy periods a reply gives, the slots that are offered lie inside the window that the service
was asked about, last at least the duration, keep clear of all busy periods and come in order, the next
one first. They are apart from each other as far as no busy period ends before it starts.
-/
theorem dispatch_offers_slots (hnow : Instant.isSupported now = true)
    (hkind : c.kind = .availability)
    (hdefault : ∃ d, prefs.duration = .int d ∧ Field.minDuration ≤ d ∧ d ≤ Field.maxDuration)
    (h : (b.dispatch prefs now c s).result = .ok (.success kind data message))
    : ∃ args answer window slots busy minutes,
        ⟨"get-freebusy", args, answer⟩ ∈ exchanges (b.dispatch prefs now c s).trace
        ∧ Denotes (Fields.get args "timeMin") window.start
        ∧ Denotes (Fields.get args "timeMax") window.finish
        ∧ Field.minDuration ≤ minutes ∧ minutes ≤ Field.maxDuration
        ∧ Slot.IsOffer data slots busy minutes
        ∧ Slot.Fit window (minutes * Instant.minute) slots busy
        ∧ ((∀ p ∈ busy, p.start ≤ p.finish)
          → slots.Pairwise fun a b => a.finish ≤ b.start) := by
  obtain ⟨errand, herrand, target, question, answer, -, hquestion, hmem, hdata⟩ := dispatch_yields h
  rw [hkind] at herrand hmem
  obtain ⟨inquiry, hinquiry, rfl⟩ := Errand.eq_direct herrand
  cases hquestion
  obtain ⟨t, u, ht, hu, -⟩ := (Kind.window_of_inquiry hnow hinquiry).before
  obtain ⟨n, hn, hleast, hmost⟩ := minutes_of_inquiry hdefault hinquiry
  obtain ⟨slots, busy, hoffer, hfit⟩ := Operation.slotsData_spec ht hu hn hleast hdata
  exact ⟨_, answer, ⟨t, u⟩, slots, busy, n, hmem, ht, hu, hleast, hmost, hoffer, hfit, hfit.disjoint⟩

end

section

open scoped Rehearsal

theorem dispatch_offers_slots_around_noon
    : ∃ kind data message, ((Rehearsal.monotone (Rehearsal.occupied "2025-08-20T12:00:00Z"
          "2025-08-20T13:00:00Z")).dispatch Rehearsal.preferences Rehearsal.morning
          Rehearsal.vacancy ()).result = .ok (.success kind data message)
        ∧ ∃ window slots busy minutes, Slot.IsOffer data slots busy minutes
          ∧ Slot.Fit window (minutes * Instant.minute) slots busy
          ∧ ((∀ p ∈ busy, p.start ≤ p.finish)
            → slots.Pairwise fun a b => a.finish ≤ b.start) := by
  have hsucceeds : (((Rehearsal.monotone (Rehearsal.occupied "2025-08-20T12:00:00Z"
      "2025-08-20T13:00:00Z")).dispatch Rehearsal.preferences Rehearsal.morning
      Rehearsal.vacancy ()).result.toOption.bind Outcome.data?).isSome = true := by
    decide +kernel
  obtain ⟨data, hdata⟩ := Option.isSome_iff_exists.mp hsucceeds
  obtain ⟨kind, message, hresult⟩ := exists_success_of_data hdata
  obtain ⟨_, _, window, slots, busy, minutes, -, -, -, -, -, hoffer, hfit, hdisjoint⟩ :=
    dispatch_offers_slots (by decide) rfl ⟨60, rfl, by decide, by decide⟩ hresult
  exact ⟨kind, data, message, hresult, window, slots, busy, minutes, hoffer, hfit, hdisjoint⟩

/--
The slots that are offered overlap where a busy period ends before it starts.
-/
theorem not_forall_slots_disjoint
    : ¬ ∀ (b : Backend Unit) (prefs : Preferences) (now : Instant) (c : Command) (kind : Option Kind)
        (data : Value) (message : String) (slots : List Span),
        Instant.isSupported now = true → c.kind = .availability →
        (∃ d, prefs.duration = .int d ∧ Field.minDuration ≤ d ∧ d ≤ Field.maxDuration) →
        (b.dispatch prefs now c ()).result = .ok (.success kind data message) →
        (data.field "availableSlots").spans? = some slots →
        slots.Pairwise fun a b => a.finish ≤ b.start ∨ b.finish ≤ a.start := by
  intro hall
  have hslots : (((Rehearsal.monotone (Rehearsal.occupied "2025-08-20T12:00:00Z"
      "2025-08-20T10:00:00Z")).dispatch Rehearsal.preferences Rehearsal.morning
      Rehearsal.vacancy ()).result.toOption.bind Outcome.data?).bind
        (fun data => (data.field "availableSlots").spans?)
      = some [⟨63891277200000000, 63891288000000000⟩, ⟨63891280800000000, 63891306000000000⟩] := by
    decide +kernel
  rw [Option.bind_eq_some_iff] at hslots
  obtain ⟨data, hdata, hslots⟩ := hslots
  obtain ⟨kind, message, hresult⟩ := exists_success_of_data hdata
  have hdisjoint := hall _ _ _ _ kind data message _ (by decide) rfl
    ⟨60, rfl, by decide, by decide⟩ hresult hslots
  revert hdisjoint
  decide

end

end Backend

end Datebook
