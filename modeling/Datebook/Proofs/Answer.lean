import Datebook.Proofs.Errand
import Datebook.Proofs.Event.Reread
import Datebook.Proofs.Reply
import Datebook.Proofs.Time.Window

/-!
This module contains the verification of what commands make of the answers to their questions: which
faults there can be, and which answers break the work off.
-/

namespace Datebook

open Timestamp (Denotes)

namespace Slot

variable {periods : List Reply.Period} {start finish minutes : Value} {t u : Int}

theorem exists_boundOf {p : Reply.Period} (h : p.IsDated)
    : (∃ t, boundOf (.map p.toRecord) "start" = .ok t)
      ∧ ∃ t, boundOf (.map p.toRecord) "end" = .ok t := by
  obtain ⟨⟨t, ht⟩, u, hu⟩ := h
  have hstart : boundOf (.map p.toRecord) "start"
      = (Timestamp.ofValue (.text p.start)).mapError .date :=
    rfl
  have hfinish : boundOf (.map p.toRecord) "end"
      = (Timestamp.ofValue (.text p.finish)).mapError .date :=
    rfl
  rw [hstart, hfinish, Timestamp.ofValue_of_denotes ht, Timestamp.ofValue_of_denotes hu]
  exact ⟨⟨t, rfl⟩, u, rfl⟩

theorem exists_busySpans (h : ∀ p ∈ periods, p.IsDated)
    : ∃ spans, busySpans (periods.map fun p => .map p.toRecord) = .ok spans := by
  induction periods with
  | nil => exact ⟨[], rfl⟩
  | cons p rest ih =>
    rw [List.forall_mem_cons] at h
    obtain ⟨⟨t, ht⟩, u, hu⟩ := exists_boundOf h.1
    obtain ⟨spans, hspans⟩ := ih h.2
    rw [List.map_cons, busySpans, ht, hu]
    simp only [bind, Except.bind, hspans]
    exact ⟨_, rfl⟩

/--
Between canonical timestamps, and with periods that were read from a reply, only the length of a slot
can be at fault.
-/
theorem find_eq (hstart : Denotes start t) (hfinish : Denotes finish u)
    (h : ∀ p ∈ periods, p.IsDated)
    : ∃ slots : Length → List Slot,
        find start finish (.list (periods.map fun p => .map p.toRecord)) minutes
          = match Length.ofValue Instant.minute minutes with
            | .error flaw => .error (.crash (.length flaw))
            | .ok minimum => .ok (slots minimum) := by
  obtain ⟨spans, hspans⟩ := exists_busySpans h
  refine ⟨fun minimum => (free t u minimum spans).map ofSpan, ?_⟩
  unfold find
  rw [Timestamp.ofValue_of_denotes hstart, Timestamp.ofValue_of_denotes hfinish]
  cases Length.ofValue Instant.minute minutes with
  | error flaw => rfl
  | ok minimum => simp only [recordsOf, Except.mapError_ok, bind, Except.bind, hspans]

end Slot

namespace Operation

theorem mem_of_busyOf {id : String} {calendars : Reply.FreeBusy} {found : List Reply.Period}
    (h : busyOf id calendars = .ok found) : ∃ name, (name, found) ∈ calendars := by
  unfold busyOf at h
  split at h
  . next hlookup =>
    injection h with h
    rw [List.lookup_eq_some_iff] at hlookup
    obtain ⟨before, after, heq, -⟩ := hlookup
    exact ⟨id, by simp [heq, h]⟩
  . next name periods hlookup =>
    injection h with h
    exact ⟨name, by simp [h]⟩
  . cases h

theorem busyOf_failsOnly (id : String) (calendars : Reply.FreeBusy)
    : FailsOnly Fault.IsBackend ((busyOf id calendars).mapError .backend) :=
  FailsOnly.mapError fun _ => trivial

variable [Host] {detailed : Bool} {inquiry : Inquiry} {raw : Value}

/--
Whether a reply gives the periods for an inquiry whose duration is no length of time.
-/
def lacksLength (detailed : Bool) (inquiry : Inquiry) (reply : Reply) : Bool :=
  match reply.freeBusy detailed with
  | .error _ => false
  | .ok calendars =>
    (busyOf inquiry.calendarId calendars).isOk
      && !(Length.ofValue Instant.minute inquiry.minutes).isOk

theorem slotsOf_failsOnly {reply : Reply} (hwindow : inquiry.window.IsProper)
    : FailsOnly Fault.IsRemote (slotsOf detailed inquiry reply) := by
  obtain ⟨t, u, hstart, hfinish, -⟩ := hwindow.before
  unfold slotsOf
  apply FailsOnly.bind (Reply.freeBusy_failsOnly detailed reply).isRemote
  intro calendars hcalendars
  apply FailsOnly.bind ((busyOf_failsOnly _ calendars).mono fun _ => Or.inl)
  intro busy hbusy
  rw [Except.mapError_eq_ok] at hbusy
  obtain ⟨name, hmem⟩ := mem_of_busyOf hbusy
  obtain ⟨slots, hslots⟩ := Slot.find_eq hstart hfinish
    (Reply.freeBusy_eq_ok hcalendars _ hmem)
  dsimp only at hslots ⊢
  rw [hslots]
  cases Length.ofValue Instant.minute inquiry.minutes with
  | error flaw => simp [bind, Except.bind, Fault.IsCrash]
  | ok minimum => simp [bind, Except.bind]

theorem slotsOf_crashes {reply : Reply} (hwindow : inquiry.window.IsProper)
    : Crashes (slotsOf detailed inquiry reply)
        ↔ (reply.breaksFreeBusy detailed || lacksLength detailed inquiry reply) = true := by
  obtain ⟨t, u, hstart, hfinish, -⟩ := hwindow.before
  unfold slotsOf lacksLength
  rw [Crashes.bind, Reply.freeBusy_crashes, Bool.or_eq_true]
  apply or_congr_right
  cases hcalendars : reply.freeBusy detailed with
  | error e => simp
  | ok calendars =>
    simp only [Except.ok.injEq, exists_eq_left']
    cases hbusy : busyOf inquiry.calendarId calendars with
    | error e => simp [bind, Except.bind, Except.isOk, Except.toBool, Fault.IsCrash]
    | ok busy =>
      -- The periods come out of a reply and the bounds out of a window, so all of them have instants.
      obtain ⟨name, hmem⟩ := mem_of_busyOf hbusy
      obtain ⟨slots, hslots⟩ := Slot.find_eq hstart hfinish
        (Reply.freeBusy_eq_ok hcalendars _ hmem)
      simp only [Except.mapError_ok, bind, Except.bind]
      rw [hslots]
      cases Length.ofValue Instant.minute inquiry.minutes with
      | error flaw => simp [Except.isOk, Except.toBool, Fault.IsCrash]
      | ok minimum => simp [Except.isOk, Except.toBool]

end Operation

namespace Event

variable [Host] {e : Event}

theorem exists_ofRecord_toRecord (h : e.IsDated) : ∃ again, ofRecord e.toRecord = .ok again := by
  obtain ⟨⟨t, ht⟩, u, hu⟩ := h
  exact ⟨_, ofRecord_toRecord_eq (EventTime.read_of_denotes ht) (EventTime.read_of_denotes hu)⟩

end Event

namespace Target

variable [Host] {raw : Value} {query : String} {e : Event}

theorem firstNamed_spec {events : List Event} (h : ∀ e ∈ events, e.IsCanonical)
    : ∃ found, firstNamed events = .ok found ∧ ∀ e ∈ found, e.IsCanonical := by
  induction events with
  | nil => exact ⟨none, rfl, by simp⟩
  | cons e rest ih =>
    rw [List.forall_mem_cons] at h
    unfold firstNamed
    split
    . exact ih h.2
    . obtain ⟨again, hagain⟩ := Event.exists_ofRecord_toRecord h.1.toIsDated
      refine ⟨some again, by rw [hagain]; rfl, ?_⟩
      simpa using Event.ofRecord_eq_ok hagain

theorem pick_failsOnly (raw : Value) : FailsOnly Fault.IsRemote (pick raw) := by
  unfold pick
  apply FailsOnly.bind (Reply.ofValue_failsOnly raw)
  intro reply _
  apply FailsOnly.bind (Reply.events_failsOnly reply).isRemote
  intro events hevents
  obtain ⟨found, hfound, -⟩ := firstNamed_spec (Reply.events_eq_ok hevents)
  rw [hfound]
  simp

theorem pick_eq_ok {found : Option Event} (h : pick raw = .ok found)
    : ∀ e ∈ found, e.IsCanonical := by
  unfold pick at h
  simp only [Except.bind_eq_ok] at h
  obtain ⟨reply, -, events, hevents, h⟩ := h
  obtain ⟨found', hfound, hspec⟩ := firstNamed_spec (Reply.events_eq_ok hevents)
  rw [hfound] at h
  injection h with h
  rwa [← h]

theorem pick_crashes : Crashes (pick raw) ↔ Reply.breaksRaw (·.breaksEvents) raw = true := by
  apply Reply.bind_ofValue_crashes
  intro reply
  rw [Crashes.bind, Reply.events_crashes]
  simp only [or_iff_left_iff_imp, forall_exists_index, and_imp]
  intro events hevents hcrash
  obtain ⟨found, hfound, -⟩ := firstNamed_spec (Reply.events_eq_ok hevents)
  rw [hfound] at hcrash
  simp at hcrash

theorem found_failsOnly (query : String) (raw : Value)
    : FailsOnly (fun e => e.IsTarget ∨ e.IsRemote) (found query raw) := by
  unfold found
  apply FailsOnly.bind ((pick_failsOnly raw).mono fun _ => Or.inr)
  intro e _
  cases e with
  | none => simp [Fault.IsTarget]
  | some e =>
    dsimp only
    split
    . simp [Fault.IsTarget]
    . simp

theorem found_eq_ok (h : found query raw = .ok e)
    : e.IsCanonical ∧ Text.IsTrimmed (e.id.getD "") ∧ e.id.getD "" ≠ "" := by
  unfold found at h
  rw [Except.bind_eq_ok] at h
  obtain ⟨picked, hpicked, h⟩ := h
  cases picked with
  | none => cases h
  | some picked =>
    dsimp only at h
    split at h
    . cases h
    . next hid =>
      injection h with h
      subst h
      have hcanonical := pick_eq_ok hpicked picked rfl
      cases hsome : picked.id with
      | none => simp [hsome] at hid
      | some id => exact ⟨hcanonical, hcanonical.id id hsome⟩

theorem found_crashes
    : Crashes (found query raw) ↔ Reply.breaksRaw (·.breaksEvents) raw = true := by
  unfold found
  rw [Crashes.bind, pick_crashes]
  simp only [or_iff_left_iff_imp, forall_exists_index, and_imp]
  intro e _ hcrash
  cases e with
  | none => simp [Fault.IsCrash] at hcrash
  | some e =>
    dsimp only at hcrash
    split at hcrash
    . simp [Fault.IsCrash] at hcrash
    . simp at hcrash

end Target

namespace Kind

variable [Host] {prefs : Preferences} {now : Int} {params : Fields} {errand : Errand} {question : Question}
  {target : Option Event}

def breaksOn (kind : Kind) (prefs : Preferences) (now : Instant) (params : Fields) (raw : Value) :
    Bool :=
  match kind with
  | .freeBusy => Reply.breaksRaw (·.breaksFreeBusy prefs.detailed) raw
  | .availability =>
    match Operation.Inquiry.ofParams prefs now params with
    | .error _ => false
    | .ok inquiry =>
      Reply.breaksRaw
        (fun reply => reply.breaksFreeBusy prefs.detailed
          || Operation.lacksLength prefs.detailed inquiry reply)
        raw
  | kind => Reply.breaksRaw (·.breaks kind) raw

theorem window_of_inquiry {inquiry : Operation.Inquiry} (hnow : Instant.isSupported now = true)
    (h : Operation.Inquiry.ofParams prefs now params = .ok inquiry) : inquiry.window.IsProper := by
  unfold Operation.Inquiry.ofParams at h
  simp only [Except.bind_eq_ok] at h
  obtain ⟨_, -, _, -, window, hwindow, h⟩ := h
  cases h
  exact Preferences.listingWindow_eq_ok hnow hwindow

/--
What is made of the answer to the question of a command fails only with failures of the service and
crashes, and the crashes are known.
-/
theorem result_spec {kind : Kind} (hnow : Instant.isSupported now = true)
    (h : kind.errand prefs now params = .ok errand)
    (hquestion : errand.question target = .ok question) (raw : Value)
    : FailsOnly Fault.IsRemote (question.result raw)
        ∧ (Crashes (question.result raw) ↔ kind.breaksOn prefs now params raw = true) := by
  cases kind with
  | create =>
    obtain ⟨draft, -, rfl⟩ := Errand.eq_direct h
    cases hquestion
    exact ⟨Reply.normalize_failsOnly _ raw _ _, Reply.normalize_crashes⟩
  | list | search | listCalendars | listColors | currentTime =>
    obtain ⟨args, -, rfl⟩ := Errand.eq_direct h
    cases hquestion
    exact ⟨Reply.normalize_failsOnly _ raw _ _, Reply.normalize_crashes⟩
  | freeBusy =>
    obtain ⟨args, -, rfl⟩ := Errand.eq_direct h
    cases hquestion
    refine ⟨?_, Reply.bind_ofValue_crashes fun _ => Reply.freeBusyData_crashes⟩
    apply FailsOnly.bind (Reply.ofValue_failsOnly raw)
    intro reply _
    exact (Reply.freeBusyData_failsOnly _ reply).isRemote
  | availability =>
    obtain ⟨inquiry, hinquiry, rfl⟩ := Errand.eq_direct h
    cases hquestion
    have hwindow := window_of_inquiry hnow hinquiry
    unfold breaksOn
    rw [hinquiry]
    refine ⟨?_, Reply.bind_ofValue_crashes fun _ => Operation.slotsOf_crashes hwindow⟩
    exact FailsOnly.bind (Reply.ofValue_failsOnly raw) fun _ _ => Operation.slotsOf_failsOnly hwindow
  | update =>
    obtain ⟨address, calendarId, changes, -, -, -, -, hrequest⟩ := Operation.updateErrand_eq_ok h
    rw [hrequest, Operation.updateQuestion, Except.bind_eq_ok] at hquestion
    obtain ⟨_, -, hquestion⟩ := hquestion
    cases hquestion
    exact ⟨Reply.normalize_failsOnly _ raw _ _, Reply.normalize_crashes⟩
  | delete =>
    obtain ⟨address, calendarId, notified, -, -, -, -, hrequest⟩ := Operation.deleteErrand_eq_ok h
    rw [hrequest] at hquestion
    cases hquestion
    exact ⟨Reply.normalize_failsOnly _ raw _ _, Reply.normalize_crashes⟩

end Kind

end Datebook
