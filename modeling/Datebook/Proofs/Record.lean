import Datebook.Proofs.Answer
import Datebook.Proofs.Success
import Datebook.Proofs.Validation
import Datebook.Rehearsal.Host
import Datebook.Rehearsal.Service

/-!
This module contains the verification of the records that are handed out: whatever an event or a busy
period was made from, its record is canonical.
-/

namespace Datebook

open Timestamp (Denotes)

namespace Value

variable {P Q : Value → Prop} {R : Fields → Prop} {name : String} {v : Value}

def IsGivenText (v : Value) : Prop :=
  ∃ s, v = .text s ∧ Text.IsTrimmed s ∧ s ≠ ""

def IsListOf (P : Value → Prop) (v : Value) : Prop :=
  ∃ items, v = .list items ∧ ∀ item ∈ items, P item

def IsMapWith (R : Fields → Prop) (v : Value) : Prop :=
  ∃ fields, v = .map fields ∧ R fields

theorem isListOf_map {α : Type} {f : α → Value} {items : List α} (h : ∀ a ∈ items, P (f a))
    : (Value.list (items.map f)).IsListOf P := by
  refine ⟨items.map f, rfl, ?_⟩
  intro v hv
  rw [List.mem_map] at hv
  obtain ⟨a, ha, rfl⟩ := hv
  exact h a ha

end Value

namespace Fields

def Has (name : String) (P : Value → Prop) (fields : Fields) : Prop :=
  has fields name = true ∧ P (get fields name)

def MayHave (name : String) (P : Value → Prop) (fields : Fields) : Prop :=
  has fields name = true → P (get fields name)

variable {name : String} {P : Value → Prop} {v : Value} {rest : Fields}

theorem has_cons (h : P v) : Has name P ((name, v) :: rest) := by
  unfold Has has get
  rw [List.any_cons, List.lookup_cons, beq_self_eq_true]
  exact ⟨rfl, h⟩

theorem Has.mayHave {fields : Fields} (h : Has name P fields) : MayHave name P fields :=
  fun _ => h.2

theorem mayHave_of_not_has {fields : Fields} (h : has fields name = false)
    : MayHave name P fields := by
  intro hhas
  rw [h] at hhas
  cases hhas

end Fields

structure Event.IsRecord (record : Fields) : Prop where
  title : ∃ s, Fields.get record "title" = .text s ∧ s ≠ ""
  start : ∃ t, Denotes (Fields.get record "start") t
  finish : ∃ t, Denotes (Fields.get record "end") t
  id : record.Has "id" fun v => v = .null ∨ v.IsGivenText
  attendees : (Fields.get record "attendees").IsListOf Value.IsGivenText

structure Reply.Period.IsRecord (record : Fields) : Prop where
  start : ∃ t, Denotes (Fields.get record "start") t
  finish : ∃ t, Denotes (Fields.get record "end") t

theorem Event.IsCanonical.isRecord {e : Event} (h : e.IsCanonical) : IsRecord e.toRecord where
  title := ⟨e.title, rfl, h.title⟩
  start := h.start
  finish := h.finish
  id := by
    apply Fields.has_cons
    cases hid : e.id with
    | none => exact .inl rfl
    | some id => exact .inr ⟨id, rfl, h.id id hid⟩
  attendees := by
    apply Value.isListOf_map
    intro a ha
    exact ⟨a, rfl, h.attendees a ha⟩

theorem Reply.Period.IsDated.isRecord {p : Period} (h : p.IsDated) : IsRecord p.toRecord :=
  ⟨h.start, h.finish⟩

namespace Kind

def IsEventValue : Value → Prop := Value.IsMapWith Event.IsRecord

def IsPeriodList : Value → Prop := Value.IsListOf (Value.IsMapWith Reply.Period.IsRecord)

/--
What the data of a kind of command is like, as far as events and busy periods are in it.
-/
def IsCanonicalData (kind : Kind) (data : Value) : Prop :=
  match kind with
  | create => data.IsMapWith (Fields.Has "event" IsEventValue)
  | update | delete => data.IsMapWith (Fields.MayHave "event" IsEventValue)
  | list | search => data.IsMapWith (Fields.Has "events" (Value.IsListOf IsEventValue))
  | freeBusy =>
    data.IsMapWith <| Fields.Has "calendars" <| Value.IsMapWith fun calendars =>
      ∀ calendar ∈ calendars, calendar.2.IsMapWith (Fields.Has "busy" IsPeriodList)
  | availability => data.IsMapWith (Fields.Has "busySlots" IsPeriodList)
  | listCalendars | listColors | currentTime => True

end Kind

namespace Reply

variable {reply : Reply} {data : Value} {requested target : Option Event}

theorem isEventValue {e : Event} (h : e.IsCanonical) : Kind.IsEventValue (.map e.toRecord) :=
  ⟨e.toRecord, rfl, h.isRecord⟩

theorem isPeriodList {periods : List Period} (h : ∀ p ∈ periods, p.IsDated)
    : Kind.IsPeriodList (.list (periods.map fun p => .map p.toRecord)) := by
  apply Value.isListOf_map
  intro p hp
  exact ⟨p.toRecord, rfl, (h p hp).isRecord⟩

theorem has_messageField (message : Option String)
    : Fields.has (messageField message) "event" = false := by
  unfold messageField
  split
  . rfl
  . split
    . rfl
    . rfl

theorem deletionData_spec (reply : Reply) (htarget : ∀ e ∈ target, e.IsCanonical)
    (targetId : Option String)
    : (reply.deletionData target targetId).IsMapWith
        (Fields.MayHave "event" Kind.IsEventValue) := by
  refine ⟨_, rfl, ?_⟩
  cases target with
  | none => exact Fields.mayHave_of_not_has (has_messageField _)
  | some e =>
    intro _
    exact isEventValue (htarget e rfl)

variable [Host]

theorem event_eq_ok {found : Option Event} (h : reply.event = .ok found)
    : ∀ e ∈ found, e.IsCanonical := by
  intro e he
  rw [Option.mem_def] at he
  rw [he] at h
  cases reply with
  | empty => cases h
  | prose text =>
    unfold event at h
    rw [Except.map_eq_ok] at h
    obtain ⟨events, hevents, h⟩ := h
    exact Listing.eventsOf_eq_ok hevents e (List.mem_of_head? h)
  | structured payload message =>
    unfold event singleEvent at h
    dsimp only at h
    split at h
    . rw [Event.readable?_eq_ok_some] at h
      exact Event.ofRecord_eq_ok h
    . cases h

theorem eventData_eq_ok (hrequested : ∀ e ∈ requested, e.IsCanonical)
    (h : reply.eventData requested = .ok data)
    : data.IsMapWith (Fields.MayHave "event" Kind.IsEventValue)
      ∧ (requested.isSome = true → data.IsMapWith (Fields.Has "event" Kind.IsEventValue)) := by
  unfold eventData at h
  rw [Except.bind_eq_ok] at h
  obtain ⟨found, hfound, h⟩ := h
  cases h
  have hcanonical : ∀ e ∈ found.or requested, e.IsCanonical := by
    intro e he
    rw [Option.mem_def, Option.or_eq_some_iff] at he
    obtain he | ⟨-, he⟩ := he
    . exact event_eq_ok hfound e he
    . exact hrequested e he
  cases hsome : found.or requested with
  | none =>
    refine ⟨⟨_, rfl, Fields.mayHave_of_not_has (has_messageField _)⟩, ?_⟩
    intro hgiven
    rw [Option.or_eq_none_iff] at hsome
    rw [hsome.2] at hgiven
    cases hgiven
  | some e =>
    have hhas : Fields.Has "event" Kind.IsEventValue
        (("event", .map e.toRecord) :: messageField reply.message?) :=
      Fields.has_cons (isEventValue (hcanonical e hsome))
    exact ⟨⟨_, rfl, hhas.mayHave⟩, fun _ => ⟨_, rfl, hhas⟩⟩

theorem eventsData_eq_ok (h : reply.eventsData = .ok data)
    : data.IsMapWith (Fields.Has "events" (Value.IsListOf Kind.IsEventValue)) := by
  unfold eventsData at h
  rw [Except.bind_eq_ok] at h
  obtain ⟨events, hevents, h⟩ := h
  cases h
  refine ⟨_, rfl, Fields.has_cons ?_⟩
  apply Value.isListOf_map
  intro e he
  exact isEventValue (events_eq_ok hevents e he)

theorem freeBusyData_eq_ok {detailed : Bool} (h : reply.freeBusyData detailed = .ok data)
    : Kind.freeBusy.IsCanonicalData data := by
  unfold freeBusyData at h
  rw [Except.bind_eq_ok] at h
  obtain ⟨calendars, hcalendars, h⟩ := h
  cases h
  refine ⟨_, rfl, Fields.has_cons ⟨_, rfl, ?_⟩⟩
  intro entry hentry
  rw [List.mem_map] at hentry
  obtain ⟨calendar, hmem, rfl⟩ := hentry
  exact ⟨_, rfl, Fields.has_cons (isPeriodList (freeBusy_eq_ok hcalendars calendar hmem))⟩

theorem normalize_eq_ok {kind : Kind} {raw : Value} {targetId : Option String}
    (hkind : kind ≠ .availability) (hrequested : ∀ e ∈ requested, e.IsCanonical)
    (hcreate : kind = .create → requested.isSome = true)
    (h : normalize kind raw requested targetId = .ok data) : kind.IsCanonicalData data := by
  unfold normalize at h
  rw [Except.bind_eq_ok] at h
  obtain ⟨reply, -, h⟩ := h
  cases kind with
  | create => exact (eventData_eq_ok hrequested h).2 (hcreate rfl)
  | update => exact (eventData_eq_ok hrequested h).1
  | list | search => exact eventsData_eq_ok h
  | delete =>
    cases h
    exact deletionData_spec reply hrequested targetId
  | freeBusy => exact freeBusyData_eq_ok h
  | availability => exact absurd rfl hkind
  | listCalendars | listColors | currentTime => trivial

end Reply

section

variable [Host]

theorem Draft.IsProper.isCanonical {d : Draft} (h : d.IsProper) : d.event.IsCanonical := by
  obtain ⟨t, u, ht, hu, -⟩ := h.before
  refine
    { start := ⟨t, ht⟩
      finish := ⟨u, hu⟩
      title := h.title.2
      id := ?_
      attendees := h.attendees.given }
  rw [h.id]
  nofun

theorem Changes.IsProper.isCanonical_apply {c : Changes} {e : Event} (hc : c.IsProper)
    (he : e.IsCanonical) : (c.apply e).IsCanonical where
  start := by
    show ∃ t, Denotes (.text (c.start.getD e.start)) t
    cases hstart : c.start with
    | none => exact he.start
    | some stamp => exact hc.start stamp hstart
  finish := by
    show ∃ t, Denotes (.text (c.finish.getD e.finish)) t
    cases hfinish : c.finish with
    | none => exact he.finish
    | some stamp => exact hc.finish stamp hfinish
  title := by
    show orKeep c.title e.title ≠ ""
    unfold orKeep
    split
    . exact he.title
    . assumption
  id := he.id
  attendees := by
    show ∀ a ∈ c.attendees.getD e.attendees, Text.IsTrimmed a ∧ a ≠ ""
    cases hattendees : c.attendees with
    | none => exact he.attendees
    | some texts => exact (hc.attendees texts hattendees).given

variable {prefs : Preferences} {now : Instant} {params : Fields}

theorem Operation.slotsData_eq_ok {detailed : Bool} {inquiry : Inquiry} {raw data : Value}
    (h : slotsData detailed inquiry raw = .ok data) : Kind.availability.IsCanonicalData data := by
  unfold slotsData slotsOf at h
  simp only [Except.bind_eq_ok, Except.mapError_eq_ok] at h
  obtain ⟨reply, -, calendars, hcalendars, busy, hbusy, slots, -, h⟩ := h
  cases h
  obtain ⟨name, hmem⟩ := mem_of_busyOf hbusy
  refine ⟨_, rfl, rfl, ?_⟩
  exact Reply.isPeriodList (Reply.freeBusy_eq_ok hcalendars _ hmem)

theorem Kind.isCanonicalData_of_yields {kind : Kind} {errand : Errand} {operation : String}
    {past : List Exchange} {data : Value} (herrand : kind.errand prefs now params = .ok errand)
    (h : errand.Yields operation past data) : kind.IsCanonicalData data := by
  obtain ⟨target, question, raw, hfound, hquestion, -, hdata⟩ := h
  have htarget : ∀ e ∈ target, e.IsCanonical := by
    intro e he
    obtain ⟨query, answer, he⟩ := hfound e he
    exact (Target.found_eq_ok he).1
  cases kind with
  | create =>
    obtain ⟨draft, hdraft, rfl⟩ := Errand.eq_direct herrand
    cases hquestion
    refine Reply.normalize_eq_ok (by decide) ?_ (fun _ => rfl) hdata
    intro e he
    rw [Option.mem_some_iff] at he
    rw [← he]
    exact (Draft.ofParams_eq_ok hdraft).isCanonical
  | list | search | listCalendars | listColors | currentTime =>
    obtain ⟨args, -, rfl⟩ := Errand.eq_direct herrand
    cases hquestion
    exact Reply.normalize_eq_ok (by decide) (by simp) (by simp) hdata
  | freeBusy =>
    obtain ⟨args, -, rfl⟩ := Errand.eq_direct herrand
    cases hquestion
    obtain ⟨reply, -, hdata⟩ := Except.bind_eq_ok.mp hdata
    exact Reply.freeBusyData_eq_ok hdata
  | availability =>
    obtain ⟨inquiry, -, rfl⟩ := Errand.eq_direct herrand
    cases hquestion
    exact Operation.slotsData_eq_ok hdata
  | update =>
    obtain ⟨address, calendarId, changes, -, -, hchanges, -, hrequest⟩ :=
      Operation.updateErrand_eq_ok herrand
    rw [hrequest, Operation.updateQuestion, Except.bind_eq_ok] at hquestion
    obtain ⟨_, -, hquestion⟩ := hquestion
    cases hquestion
    refine Reply.normalize_eq_ok (by decide) ?_ (by simp) hdata
    intro e he
    rw [Option.mem_def, Option.map_eq_some_iff] at he
    obtain ⟨old, hold, rfl⟩ := he
    exact (Changes.ofParams_eq_ok hchanges).1.isCanonical_apply (htarget old hold)
  | delete =>
    obtain ⟨address, calendarId, notified, -, -, -, -, hrequest⟩ :=
      Operation.deleteErrand_eq_ok herrand
    rw [hrequest] at hquestion
    cases hquestion
    exact Reply.normalize_eq_ok (by decide) htarget (by simp) hdata

/--
Whatever the service does, the events and the busy periods in the data of a command that was carried
out are canonical, and a created event is always there.
-/
theorem Backend.dispatch_isCanonical {σ : Type} {b : Backend σ} {c : Command} {s : σ}
    {kind : Option Kind} {data : Value} {message : String}
    (h : (b.dispatch prefs now c s).result = .ok (.success kind data message))
    : c.kind.IsCanonicalData data := by
  obtain ⟨errand, herrand, hyields⟩ := dispatch_yields h
  exact Kind.isCanonicalData_of_yields herrand hyields

end

section

open scoped Rehearsal

theorem Backend.dispatch_isCanonical_in_crowd
    : ∃ kind data message, ((Rehearsal.monotone Rehearsal.crowd).dispatch Rehearsal.preferences
          Rehearsal.morning Rehearsal.retitling ()).result = .ok (.success kind data message)
        ∧ Kind.update.IsCanonicalData data := by
  have hsucceeds : (((Rehearsal.monotone Rehearsal.crowd).dispatch Rehearsal.preferences
      Rehearsal.morning Rehearsal.retitling ()).result.toOption.bind Outcome.data?).isSome
        = true := by
    decide +kernel
  obtain ⟨data, hdata⟩ := Option.isSome_iff_exists.mp hsucceeds
  obtain ⟨kind, message, hresult⟩ := exists_success_of_data hdata
  exact ⟨kind, data, message, hresult, dispatch_isCanonical hresult⟩

end

end Datebook
