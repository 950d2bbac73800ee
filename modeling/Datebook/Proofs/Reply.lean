import Datebook.Proofs.Event
import Datebook.Reply

/-!
This module contains the verification of the reading of replies: which faults there can be, which
replies break the reading off, and what holds of the events and periods that are read.
-/

namespace Datebook

namespace Reply

theorem periodOfRecord_failsOnly (record : Fields)
    : FailsOnly (fun e => e.IsDate ∨ e.IsCrash) (Period.ofRecord record) := by
  unfold Period.ofRecord
  apply FailsOnly.bind (EventTime.read_failsOnly _)
  intro start _
  apply FailsOnly.bind (EventTime.read_failsOnly _)
  simp

variable [Host] {raw payload : Value} {reply : Reply} {message : Option String} {detailed : Bool}

/--
Whether a raw reply amounts to a text that cannot be shown: it reports failure with such a detail, or it
is neither a map nor a list but has to stand for itself.
-/
def isUnshown : Value → Bool
  | .map fields => reportsFailure fields && !(failureDetail fields).isShowable
  | .list _ => false
  | v => !v.isShowable

theorem rejection_spec (detail : Value)
    : (rejection detail).IsRemote
      ∧ ((rejection detail).IsCrash ↔ detail.isShowable = false) := by
  unfold rejection
  rw [Value.isShowable]
  cases detail.flaw? with
  | none => simp [Fault.IsRemote, Fault.IsBackend, Fault.IsCrash]
  | some flaw => simp [Fault.IsRemote, Fault.IsCrash]

theorem ofValue_failsOnly (raw : Value) : FailsOnly Fault.IsRemote (ofValue raw) := by
  unfold ofValue
  split
  . simp
  . simp
  . split
    . rw [FailsOnly.error]
      exact (rejection_spec _).1
    . split
      . simp
      . split
        . simp
        . simp
  . simp
  . split
    . simp
    . simp [Fault.IsRemote, Fault.IsCrash]

theorem ofValue_crashes : Crashes (ofValue raw) ↔ isUnshown raw = true := by
  unfold ofValue isUnshown
  cases raw with
  | map fields =>
    dsimp only
    cases reportsFailure fields with
    | true =>
      rw [if_pos rfl, Crashes.error, (rejection_spec _).2]
      simp
    | false =>
      simp only [Bool.false_eq_true, ↓reduceIte, Bool.false_and, iff_false]
      split
      . simp
      . split
        . simp
        . simp
  | list items => simp
  | null | text _ => simp [Value.isShowable]
  | _ =>
    dsimp only
    rw [Value.isShowable]
    split
    . next h => simp [h]
    . next h => simp [h, Fault.IsCrash]

def isBrokenEvent : Value → Bool
  | .map record => Event.breaks record
  | _ => false

theorem readableRecord_failsOnly (record : Fields)
    : FailsOnly Fault.IsCrash (Event.readable? (Event.ofRecord record)) :=
  Event.readable?_failsOnly (Event.ofRecord_failsOnly record)

theorem readableRecord_crashes {record : Fields}
    : Crashes (Event.readable? (Event.ofRecord record)) ↔ Event.breaks record = true := by
  rw [Event.readable?_crashes, Event.ofRecord_crashes]

theorem eventsOfRecords_failsOnly (records : List Value)
    : FailsOnly Fault.IsCrash (eventsOfRecords records) := by
  induction records with
  | nil => simp [eventsOfRecords]
  | cons v rest ih =>
    unfold eventsOfRecords
    cases v with
    | map record =>
      apply FailsOnly.bind (readableRecord_failsOnly record)
      intro event _
      apply FailsOnly.bind ih
      simp
    | _ => exact ih

theorem eventsOfRecords_eq_ok {records : List Value} {events : List Event}
    (h : eventsOfRecords records = .ok events) : ∀ e ∈ events, e.IsCanonical := by
  induction records generalizing events with
  | nil =>
    injection h with h
    simp [← h]
  | cons v rest ih =>
    unfold eventsOfRecords at h
    cases v with
    | map record =>
      simp only [Except.bind_eq_ok] at h
      obtain ⟨event, hevent, others, hothers, h⟩ := h
      injection h with h
      intro e he
      rw [← h, List.mem_append, Option.mem_toList] at he
      cases he with
      | inl he =>
        rw [he, Event.readable?_eq_ok_some] at hevent
        exact Event.ofRecord_eq_ok hevent
      | inr he => exact ih hothers e he
    | _ => exact ih h

theorem eventsOfRecords_crashes {records : List Value}
    : Crashes (eventsOfRecords records) ↔ records.any isBrokenEvent = true := by
  induction records with
  | nil => simp [eventsOfRecords]
  | cons v rest ih =>
    unfold eventsOfRecords
    cases v with
    | map record =>
      rw [Crashes.bind_sure (readableRecord_failsOnly record) fun _ =>
        Crashes.bind_sure (eventsOfRecords_failsOnly rest) fun _ => iff_false_intro (Crashes.ok _)]
      simp [readableRecord_crashes, ih, isBrokenEvent]
    | _ => simpa [isBrokenEvent] using ih

def isBrokenListing (s : String) : Bool :=
  (Listing.blocks s.toList).any Listing.breaks

def breaksEvent : Reply → Bool
  | empty => false
  | prose text => isBrokenListing text
  | structured payload _ => isBrokenEvent (candidate payload)

theorem event_failsOnly (reply : Reply) : FailsOnly Fault.IsCrash reply.event := by
  cases reply with
  | empty => simp [event]
  | prose text => exact FailsOnly.map (Listing.eventsOf_failsOnly _)
  | structured payload message =>
    unfold event singleEvent
    dsimp only
    cases candidate payload with
    | map record => exact readableRecord_failsOnly record
    | _ => exact FailsOnly.ok none

theorem event_crashes : Crashes reply.event ↔ reply.breaksEvent = true := by
  cases reply with
  | empty => simp [event, breaksEvent]
  | prose text => exact Crashes.map.trans Listing.eventsOf_crashes
  | structured payload message =>
    unfold event singleEvent breaksEvent isBrokenEvent
    dsimp only
    cases candidate payload with
    | map record => exact readableRecord_crashes
    | _ => simp

def breaksEvents : Reply → Bool
  | empty => false
  | prose text => isBrokenListing text
  | structured payload message =>
    match recordsOf payload ["events", "items"] with
    | some records => records.any isBrokenEvent
    | none => message.any isBrokenListing

theorem events_failsOnly (reply : Reply) : FailsOnly Fault.IsCrash reply.events := by
  cases reply with
  | empty => simp [events]
  | prose text => exact Listing.eventsOf_failsOnly _
  | structured payload message =>
    unfold events
    dsimp only
    split
    . apply eventsOfRecords_failsOnly
    . split
      . simp
      . exact Listing.eventsOf_failsOnly _

theorem events_eq_ok {events : List Event} (h : reply.events = .ok events)
    : ∀ e ∈ events, e.IsCanonical := by
  cases reply with
  | empty =>
    injection h with h
    simp [← h]
  | prose text => exact Listing.eventsOf_eq_ok h
  | structured payload message =>
    unfold Reply.events at h
    dsimp only at h
    split at h
    . exact eventsOfRecords_eq_ok h
    . split at h
      . injection h with h
        simp [← h]
      . exact Listing.eventsOf_eq_ok h

theorem events_crashes : Crashes reply.events ↔ reply.breaksEvents = true := by
  cases reply with
  | empty => simp [events, breaksEvents]
  | prose text => exact Listing.eventsOf_crashes
  | structured payload message =>
    unfold events breaksEvents
    dsimp only
    cases recordsOf payload ["events", "items"] with
    | some records => exact eventsOfRecords_crashes
    | none =>
      cases message with
      | none => simp
      | some message => exact Listing.eventsOf_crashes

/--
Whether a value breaks the reading off where a calendar may stand: its identifier cannot be shown, or it
has one and something else cannot.
-/
def isBrokenCalendar : Value → Bool
  | .map record =>
    let get := Fields.get record
    let name := ((get "summaryOverride").orElse (get "summary")).orElse (get "name")
    !(get "id").isShowable || !(get "id").isAbsent
      && [name, get "timeZone", get "accessRole"].any fun v => !v.isShowable
  | _ => false

theorem calendarOfRecord_failsOnly (record : Fields)
    : FailsOnly Fault.IsCrash (Calendar.ofRecord record) := by
  unfold Calendar.ofRecord
  apply FailsOnly.bind (Field.nonemptyText?_failsOnly _)
  intro id _
  cases id with
  | none => simp
  | some id =>
    apply FailsOnly.bind (Field.nonemptyText?_failsOnly _)
    intro summary _
    apply FailsOnly.bind (Field.nonemptyText?_failsOnly _)
    intro timeZone _
    apply FailsOnly.bind (Field.nonemptyText?_failsOnly _)
    simp

theorem calendarOfRecord_crashes {record : Fields}
    : Crashes (Calendar.ofRecord record) ↔ isBrokenCalendar (.map record) = true := by
  unfold Calendar.ofRecord isBrokenCalendar
  dsimp only
  rw [Field.nonemptyText?_eq, Value.isShowable]
  cases (Fields.get record "id").flaw? with
  | some flaw => simp [bind, Except.bind, Fault.IsCrash]
  | none =>
    cases (Fields.get record "id").isAbsent with
    | true => simp [bind, Except.bind]
    | false =>
      show Crashes (Field.nonemptyText? _ >>= _) ↔ _
      rw [Crashes.bind_sure (Field.nonemptyText?_failsOnly _) fun _ =>
        Crashes.bind_sure (Field.nonemptyText?_failsOnly _) fun _ =>
        Crashes.bind_sure (Field.nonemptyText?_failsOnly _) fun _ => iff_false_intro (Crashes.ok _)]
      simp [Field.nonemptyText?_crashes]

theorem calendarsOfRecords_failsOnly (records : List Value)
    : FailsOnly Fault.IsCrash (calendarsOfRecords records) := by
  induction records with
  | nil => simp [calendarsOfRecords]
  | cons v rest ih =>
    unfold calendarsOfRecords
    cases v with
    | map record =>
      apply FailsOnly.bind (calendarOfRecord_failsOnly record)
      intro calendar _
      apply FailsOnly.bind ih
      simp
    | _ => exact ih

theorem calendarsOfRecords_crashes {records : List Value}
    : Crashes (calendarsOfRecords records) ↔ records.any isBrokenCalendar = true := by
  induction records with
  | nil => simp [calendarsOfRecords]
  | cons v rest ih =>
    unfold calendarsOfRecords
    cases v with
    | map record =>
      rw [Crashes.bind_sure (calendarOfRecord_failsOnly record) fun _ =>
        Crashes.bind_sure (calendarsOfRecords_failsOnly rest) fun _ => iff_false_intro (Crashes.ok _)]
      simp [calendarOfRecord_crashes, ih]
    | _ => simpa [isBrokenCalendar] using ih

def breaksCalendars : Reply → Bool
  | structured payload _ => (recordsOf payload ["calendars", "items"]).any (·.any isBrokenCalendar)
  | _ => false

theorem calendars_failsOnly (reply : Reply) : FailsOnly Fault.IsCrash reply.calendars := by
  cases reply with
  | empty => simp [calendars]
  | prose text => simp [calendars]
  | structured payload message =>
    unfold calendars
    dsimp only
    split
    . apply calendarsOfRecords_failsOnly
    . split
      . simp
      . simp

theorem calendars_crashes : Crashes reply.calendars ↔ reply.breaksCalendars = true := by
  cases reply with
  | empty => simp [calendars, breaksCalendars]
  | prose text => simp [calendars, breaksCalendars]
  | structured payload message =>
    unfold calendars breaksCalendars
    dsimp only
    cases recordsOf payload ["calendars", "items"] with
    | some records => exact calendarsOfRecords_crashes
    | none =>
      cases message with
      | none => simp
      | some message => simp

structure Period.IsDated (p : Period) : Prop where
  start : ∃ t, Timestamp.Denotes (.text p.start) t
  finish : ∃ t, Timestamp.Denotes (.text p.finish) t

/--
Whether a value breaks the reading off where a period may stand: a time is far off, or there is no
period in a map that has to be noted and is nested too deeply.
-/
def isBrokenPeriod (detailed : Bool) : Value → Bool
  | .map record =>
    let start := Fields.get record "start"
    let finish := Fields.get record "end"
    EventTime.isFarOff start || (EventTime.read start).isOk && EventTime.isFarOff finish
      || detailed && !((EventTime.read start).isOk && (EventTime.read finish).isOk)
        && (Value.map record).isTooDeep
  | _ => false

theorem readablePeriod_failsOnly (detailed : Bool) (record : Fields)
    : FailsOnly Fault.IsCrash (Period.readable? detailed record) := by
  unfold Period.readable?
  apply FailsOnly.bind (Event.readable?_failsOnly (periodOfRecord_failsOnly record))
  intro period _
  split
  . simp [Fault.IsCrash]
  . simp

theorem readablePeriod_eq_ok {record : Fields} {period : Option Period}
    (h : Period.readable? detailed record = .ok period) : ∀ p ∈ period, p.IsDated := by
  unfold Period.readable? at h
  rw [Except.bind_eq_ok] at h
  obtain ⟨found, hfound, h⟩ := h
  split at h
  . cases h
  . injection h with h
    intro p hp
    rw [h, hp, Event.readable?_eq_ok_some, Period.ofRecord] at hfound
    simp only [Except.bind_eq_ok] at hfound
    obtain ⟨_, hstart, _, hfinish, hfound⟩ := hfound
    cases hfound
    exact ⟨EventTime.denotes_of_read hstart, EventTime.denotes_of_read hfinish⟩

theorem readablePeriod_crashes {record : Fields}
    : Crashes (Period.readable? detailed record) ↔ isBrokenPeriod detailed (.map record) = true := by
  have hnoted : Crashes (if detailed = true ∧ (Value.map record).isTooDeep = true
        then .error (.crash (.unshown .tooDeep)) else Except.ok (none : Option Period))
      ↔ detailed = true ∧ (Value.map record).isTooDeep = true := by
    split
    . next h => simpa [Fault.IsCrash] using h
    . next h => simpa using h
  unfold Period.readable? Period.ofRecord isBrokenPeriod
  simp only [Bool.or_eq_true, Bool.and_eq_true, ← EventTime.read_crashes]
  -- The end is read only after the start, and noted is only what has an unreadable time.
  cases hstart : EventTime.read (Fields.get record "start") with
  | error e =>
    have hsort := EventTime.read_failsOnly _ e hstart
    cases e with
    | date fault =>
      show Crashes (Except.ok none >>= _) ↔ _
      simp [bind, Except.bind, hnoted, Fault.IsCrash, Except.isOk, Except.toBool]
    | crash cause => simp [bind, Except.bind, Event.readable?, Fault.IsCrash]
    | _ => simp [Fault.IsDate, Fault.IsCrash] at hsort
  | ok start =>
    cases hfinish : EventTime.read (Fields.get record "end") with
    | error e =>
      have hsort := EventTime.read_failsOnly _ e hfinish
      cases e with
      | date fault =>
        simp [bind, Except.bind, Event.readable?, hnoted, Fault.IsCrash, Except.isOk, Except.toBool]
      | crash cause =>
        simp [bind, Except.bind, Event.readable?, Fault.IsCrash, Except.isOk, Except.toBool]
      | _ => simp [Fault.IsDate, Fault.IsCrash] at hsort
    | ok finish => simp [bind, Except.bind, Event.readable?, Except.isOk, Except.toBool]

theorem periodsOfRecords_failsOnly (detailed : Bool) (records : List Value)
    : FailsOnly Fault.IsCrash (periodsOfRecords detailed records) := by
  induction records with
  | nil => simp [periodsOfRecords]
  | cons v rest ih =>
    unfold periodsOfRecords
    cases v with
    | map record =>
      apply FailsOnly.bind (readablePeriod_failsOnly detailed record)
      intro period _
      apply FailsOnly.bind ih
      simp
    | _ => exact ih

theorem periodsOfRecords_eq_ok {records : List Value} {periods : List Period}
    (h : periodsOfRecords detailed records = .ok periods) : ∀ p ∈ periods, p.IsDated := by
  induction records generalizing periods with
  | nil =>
    injection h with h
    simp [← h]
  | cons v rest ih =>
    unfold periodsOfRecords at h
    cases v with
    | map record =>
      simp only [Except.bind_eq_ok] at h
      obtain ⟨period, hperiod, others, hothers, h⟩ := h
      injection h with h
      intro p hp
      rw [← h, List.mem_append, Option.mem_toList] at hp
      cases hp with
      | inl hp => exact readablePeriod_eq_ok hperiod p hp
      | inr hp => exact ih hothers p hp
    | _ => exact ih h

theorem periodsOfRecords_crashes {records : List Value}
    : Crashes (periodsOfRecords detailed records)
        ↔ records.any (isBrokenPeriod detailed) = true := by
  induction records with
  | nil => simp [periodsOfRecords]
  | cons v rest ih =>
    unfold periodsOfRecords
    cases v with
    | map record =>
      rw [Crashes.bind_sure (readablePeriod_failsOnly detailed record) fun _ =>
        Crashes.bind_sure (periodsOfRecords_failsOnly detailed rest) fun _ =>
        iff_false_intro (Crashes.ok _)]
      simp [readablePeriod_crashes, ih]
    | _ => simpa [isBrokenPeriod] using ih

/--
Whether a value breaks the reading off where the periods of a calendar may stand: it is given and has
no items, or one of its items breaks the reading off.
-/
def isBrokenBusy (detailed : Bool) : Value → Bool
  | .list items => items.any (isBrokenPeriod detailed)
  | .text _ | .map _ => false
  | v => v.isTruthy

theorem periods_failsOnly (detailed : Bool) (v : Value)
    : FailsOnly Fault.IsCrash (periods detailed v) := by
  unfold periods
  split
  . simp
  . split
    . apply periodsOfRecords_failsOnly
    . simp
    . simp
    . simp [Fault.IsCrash]

theorem periods_eq_ok {v : Value} {found : List Period} (h : periods detailed v = .ok found)
    : ∀ p ∈ found, p.IsDated := by
  unfold periods at h
  split at h
  . injection h with h
    simp [← h]
  . split at h
    . exact periodsOfRecords_eq_ok h
    . injection h with h
      simp [← h]
    . injection h with h
      simp [← h]
    . cases h

theorem periods_crashes {v : Value}
    : Crashes (periods detailed v) ↔ isBrokenBusy detailed v = true := by
  unfold periods isBrokenBusy
  cases htruthy : v.isTruthy with
  | false =>
    cases v with
    | list items =>
      cases items with
      | nil => simp
      | cons item rest => cases htruthy
    | null => simp [Value.isTruthy]
    | text s | map fields => simp
    | _ => simpa using htruthy
  | true =>
    cases v with
    | list items => exact periodsOfRecords_crashes
    | text s | map fields => simp
    | _ => simpa [Fault.IsCrash] using htruthy

def busyOf : Value → Value
  | .map fields => Fields.get fields "busy"
  | _ => .null

theorem freeBusyOf_cons (detailed : Bool) (id : String) (entry : Value) (rest : Fields)
    : freeBusyOf detailed ((id, entry) :: rest)
        = (do .ok ((id, ← periods detailed (busyOf entry)) :: (← freeBusyOf detailed rest))) := by
  cases entry <;> rfl

theorem freeBusyOf_failsOnly (detailed : Bool) (entries : Fields)
    : FailsOnly Fault.IsCrash (freeBusyOf detailed entries) := by
  induction entries with
  | nil => simp [freeBusyOf]
  | cons field rest ih =>
    obtain ⟨id, entry⟩ := field
    rw [freeBusyOf_cons]
    apply FailsOnly.bind (periods_failsOnly detailed _)
    intro periods _
    apply FailsOnly.bind ih
    simp

theorem freeBusyOf_eq_ok {entries : Fields} {calendars : FreeBusy}
    (h : freeBusyOf detailed entries = .ok calendars)
    : ∀ calendar ∈ calendars, ∀ p ∈ calendar.2, p.IsDated := by
  induction entries generalizing calendars with
  | nil =>
    injection h with h
    simp [← h]
  | cons field rest ih =>
    obtain ⟨id, entry⟩ := field
    rw [freeBusyOf_cons] at h
    simp only [Except.bind_eq_ok] at h
    obtain ⟨found, hfound, others, hothers, h⟩ := h
    injection h with h
    rw [← h, List.forall_mem_cons]
    exact ⟨periods_eq_ok hfound, ih hothers⟩

theorem freeBusyOf_crashes {entries : Fields}
    : Crashes (freeBusyOf detailed entries)
        ↔ (entries.any fun field => isBrokenBusy detailed (busyOf field.2)) = true := by
  induction entries with
  | nil => simp [freeBusyOf]
  | cons field rest ih =>
    obtain ⟨id, entry⟩ := field
    rw [freeBusyOf_cons, Crashes.bind_sure (periods_failsOnly detailed _) fun _ =>
      Crashes.bind_sure (freeBusyOf_failsOnly detailed rest) fun _ => iff_false_intro (Crashes.ok _)]
    simp [periods_crashes, ih]

def breaksFreeBusy (detailed : Bool) : Reply → Bool
  | structured (.map payload) _ =>
    (calendarEntries payload).any fun field => isBrokenBusy detailed (busyOf field.2)
  | _ => false

theorem freeBusy_failsOnly (detailed : Bool) (reply : Reply)
    : FailsOnly Fault.IsCrash (reply.freeBusy detailed) := by
  unfold freeBusy
  split
  . apply freeBusyOf_failsOnly
  . simp

theorem freeBusy_eq_ok {calendars : FreeBusy} (h : reply.freeBusy detailed = .ok calendars)
    : ∀ calendar ∈ calendars, ∀ p ∈ calendar.2, p.IsDated := by
  unfold freeBusy at h
  split at h
  . exact freeBusyOf_eq_ok h
  . injection h with h
    simp [← h]

theorem freeBusy_crashes
    : Crashes (reply.freeBusy detailed) ↔ reply.breaksFreeBusy detailed = true := by
  unfold freeBusy breaksFreeBusy
  split
  . exact freeBusyOf_crashes
  . simp

theorem freeBusyData_failsOnly (detailed : Bool) (reply : Reply)
    : FailsOnly Fault.IsCrash (reply.freeBusyData detailed) :=
  FailsOnly.bind (freeBusy_failsOnly detailed reply) (by simp)

theorem freeBusyData_crashes
    : Crashes (reply.freeBusyData detailed) ↔ reply.breaksFreeBusy detailed = true := by
  unfold freeBusyData
  rw [Crashes.bind_sure (freeBusy_failsOnly detailed reply) fun _ => iff_false_intro (Crashes.ok _)]
  simp [freeBusy_crashes]

def breaks (kind : Kind) (reply : Reply) : Bool :=
  match kind with
  | .create | .update => reply.breaksEvent
  | .list | .search => reply.breaksEvents
  | .listCalendars => reply.breaksCalendars
  | .freeBusy => reply.breaksFreeBusy false
  | .delete | .availability | .listColors | .currentTime => false

theorem data_failsOnly (kind : Kind) (reply : Reply) (requested : Option Event)
    (targetId : Option String) : FailsOnly Fault.IsCrash (reply.data kind requested targetId) := by
  cases kind with
  | create | update => exact FailsOnly.bind (event_failsOnly reply) (by simp)
  | list | search => exact FailsOnly.bind (events_failsOnly reply) (by simp)
  | listCalendars => exact FailsOnly.bind (calendars_failsOnly reply) (by simp)
  | freeBusy => exact freeBusyData_failsOnly false reply
  | _ => simp [data]

theorem data_crashes {kind : Kind} {requested : Option Event} {targetId : Option String}
    : Crashes (reply.data kind requested targetId) ↔ reply.breaks kind = true := by
  cases kind with
  | create | update =>
    exact (Crashes.bind_sure (event_failsOnly reply) fun _ => iff_false_intro (Crashes.ok _)).trans
      (by simp [event_crashes, breaks])
  | list | search =>
    exact (Crashes.bind_sure (events_failsOnly reply) fun _ => iff_false_intro (Crashes.ok _)).trans
      (by simp [events_crashes, breaks])
  | listCalendars =>
    exact (Crashes.bind_sure (calendars_failsOnly reply) fun _ =>
      iff_false_intro (Crashes.ok _)).trans (by simp [calendars_crashes, breaks])
  | freeBusy => exact freeBusyData_crashes
  | _ => simp [data, breaks]

theorem normalize_failsOnly (kind : Kind) (raw : Value) (requested : Option Event)
    (targetId : Option String) : FailsOnly Fault.IsRemote (normalize kind raw requested targetId) := by
  apply FailsOnly.bind (ofValue_failsOnly raw)
  intro reply _
  exact (data_failsOnly kind reply requested targetId).isRemote

/--
Whether a raw reply breaks off what is made of it, where `breaks` tells it of the reply that it amounts
to.
-/
def breaksRaw (breaks : Reply → Bool) (raw : Value) : Bool :=
  isUnshown raw || match ofValue raw with
    | .ok reply => breaks reply
    | .error _ => false

theorem bind_ofValue_crashes {α : Type} {next : Reply → Except Fault α} {breaks : Reply → Bool}
    (h : ∀ reply, Crashes (next reply) ↔ breaks reply = true)
    : Crashes (ofValue raw >>= next) ↔ breaksRaw breaks raw = true := by
  rw [Crashes.bind, ofValue_crashes, breaksRaw, Bool.or_eq_true]
  cases ofValue raw with
  | error e => simp
  | ok reply => simp [h]

theorem normalize_crashes {kind : Kind} {requested : Option Event} {targetId : Option String}
    : Crashes (normalize kind raw requested targetId) ↔ breaksRaw (·.breaks kind) raw = true :=
  bind_ofValue_crashes fun _ => data_crashes

end Reply

end Datebook
