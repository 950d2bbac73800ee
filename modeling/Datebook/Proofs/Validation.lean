import Datebook.Proofs.Errand
import Datebook.Proofs.Time.Window

/-!
This module contains the verification of the checks that precede all work of the service: they fail
with refusals or break off, and what passes them is as the service wants it.
-/

namespace Datebook

theorem checkOrder_failsOnly (start finish : Value)
    : FailsOnly Fault.IsRefusal (checkOrder start finish) := by
  have hdate (v : Value)
      : FailsOnly Fault.IsRefusal ((Timestamp.ofValue v).mapError Fault.date) :=
    FailsOnly.mapError fun _ => trivial
  unfold checkOrder
  apply FailsOnly.bind (hdate finish)
  intro finish _
  apply FailsOnly.bind (hdate start)
  intro start _
  split
  . simp [Fault.IsRefusal]
  . simp

theorem Operation.requiredTime_failsOnly (params : Fields) (name other : String)
    : FailsOnly Fault.IsRefusal (requiredTime params name other) := by
  unfold requiredTime
  split
  . simp [Fault.IsRefusal]
  . exact FailsOnly.mapError fun _ => trivial

theorem Operation.optionalTime_failsOnly (params : Fields) (name other : String)
    : FailsOnly Fault.IsRefusal (optionalTime params name other) := by
  unfold optionalTime
  split
  . simp
  . split
    . simp [Fault.IsRefusal]
    . simp

theorem Field.recurrence_failsOnly (v : Value)
    : FailsOnly Fault.IsRefusal ((Field.recurrence v).mapError .field) :=
  FailsOnly.mapError fun _ => trivial

theorem Changes.checkBounds_failsOnly (start finish : Option String)
    : FailsOnly Fault.IsRefusal (checkBounds start finish) := by
  unfold checkBounds
  split
  . apply checkOrder_failsOnly
  . simp

section

open Timestamp (Denotes Before)

theorem Operation.requiredTime_eq_ok {params : Fields} {name other stamp : String}
    (h : requiredTime params name other = .ok stamp) : ∃ t, Denotes (.text stamp) t := by
  unfold requiredTime at h
  split at h
  . cases h
  . rw [Except.mapError_eq_ok] at h
    exact Timestamp.denotes_of_normalize h

theorem Operation.optionalTime_eq_ok {params : Fields} {name other : String} {found : Option String}
    (h : optionalTime params name other = .ok found)
    : (found.isNone = [name, other].all fun name => (Fields.get params name).isAbsent)
      ∧ ∀ stamp ∈ found, ∃ t, Denotes (.text stamp) t := by
  rw [← Command.isAbsent_param]
  unfold optionalTime at h
  split at h
  . next hnull =>
    injection h with h
    rw [hnull, ← h]
    exact ⟨rfl, by simp⟩
  . next hgiven =>
    split at h
    . cases h
    . next stamp hstamp =>
      injection h with h
      rw [← h]
      constructor
      . cases habsent : (Command.param params [name, other]).isAbsent with
        | true => exact absurd (Command.param_eq_null habsent) (hgiven ·)
        | false => rfl
      . simpa using Timestamp.denotes_of_normalize hstamp

theorem Changes.checkBounds_eq_ok {start finish : Option String}
    (h : checkBounds start finish = .ok ())
    (hstart : ∀ stamp ∈ start, ∃ t, Denotes (.text stamp) t)
    (hfinish : ∀ stamp ∈ finish, ∃ t, Denotes (.text stamp) t)
    : ∀ s ∈ start, ∀ f ∈ finish, Before (.text s) (.text f) := by
  rintro s hs f hf
  obtain ⟨t, ht⟩ := hstart s hs
  obtain ⟨u, hu⟩ := hfinish f hf
  rw [Option.mem_def] at hs hf
  rw [hs, hf] at h
  exact before_of_checkOrder ht hu h

end

variable [Host] {prefs : Preferences} {now : Instant} {params : Fields}

section

variable (params : Fields)

theorem Preferences.calendarOf_failsOnly (prefs : Preferences)
    : FailsOnly Fault.IsLocal (prefs.calendarOf params) := by
  unfold calendarOf
  apply FailsOnly.bind (Field.text_failsOnly _).isLocal
  simp

theorem Preferences.zoneOf_failsOnly (prefs : Preferences)
    : FailsOnly Fault.IsRefusal (prefs.zoneOf params) :=
  Zone.resolve_failsOnly _ _

theorem Preferences.listingWindow_failsOnly (prefs : Preferences) (now : Instant) (horizon : Length)
    : FailsOnly Fault.IsRefusal (prefs.listingWindow now params horizon) := by
  unfold listingWindow windowOf
  exact Window.resolve_failsOnly

theorem Preferences.targetWindow_failsOnly (prefs : Preferences) (now : Instant)
    : FailsOnly Fault.IsRefusal (prefs.targetWindow now params) := by
  unfold targetWindow
  dsimp only
  split
  . simp
  . exact FailsOnly.map Window.resolve_failsOnly

end

namespace Operation

theorem zoneArgs_failsOnly (prefs : Preferences) (params : Fields)
    : FailsOnly Fault.IsRefusal (zoneArgs prefs params) := by
  unfold zoneArgs
  split
  . simp
  . apply FailsOnly.bind (Zone.resolve_failsOnly _ _)
    simp

theorem listArgs_failsOnly (prefs : Preferences) (now : Instant) (params : Fields)
    : FailsOnly Fault.IsLocal (listArgs prefs now params) := by
  unfold listArgs
  apply FailsOnly.bind (prefs.listingWindow_failsOnly params now _).refusal_isLocal
  intro window _
  apply FailsOnly.bind (prefs.calendarOf_failsOnly params)
  simp

theorem queryArgs_failsOnly (prefs : Preferences) (now : Instant) (params : Fields)
    : FailsOnly Fault.IsLocal (queryArgs prefs now params) := by
  unfold queryArgs
  apply FailsOnly.bind (Field.required_failsOnly _ _)
  intro query _
  apply FailsOnly.bind (prefs.listingWindow_failsOnly params now _).refusal_isLocal
  intro window _
  apply FailsOnly.bind (prefs.calendarOf_failsOnly params)
  simp

theorem busyArgs_failsOnly (prefs : Preferences) (now : Instant) (params : Fields)
    : FailsOnly Fault.IsLocal (busyArgs prefs now params) := by
  unfold busyArgs
  apply FailsOnly.bind (prefs.calendarOf_failsOnly params)
  intro calendarId _
  apply FailsOnly.bind (Field.calendars_failsOnly _ _)
  intro ids _
  apply FailsOnly.bind (prefs.listingWindow_failsOnly params now _).refusal_isLocal
  simp

theorem Inquiry.ofParams_failsOnly (prefs : Preferences) (now : Instant) (params : Fields)
    : FailsOnly Fault.IsLocal (ofParams prefs now params) := by
  unfold ofParams
  apply FailsOnly.bind (Field.duration_failsOnly _ _)
  intro minutes _
  apply FailsOnly.bind (prefs.calendarOf_failsOnly params)
  intro calendarId _
  apply FailsOnly.bind (prefs.listingWindow_failsOnly params now _).refusal_isLocal
  simp

end Operation

theorem Draft.ofParams_failsOnly (prefs : Preferences) (params : Fields)
    : FailsOnly Fault.IsLocal (ofParams prefs params) := by
  unfold ofParams
  refine .bind (Field.required_failsOnly _ _) fun title _ => ?_
  refine .bind (Operation.requiredTime_failsOnly params _ _).refusal_isLocal fun start _ => ?_
  refine .bind (Operation.requiredTime_failsOnly params _ _).refusal_isLocal fun finish _ => ?_
  refine .bind (checkOrder_failsOnly _ _).refusal_isLocal fun _ _ => ?_
  refine .bind (prefs.calendarOf_failsOnly params) fun calendarId _ => ?_
  refine .bind (prefs.zoneOf_failsOnly params).refusal_isLocal fun zone _ => ?_
  refine .bind (Field.text_failsOnly _).isLocal fun description _ => ?_
  refine .bind (Field.text_failsOnly _).isLocal fun location _ => ?_
  refine .bind (Field.attendees_failsOnly _) fun attendees _ => ?_
  refine .bind (Field.nonemptyText?_failsOnly _).isLocal fun colorId _ => ?_
  refine .bind (Field.recurrence_failsOnly _).refusal_isLocal fun recurrence _ => ?_
  simp

theorem Changes.zoneOf_failsOnly (prefs : Preferences) (params : Fields)
    : FailsOnly Fault.IsRefusal (zoneOf prefs params) := by
  unfold zoneOf
  split
  . simp
  . exact FailsOnly.map (prefs.zoneOf_failsOnly params)

theorem Changes.attendeesOf_failsOnly (params : Fields)
    : FailsOnly Fault.IsLocal (attendeesOf params) := by
  unfold attendeesOf
  split
  . simp
  . exact FailsOnly.map (Field.attendees_failsOnly _)

theorem Changes.ofParams_failsOnly (prefs : Preferences) (params : Fields)
    : FailsOnly Fault.IsLocal (ofParams prefs params) := by
  unfold ofParams
  refine .bind (Field.text_failsOnly _).isLocal fun title _ => ?_
  refine .bind (Field.text_failsOnly _).isLocal fun description _ => ?_
  refine .bind (Field.text_failsOnly _).isLocal fun location _ => ?_
  refine .bind (Operation.optionalTime_failsOnly params _ _).refusal_isLocal fun start _ => ?_
  refine .bind (Operation.optionalTime_failsOnly params _ _).refusal_isLocal fun finish _ => ?_
  refine .bind (checkBounds_failsOnly start finish).refusal_isLocal fun _ _ => ?_
  refine .bind (zoneOf_failsOnly prefs params).refusal_isLocal fun zone _ => ?_
  refine .bind (attendeesOf_failsOnly params) fun attendees _ => ?_
  refine .bind (Field.text_failsOnly _).isLocal fun colorId _ => ?_
  refine .bind (Field.recurrence_failsOnly _).refusal_isLocal fun recurrence _ => ?_
  dsimp only
  split
  . simp [Fault.IsLocal, Fault.IsRefusal]
  . refine .bind (Field.text_failsOnly _).isLocal fun sendUpdates _ => ?_
    simp

theorem Address.ofParams_failsOnly (params : Fields)
    : FailsOnly Fault.IsLocal (ofParams params) := by
  unfold ofParams
  refine .bind (Field.text_failsOnly _).isLocal fun eventId _ => ?_
  refine .bind (Field.text_failsOnly _).isLocal fun query _ => ?_
  split
  . simp [Fault.IsLocal, Fault.IsRefusal]
  . simp

theorem Target.searchArgs_failsOnly (prefs : Preferences) (now : Instant) (query : String)
    (window : Option Window) (calendarId : String)
    : FailsOnly Fault.IsLocal (searchArgs prefs now (.text query) window calendarId) := by
  unfold searchArgs
  refine .bind (Field.required_failsOnly _ _) fun query _ => ?_
  cases window with
  | some window => simp [bind, Except.bind]
  | none =>
    refine .bind (Window.today_failsOnly prefs.zone now) fun window _ => ?_
    simp

theorem Address.search_failsOnly (address : Address) (prefs : Preferences) (now : Instant)
    (params : Fields) (calendarId : String)
    : FailsOnly Fault.IsLocal
        (address.search prefs now params calendarId) := by
  unfold search
  split
  . refine .bind (prefs.targetWindow_failsOnly params now).refusal_isLocal fun window _ => ?_
    refine .bind (Target.searchArgs_failsOnly prefs now _ window calendarId) fun args _ => ?_
    simp
  . simp

theorem Kind.errand_failsOnly (kind : Kind) (prefs : Preferences) (now : Instant) (params : Fields)
    : FailsOnly Fault.IsLocal (kind.errand prefs now params) := by
  cases kind with
  | create =>
    refine .bind (Draft.ofParams_failsOnly prefs params) fun draft _ => ?_
    simp
  | list =>
    refine .bind (Operation.listArgs_failsOnly prefs now params) fun args _ => ?_
    simp
  | search =>
    refine .bind (Operation.queryArgs_failsOnly prefs now params) fun args _ => ?_
    simp
  | freeBusy =>
    refine .bind (Operation.busyArgs_failsOnly prefs now params) fun args _ => ?_
    simp
  | availability =>
    refine .bind (Operation.Inquiry.ofParams_failsOnly prefs now params)
      fun inquiry _ => ?_
    simp
  | listCalendars | listColors | currentTime =>
    refine .bind (Operation.zoneArgs_failsOnly prefs params).refusal_isLocal fun args _ => ?_
    simp
  -- Only these two look at the clock of the default zone, and only to search.
  | update =>
    unfold errand Operation.updateErrand Operation.updateInput
    refine .bind (.bind (Address.ofParams_failsOnly params) fun address _ =>
      .bind (prefs.calendarOf_failsOnly params) fun calendarId _ =>
      .bind (Changes.ofParams_failsOnly prefs params) fun changes _ => by simp)
      fun input _ => ?_
    refine .bind (Address.search_failsOnly input.1 prefs now params input.2.1) fun search _ => ?_
    simp
  | delete =>
    unfold errand Operation.deleteErrand Operation.deleteInput
    refine .bind (.bind (Address.ofParams_failsOnly params) fun address _ =>
      .bind (prefs.calendarOf_failsOnly params) fun calendarId _ =>
      .bind ((Field.text_failsOnly _).isLocal) fun notified _ => by simp)
      fun input _ => ?_
    refine .bind (Address.search_failsOnly input.1 prefs now params input.2.1) fun search _ => ?_
    simp

section

open Timestamp (Denotes Before)

structure Draft.IsProper (d : Draft) : Prop where
  title : Text.IsTrimmed d.event.title ∧ d.event.title ≠ ""
  id : d.event.id = none
  before : Before (.text d.event.start) (.text d.event.finish)
  zone : Zone.isKnown d.zone = true
  attendees : Field.AreAttendees d.event.attendees

theorem Draft.ofParams_eq_ok {d : Draft} (h : ofParams prefs params = .ok d) : d.IsProper := by
  unfold ofParams at h
  simp only [Except.bind_eq_ok] at h
  obtain ⟨title, htitle, start, hstart, finish, hfinish, _, horder, _, -, zone, hzone, _, -, _, -,
    attendees, hattendees, _, -, _, -, h⟩ := h
  cases h
  obtain ⟨t, ht⟩ := Operation.requiredTime_eq_ok hstart
  obtain ⟨u, hu⟩ := Operation.requiredTime_eq_ok hfinish
  exact
    { title := Field.required_eq_ok htitle
      id := rfl
      before := before_of_checkOrder ht hu horder
      zone := Zone.isKnown_of_resolve hzone
      attendees := Field.attendees_eq_ok hattendees }

namespace Changes

structure IsProper (c : Changes) : Prop where
  title : Text.IsTrimmed c.title
  start : ∀ stamp ∈ c.start, ∃ t, Denotes (.text stamp) t
  finish : ∀ stamp ∈ c.finish, ∃ t, Denotes (.text stamp) t
  before : ∀ start ∈ c.start, ∀ finish ∈ c.finish, Before (.text start) (.text finish)
  zone : ∀ zone ∈ c.zone, Zone.isKnown zone = true
  attendees : ∀ addresses ∈ c.attendees, Field.AreAttendees addresses
  some : c.eventArgs ≠ []

theorem zoneOf_eq_ok {found : Option String} (h : zoneOf prefs params = .ok found)
    : ∀ zone ∈ found, Zone.isKnown zone = true := by
  unfold zoneOf at h
  split at h
  . injection h with h
    simp [← h]
  . rw [Except.map_eq_ok] at h
    obtain ⟨zone, hzone, rfl⟩ := h
    simpa using Zone.isKnown_of_resolve hzone

theorem attendeesOf_eq_ok {found : Option (List String)} (h : attendeesOf params = .ok found)
    : ∀ addresses ∈ found, Field.AreAttendees addresses := by
  unfold attendeesOf at h
  split at h
  . injection h with h
    simp [← h]
  . rw [Except.map_eq_ok] at h
    obtain ⟨addresses, haddresses, rfl⟩ := h
    simpa using Field.attendees_eq_ok haddresses

theorem ofParams_eq_ok {c : Changes} (h : ofParams prefs params = .ok c)
    : c.IsProper
      ∧ (c.start.isNone = ["start", "startTime"].all fun name => (Fields.get params name).isAbsent)
      ∧ (c.finish.isNone = ["end", "endTime"].all fun name => (Fields.get params name).isAbsent) := by
  unfold ofParams at h
  simp only [Except.bind_eq_ok] at h
  obtain ⟨title, htitle, _, -, _, -, start, hstart, finish, hfinish, _, hbounds, zone, hzone,
    attendees, hattendees, _, -, _, -, h⟩ := h
  split at h
  . cases h
  . next hsome =>
    rw [Except.bind_eq_ok] at h
    obtain ⟨_, -, h⟩ := h
    obtain ⟨hstartAbsent, hstart⟩ := Operation.optionalTime_eq_ok hstart
    obtain ⟨hfinishAbsent, hfinish⟩ := Operation.optionalTime_eq_ok hfinish
    cases h
    refine ⟨?_, hstartAbsent, hfinishAbsent⟩
    exact
      { title := Field.isTrimmed_of_text htitle
        start := hstart
        finish := hfinish
        before := checkBounds_eq_ok hbounds hstart hfinish
        zone := zoneOf_eq_ok hzone
        attendees := attendeesOf_eq_ok hattendees
        some := fun hnone => hsome (List.isEmpty_iff.mpr hnone) }

end Changes

end

end Datebook
