import Datebook.Proofs.Bounds

/-!
This module contains the verification that an update which is answered with nothing about the event
reports the event that was found, changed in what was asked for and in nothing else.
-/

namespace Datebook

def Value.email? (v : Value) : Option String :=
  v.fields?.bind fun fields => (Fields.get fields "email").text?

/--
An event with what the arguments of an update carry about it, each part under the name that it has
there. Nothing else about the event changes.
-/
def Event.revised (args : Fields) (e : Event) : Event :=
  let text name := (Fields.get args name).text?
  let emails := (Fields.get args "attendees").items?.map (·.filterMap Value.email?)
  { e with
    title := (text "summary").getD e.title
    description := (text "description").getD e.description
    location := (text "location").getD e.location
    start := (text "start").getD e.start
    finish := (text "end").getD e.finish
    attendees := emails.getD e.attendees
    colorId := (text "colorId").or e.colorId }

namespace Operation

theorem optionalArg_eq (name s : String)
    : optionalArg name s = Fields.optional name ((Listing.nonempty? s).map .text) := by
  unfold optionalArg Listing.nonempty?
  split
  . rfl
  . rfl

theorem optionalList_eq (name : String) (texts : List String)
    : optionalList name texts
        = Fields.optional name (if texts = [] then none else some (.list (texts.map .text))) := by
  cases texts with
  | nil => rfl
  | cons s texts => rfl

end Operation

namespace Changes

theorem optionalTime_eq (name : String) (stamp : Option String)
    : optionalTime name stamp = Fields.optional name (stamp.map .text) := by
  cases stamp with
  | none => rfl
  | some s => rfl

theorem eventArgs_eq (changes : Changes)
    : changes.eventArgs
        = Fields.optional "summary" ((Listing.nonempty? changes.title).map .text)
          ++ Fields.optional "description" ((Listing.nonempty? changes.description).map .text)
          ++ Fields.optional "location" ((Listing.nonempty? changes.location).map .text)
          ++ Fields.optional "start" (changes.start.map .text)
          ++ Fields.optional "end" (changes.finish.map .text)
          ++ Fields.optional "timeZone" (changes.zone.map .text)
          ++ Fields.optional "attendees" (changes.attendees.map Operation.attendeeArgs)
          ++ Fields.optional "colorId" ((Listing.nonempty? changes.colorId).map .text)
          ++ Operation.optionalList "recurrence" changes.recurrence := by
  unfold eventArgs
  simp only [Operation.optionalArg_eq, optionalTime_eq]
  cases changes.attendees with
  | none => rfl
  | some addresses => rfl

theorem text?_given (s : Option String) : ((s.map Value.text).getD .null).text? = s := by
  cases s with
  | none => rfl
  | some s => rfl

theorem emails_given (attendees : Option (List String))
    : ((attendees.map Operation.attendeeArgs).getD .null).items?.map (·.filterMap Value.email?)
        = attendees := by
  cases attendees with
  | none => rfl
  | some addresses =>
    unfold Operation.attendeeArgs
    show some ((addresses.map _).filterMap Value.email?) = some addresses
    rw [List.filterMap_map]
    exact congrArg some List.filterMap_some

theorem nonempty?_getD (s old : String) : (Listing.nonempty? s).getD old = orKeep s old := by
  unfold Listing.nonempty? orKeep
  split
  . rfl
  . rfl

theorem nonempty?_or (s : String) (old : Option String)
    : (Listing.nonempty? s).or old = if s = "" then old else some s := by
  unfold Listing.nonempty?
  split
  . rfl
  . rfl

theorem revised_toArgs (changes : Changes) (calendarId eventId : String) (e : Event)
    : e.revised (changes.toArgs calendarId eventId) = changes.apply e := by
  unfold Event.revised apply toArgs Fields.get
  simp [eventArgs_eq, Operation.optionalArg_eq, Operation.optionalList_eq, List.lookup_append,
    Fields.lookup_optional, List.lookup_cons, text?_given, emails_given, nonempty?_getD, nonempty?_or]

end Changes

namespace Reply

/--
Whether a reply tells of no event: there is nothing in it, or words without a block that an event can be
read from.
-/
def IsSilent : Reply → Prop
  | empty => True
  | prose text => ∀ block ∈ Listing.blocks text.toList, ∀ e, Listing.eventOf block ≠ .ok (some e)
  | structured .. => False

theorem eventsOf_of_unread {blocks : List (List Char)} {events : List Event}
    (h : ∀ block ∈ blocks, ∀ e, Listing.eventOf block ≠ .ok (some e))
    (hevents : Listing.eventsOf blocks = .ok events) : events = [] := by
  induction blocks generalizing events with
  | nil =>
    cases hevents
    rfl
  | cons block blocks ih =>
    rw [List.forall_mem_cons] at h
    unfold Listing.eventsOf at hevents
    simp only [Except.bind_eq_ok] at hevents
    obtain ⟨event, hevent, rest, hrest, heq⟩ := hevents
    cases heq
    cases event with
    | none => exact ih h.2 hrest
    | some e => exact absurd hevent (h.1 e)

variable [Host]

theorem IsSilent.event_eq {reply : Reply} (h : reply.IsSilent) {found : Option Event}
    (hfound : reply.event = .ok found) : found = none := by
  cases reply with
  | empty =>
    cases hfound
    rfl
  | prose text =>
    unfold event at hfound
    dsimp only at hfound
    cases hevents : Listing.events text with
    | error e =>
      rw [hevents] at hfound
      cases hfound
    | ok events =>
      rw [hevents] at hfound
      rw [eventsOf_of_unread h hevents] at hfound
      cases hfound
      rfl
  | structured payload message => cases h

theorem IsSilent.eventData_eq {reply : Reply} (h : reply.IsSilent) (e : Event)
    : (reply.breaksEvent = false → ∃ data, reply.eventData (some e) = .ok (.map data)
          ∧ Fields.get data "event" = .map e.toRecord)
        ∧ (reply.breaksEvent = true →
          ∃ fault, reply.eventData (some e) = .error fault ∧ fault.IsCrash) := by
  unfold eventData
  cases hevent : reply.event with
  | ok found =>
    have hplain : reply.breaksEvent = false := by
      rw [← Bool.not_eq_true, ← event_crashes, hevent]
      exact Crashes.ok found
    rw [h.event_eq hevent, hplain]
    exact ⟨fun _ => ⟨_, rfl, rfl⟩, nofun⟩
  | error fault =>
    have hcrash : fault.IsCrash := event_failsOnly reply fault hevent
    have hbreaks : reply.breaksEvent = true := by
      rw [← event_crashes, hevent, Crashes.error]
      exact hcrash
    rw [hbreaks]
    exact ⟨nofun, fun _ => ⟨fault, rfl, hcrash⟩⟩

end Reply

namespace Backend

section

variable [Host] {σ : Type} {b : Backend σ} {prefs : Preferences} {now : Instant} {c : Command}
  {s : σ} {e : Event} {args : Fields} {raw : Value}

theorem exists_changes_of_finds (hkind : c.kind = .update) (hseeks : c.seeks = true)
    (h : Finds (b.run (c.plan prefs now) s).trace e)
    (hmem : .call "update-event" args (.ok raw) ∈ (b.run (c.plan prefs now) s).trace)
    : ∃ calendarId changes, args = Changes.toArgs changes calendarId (e.id.getD "")
        ∧ (b.run (c.plan prefs now) s).result
          = Reply.normalize .update raw (some (changes.apply e)) none := by
  obtain ⟨address, calendarId, changes, prelude, sought, found, live, -, -, hprelude, hrun⟩ :=
    exists_run_of_finds hkind hseeks h
  rw [hrun] at hmem ⊢
  dsimp only at hmem ⊢
  have hlast : .call "update-event" args (.ok raw) ∈ (b.run (.send "update-event"
      (Operation.updateQuestion address calendarId changes (some e))) live).trace := by
    cases eq_of_mem_preludes hprelude with
    | inl hnil => simpa [hnil] using hmem
    | inr hlive => simpa [hlive] using hmem
  unfold Operation.updateQuestion at hlast ⊢
  cases hcheck : changes.checkAgainst (some e) with
  | error fault =>
    rw [hcheck] at hlast
    cases hlast
  | ok _ =>
    rw [hcheck] at hlast
    simp only [bind, Except.bind] at hlast ⊢
    rw [run_send] at hlast ⊢
    obtain ⟨-, rfl, hanswer⟩ := eq_of_mem_invoke hlast
    refine ⟨calendarId, changes, rfl, ?_⟩
    dsimp only
    rw [← hanswer]
    rfl

/--
What an update reports is what it sent, where the service tells of no event in its reply: the event that
was found, with what the arguments carry in place of what it had. Only a block of words that breaks the
reading off is reported as nothing at all.
-/
theorem dispatch_reports_revision (hkind : c.kind = .update) (hseeks : c.seeks = true)
    (hmem : .call "update-event" args (.ok raw) ∈ (b.dispatch prefs now c s).trace) {reply : Reply}
    (hreply : Reply.ofValue raw = .ok reply) (hsilent : reply.IsSilent)
    : (∃ e, Finds (b.dispatch prefs now c s).trace e)
        ∧ ∀ e, Finds (b.dispatch prefs now c s).trace e
          → (reply.breaksEvent = false → ∃ data, (b.dispatch prefs now c s).result
              = .ok (.success (some .update) (.map data) c.message)
                ∧ Fields.get data "event" = .map (e.revised args).toRecord)
            ∧ (reply.breaksEvent = true →
              ∃ cause, (b.dispatch prefs now c s).result = .error cause) := by
  refine ⟨exists_finds hseeks hmem, fun e hfinds => ?_⟩
  obtain ⟨calendarId, changes, rfl, hresult⟩ := exists_changes_of_finds hkind hseeks hfinds hmem
  obtain ⟨hplain, hbreaks⟩ := hsilent.eventData_eq (changes.apply e)
  have hdata : (b.run (c.plan prefs now) s).result = reply.eventData (some (changes.apply e)) := by
    rw [hresult, Reply.normalize, hreply]
    rfl
  unfold dispatch
  dsimp only
  rw [hdata, Changes.revised_toArgs]
  constructor
  . intro h
    obtain ⟨data, hok, hevent⟩ := hplain h
    refine ⟨data, ?_, hevent⟩
    rw [hok, Outcome.ofResult, hkind]
  . intro h
    obtain ⟨fault, hfault, hcrash⟩ := hbreaks h
    rw [hfault]
    exact exists_cause_of_crash hcrash

end

open scoped Rehearsal

theorem retitles_finding (reply : Value)
    (h : calls ((Rehearsal.finding reply).dispatch Rehearsal.preferences Rehearsal.morning
      Rehearsal.retitling ()).trace = ["search-events", "update-event"])
    : Finds ((Rehearsal.finding reply).dispatch Rehearsal.preferences Rehearsal.morning
          Rehearsal.retitling ()).trace (Rehearsal.standup "e1")
        ∧ ∃ args, .call "update-event" args (.ok reply) ∈ ((Rehearsal.finding reply).dispatch
          Rehearsal.preferences Rehearsal.morning Rehearsal.retitling ()).trace := by
  have hsearch : "search-events" ∈ calls ((Rehearsal.finding reply).dispatch Rehearsal.preferences
      Rehearsal.morning Rehearsal.retitling ()).trace := by
    simp [h]
  have hupdate : "update-event" ∈ calls ((Rehearsal.finding reply).dispatch Rehearsal.preferences
      Rehearsal.morning Rehearsal.retitling ()).trace := by
    simp [h]
  obtain ⟨sought, answer, hsearch⟩ := exists_call_of_mem_calls hsearch
  obtain ⟨_, rfl⟩ := (follows_run _ _ _).exists_call hsearch
  obtain ⟨args, answer, hupdate⟩ := exists_call_of_mem_calls hupdate
  obtain ⟨_, rfl⟩ := (follows_run _ _ _).exists_call hupdate
  have hpick : Target.pick (Rehearsal.listing "2025-08-20T10:00:00Z")
      = .ok (some (Rehearsal.standup "e1")) := by
    decide +kernel
  exact ⟨⟨sought, _, hsearch, hpick⟩, args, hupdate⟩

theorem dispatch_reports_revision_of_retitled
    : ∃ args data, ((Rehearsal.finding .null).dispatch Rehearsal.preferences Rehearsal.morning
          Rehearsal.retitling ()).result = .ok (.success (some .update) (.map data) "")
      ∧ Fields.get data "event" = .map ((Rehearsal.standup "e1").revised args).toRecord := by
  obtain ⟨hfinds, args, hupdate⟩ := retitles_finding .null (by decide +kernel)
  have hreply : Reply.ofValue .null = .ok .empty := rfl
  obtain ⟨data, hdata⟩ := ((dispatch_reports_revision rfl rfl hupdate hreply trivial).2 _ hfinds).1 rfl
  exact ⟨args, data, hdata⟩

/--
So there are replies that tell of no event and over which nothing is reported.
-/
theorem not_forall_dispatch_reports_revision
    : ¬ ∀ (b : Backend Unit) (prefs : Preferences) (now : Instant) (c : Command) (args : Fields)
        (raw : Value) (reply : Reply) (e : Event), c.kind = .update → c.seeks = true
        → Finds (b.dispatch prefs now c ()).trace e
        → .call "update-event" args (.ok raw) ∈ (b.dispatch prefs now c ()).trace
        → Reply.ofValue raw = .ok reply → reply.IsSilent
        → ∃ data, (b.dispatch prefs now c ()).result
            = .ok (.success (some .update) (.map data) c.message)
          ∧ Fields.get data "event" = .map (e.revised args).toRecord := by
  intro hall
  have hreply : Reply.ofValue
      (.map [("message", .text (Rehearsal.record "1" "e1" Rehearsal.farStart))])
        = .ok (.prose (Rehearsal.record "1" "e1" Rehearsal.farStart)) := by
    have hmessage : Reply.messageOf [("message", .text (Rehearsal.record "1" "e1" Rehearsal.farStart))]
        = some (Rehearsal.record "1" "e1" Rehearsal.farStart) := by
      decide +kernel
    unfold Reply.ofValue
    dsimp only
    rw [hmessage]
    rfl
  have hunread : ∀ block ∈ Listing.blocks (Rehearsal.record "1" "e1" Rehearsal.farStart).toList,
      (Listing.eventOf block).isOk = false := by
    decide +kernel
  have hsilent : (Reply.prose (Rehearsal.record "1" "e1" Rehearsal.farStart)).IsSilent := by
    intro block hblock e heq
    have hnone := hunread block hblock
    rw [heq] at hnone
    cases hnone
  obtain ⟨hfinds, args, hupdate⟩ := retitles_finding
    (.map [("message", .text (Rehearsal.record "1" "e1" Rehearsal.farStart))]) (by decide +kernel)
  obtain ⟨cause, hcause⟩ :=
    ((dispatch_reports_revision rfl rfl hupdate hreply hsilent).2 _ hfinds).2 (by decide +kernel)
  obtain ⟨data, hdata, -⟩ := hall _ _ _ _ _ _ _ _ rfl rfl hfinds hupdate hreply hsilent
  rw [hcause] at hdata
  cases hdata

end Backend

end Datebook
