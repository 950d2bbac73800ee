import Datebook.Proofs.Checks
import Datebook.Proofs.Target
import Datebook.Proofs.WireFormat

/-!
This module contains the verification that an event which has to be searched before it is changed
still ends after it starts, whichever of its bounds are new.
-/

namespace Datebook

open Timestamp (Denotes Before)

def Event.moved (e : Event) (start finish : Option String) : Event :=
  { e with start := start.getD e.start, finish := finish.getD e.finish }

def Event.IsOrdered (e : Event) : Prop :=
  Before (.text e.start) (.text e.finish)

def Finds [Host] (trace : List Touch) (e : Event) : Prop :=
  ∃ args raw, .call "search-events" args (.ok raw) ∈ trace ∧ Target.pick raw = .ok (some e)

structure Carries (args : Fields) (e : Event) (start finish : Option String) : Prop where
  eventId : Fields.get args "eventId" = .text (e.id.getD "")
  start : ∀ v, ("start", v) ∈ args ↔ ∃ stamp ∈ start, v = .text stamp
  finish : ∀ v, ("end", v) ∈ args ↔ ∃ stamp ∈ finish, v = .text stamp

theorem checkOrder_of_before {v w : Value} (h : Before v w) : checkOrder v w = .ok () := by
  obtain ⟨t, u, ht, hu, hlt⟩ := h
  unfold checkOrder
  rw [Timestamp.ofValue_of_denotes ht, Timestamp.ofValue_of_denotes hu]
  exact if_neg (Int.not_le.mpr hlt)

namespace Changes

variable {changes : Changes} {e : Event}

theorem carries_toArgs (changes : Changes) (e : Event) (calendarId : String)
    : Carries (changes.toArgs calendarId (e.id.getD "")) e changes.start changes.finish where
  eventId := rfl
  start := by
    intro v
    constructor
    . intro hmem
      exact (eventArgs_spec _ (mem_eventArgs_of_mem (by simp) hmem)).2.1 rfl
    . rintro ⟨stamp, hstamp, rfl⟩
      rw [Option.mem_def] at hstamp
      simp [toArgs, eventArgs, optionalTime, hstamp]
  finish := by
    intro v
    constructor
    . intro hmem
      exact (eventArgs_spec _ (mem_eventArgs_of_mem (by simp) hmem)).2.2 rfl
    . rintro ⟨stamp, hstamp, rfl⟩
      rw [Option.mem_def] at hstamp
      simp [toArgs, eventArgs, optionalTime, hstamp]

theorem IsProper.exists_denotes_moved [Host] (h : changes.IsProper) (he : e.IsDated)
    : (∃ t, Denotes (.text (e.moved changes.start changes.finish).start) t)
        ∧ ∃ t, Denotes (.text (e.moved changes.start changes.finish).finish) t := by
  constructor
  . cases hstart : changes.start with
    | none => exact he.start
    | some stamp => exact h.start stamp hstart
  . cases hfinish : changes.finish with
    | none => exact he.finish
    | some stamp => exact h.finish stamp hfinish

theorem isOrdered_moved [Host] (h : changes.IsProper) (he : e.IsDated)
    (hgiven : changes.start.isSome = true ∨ changes.finish.isSome = true)
    (hcheck : changes.checkAgainst (some e) = .ok ())
    : (e.moved changes.start changes.finish).IsOrdered := by
  obtain ⟨⟨t, ht⟩, u, hu⟩ := h.exists_denotes_moved he
  unfold checkAgainst at hcheck
  dsimp only at hcheck
  split at hcheck
  . next hboth =>
    rw [hboth, or_self] at hgiven
    rw [hgiven] at hboth
    obtain ⟨start, hstart⟩ := Option.isSome_iff_exists.mp hboth
    obtain ⟨finish, hfinish⟩ := Option.isSome_iff_exists.mp hgiven
    rw [hstart, hfinish]
    exact h.before start hstart finish hfinish
  . exact before_of_checkOrder ht hu hcheck

end Changes

namespace Target

variable [Host]

theorem found_of_pick {raw : Value} {e : Event} (h : pick raw = .ok (some e)) (query : String)
    : found query raw = .ok e := by
  have hpick := h
  unfold pick at hpick
  simp only [Except.bind_eq_ok] at hpick
  obtain ⟨reply, -, events, hevents, hfirst⟩ := hpick
  obtain ⟨picked, hpicked, -, hnamed⟩ := firstNamed_sighting (Reply.areSighted hevents).stable
  rw [hfirst] at hpicked
  cases hpicked
  unfold found
  rw [h]
  simp [bind, Except.bind, hnamed e rfl]

theorem pick_of_found {query : String} {raw : Value} {e : Event} (h : found query raw = .ok e)
    : pick raw = .ok (some e) := by
  unfold found at h
  rw [Except.bind_eq_ok] at h
  obtain ⟨picked, hpicked, h⟩ := h
  cases picked with
  | none => cases h
  | some picked =>
    dsimp only at h
    split at h
    . cases h
    . cases h
      exact hpicked

end Target

namespace Command

def Gives (c : Command) (start finish : Option String) : Prop :=
  Operation.optionalTime c.params "start" "startTime" = .ok start
    ∧ Operation.optionalTime c.params "end" "endTime" = .ok finish

variable {c : Command} {start finish : Option String}

theorem Gives.unique {start' finish' : Option String} (h : c.Gives start finish)
    (h' : c.Gives start' finish') : start = start' ∧ finish = finish' := by
  unfold Gives at h h'
  rw [h.1, h.2] at h'
  exact ⟨Except.ok.inj h'.1, Except.ok.inj h'.2⟩

def earlyTexts : List (List String) :=
  [["searchQuery", "query", "search"], ["calendarId"], ["title", "summary"], ["description"],
   ["location"]]

variable [Host] {prefs : Preferences}

theorem meets_found (hseeks : c.seeks = true) (prefs : Preferences) (now : Instant)
    : (c.plan prefs now).Meets
        (fun past operation _ => operation = "update-event"
          → ∃ x ∈ past, x.operation = "search-events" ∧ ∃ e, Target.pick x.answer = .ok (some e))
        (fun _ _ => True) [] := by
  unfold plan
  split
  . trivial
  . rw [Kind.plan_eq, Plan.meets_ofErrand]
    refine ⟨fun _ _ => trivial, fun errand herrand => ?_⟩
    have hsearches := search_isSome herrand
    rw [hseeks] at hsearches
    obtain ⟨⟨query, args⟩, hsearch⟩ := Option.isSome_iff_exists.mp hsearches
    rw [Errand.meets_plan_of_some hsearch]
    refine ⟨nofun, fun raw => ⟨fun _ _ => trivial, fun e he => ?_⟩⟩
    rw [Plan.meets_send]
    refine ⟨fun _ _ => trivial, fun question _ => ⟨fun _ => ?_, fun _ => trivial⟩⟩
    exact ⟨_, List.mem_append_right _ List.mem_cons_self, rfl, e, Target.pick_of_found he⟩

/--
Whether the work on an update breaks off before the bounds are compared: over noting the parameters,
or over a text that cannot be shown.
-/
def BreaksBeforeBounds (prefs : Preferences) (c : Command) : Prop :=
  (prefs.detailed = true ∧ (Value.map c.params).isTooDeep = true)
    ∨ param c.params ["searchQuery", "query", "search"] ≠ .null
      ∧ ∃ names ∈ earlyTexts, (param c.params names).isShowable = false

theorem Gives.changes_eq (h : c.Gives start finish) {changes : Changes}
    (hchanges : Changes.ofParams prefs c.params = .ok changes)
    : start = changes.start ∧ finish = changes.finish :=
  h.unique (times_of_changes hchanges)

end Command

namespace Command.Gives

variable {c : Command} {start finish : String}

theorem not_inOrder (h : c.Gives (some start) (some finish))
    (horder : ¬ Before (.text start) (.text finish))
    : ¬ Timestamp.InOrder (param c.params ["start", "startTime"])
        (param c.params ["end", "endTime"]) := by
  obtain ⟨-, hnone⟩ | ⟨t, ht, hstart⟩ := Operation.exists_of_optionalTime h.1
  . cases hnone
  . obtain ⟨-, hnone⟩ | ⟨u, hu, hfinish⟩ := Operation.exists_of_optionalTime h.2
    . cases hnone
    . obtain rfl := Option.some.inj hstart
      obtain rfl := Option.some.inj hfinish
      intro hinOrder
      exact horder ⟨_, _, Timestamp.denotes_stamp (Timestamp.isSupported_of_ofValue ht),
        Timestamp.denotes_stamp (Timestamp.isSupported_of_ofValue hu), hinOrder t u ht hu⟩

variable [Host] {prefs : Preferences}

theorem changes_ne_ok (h : c.Gives (some start) (some finish))
    (horder : ¬ Before (.text start) (.text finish)) {changes : Changes}
    : Changes.ofParams prefs c.params ≠ .ok changes := by
  intro hchanges
  obtain ⟨hstart, hfinish⟩ := h.changes_eq hchanges
  exact horder ((Changes.ofParams_eq_ok hchanges).1.before start hstart.symm finish hfinish.symm)

theorem crashes_errand (prefs : Preferences) (now : Instant) (hseeks : c.seeks = true)
    (h : c.Gives (some start) (some finish)) (horder : ¬ Before (.text start) (.text finish))
    : Crashes (Operation.updateErrand prefs now c.params)
        ↔ param c.params ["searchQuery", "query", "search"] ≠ .null
          ∧ ∃ names ∈ earlyTexts, (param c.params names).isShowable = false := by
  have hinput : Crashes (Operation.updateErrand prefs now c.params)
      ↔ Crashes (Operation.updateInput prefs c.params) := by
    unfold Operation.updateErrand
    rw [Crashes.bind, or_iff_left]
    rintro ⟨_, hinput, -⟩
    unfold Operation.updateInput at hinput
    simp only [Except.bind_eq_ok] at hinput
    obtain ⟨_, -, _, -, _, hchanges, -⟩ := hinput
    exact h.changes_ne_ok horder hchanges
  have hid : param c.params ["eventId", "id"] = .null := by
    apply param_eq_null
    rw [isAbsent_param]
    unfold seeks at hseeks
    rw [Bool.and_eq_true] at hseeks
    exact hseeks.2
  have hquery (hunshown : (param c.params ["searchQuery", "query", "search"]).isShowable = false)
      : param c.params ["searchQuery", "query", "search"] ≠ .null :=
    Value.ne_null_of_not_showable hunshown
  rw [hinput, Operation.crashes_updateInput prefs now]
  -- The checks get no further than the order of the bounds, and texts are all that breaks off before.
  unfold Kind.checks Check.ofAddress Check.ofChanges Check.target Check.optionalTime Check.order
  simp only [List.cons_append, List.nil_append, Check.break_shown_cons, Check.break_plain_cons, hid,
    h.not_inOrder horder, earlyTexts, List.exists_mem_cons_iff]
  have hnull : Value.isShowable .null = true := rfl
  simp only [hnull, List.not_mem_nil, false_and, and_false, or_false, exists_false, false_or,
    not_true_eq_false, Bool.true_eq_false, ne_eq, and_or_left, and_iff_right_of_imp hquery]

end Command.Gives

namespace Backend

theorem exists_outcome_of_refusal {c : Command} {fault : Fault} (h : fault.IsRefusal)
    : ∃ outcome, Outcome.ofResult c (.error fault) = .ok outcome
        ∧ outcome.stage? = some .validate := by
  cases fault with
  | date fault => exact ⟨_, rfl, rfl⟩
  | field fault => exact ⟨_, rfl, rfl⟩
  | _ => cases h

theorem exists_cause_of_crash {c : Command} {fault : Fault} (h : fault.IsCrash)
    : ∃ cause, Outcome.ofResult c (.error fault) = .error cause := by
  cases fault with
  | crash cause => exact ⟨cause, rfl⟩
  | _ => cases h

section

variable [Host] {σ : Type} {b : Backend σ} {prefs : Preferences} {now : Instant} {c : Command} {s : σ}
  {e : Event}

theorem exists_run_of_finds (hkind : c.kind = .update) (hseeks : c.seeks = true)
    (h : Finds (b.run (c.plan prefs now) s).trace e)
    : ∃ address calendarId changes prelude args raw live,
        Changes.ofParams prefs c.params = .ok changes ∧ e.IsDated ∧ prelude ∈ preludes
        ∧ b.run (c.plan prefs now) s
          = { b.run (.send "update-event"
                (Operation.updateQuestion address calendarId changes (some e))) live with
              trace := prelude ++ .call "search-events" args (.ok raw)
                :: (b.run (.send "update-event"
                    (Operation.updateQuestion address calendarId changes (some e))) live).trace } := by
  obtain ⟨args, raw, hmem, hpick⟩ := h
  obtain ⟨errand, query, prelude, live, -, herrand, hprelude, hrun⟩ :=
    exists_run_after_search hseeks hmem
  rw [hkind] at herrand
  obtain ⟨address, calendarId, changes, -, -, hchanges, -, hquestion⟩ :=
    Operation.updateErrand_eq_ok herrand
  refine ⟨address, calendarId, changes, prelude, args, raw, live, hchanges,
    (Target.pick_eq_ok hpick e rfl).toIsDated, hprelude, ?_⟩
  unfold Errand.proceed at hrun
  rw [Target.found_of_pick hpick, hquestion, hkind] at hrun
  exact hrun

theorem moves_in_order (hkind : c.kind = .update) (hseeks : c.seeks = true)
    (h : Finds (b.run (c.plan prefs now) s).trace e) {args : Fields} {answer : Except Fault Value}
    (hmem : .call "update-event" args answer ∈ (b.run (c.plan prefs now) s).trace)
    : ∃ start finish, c.Gives start finish ∧ Carries args e start finish
        ∧ (start.isSome = true ∨ finish.isSome = true → (e.moved start finish).IsOrdered) := by
  obtain ⟨address, calendarId, changes, prelude, sought, raw, live, hchanges, he, hprelude, hrun⟩ :=
    exists_run_of_finds hkind hseeks h
  rw [hrun] at hmem
  dsimp only at hmem
  have hlast : .call "update-event" args answer ∈ (b.run (.send "update-event"
      (Operation.updateQuestion address calendarId changes (some e))) live).trace := by
    cases eq_of_mem_preludes hprelude with
    | inl hnil => simpa [hnil] using hmem
    | inr hlive => simpa [hlive] using hmem
  refine ⟨changes.start, changes.finish, Command.times_of_changes hchanges, ?_⟩
  unfold Operation.updateQuestion at hlast
  cases hcheck : changes.checkAgainst (some e) with
  | error fault =>
    rw [hcheck] at hlast
    cases hlast
  | ok _ =>
    rw [hcheck] at hlast
    simp only [bind, Except.bind] at hlast
    rw [run_send] at hlast
    obtain ⟨-, rfl, -⟩ := eq_of_mem_invoke hlast
    exact ⟨changes.carries_toArgs e calendarId,
      fun hgiven => Changes.isOrdered_moved (Changes.ofParams_eq_ok hchanges).1 he hgiven hcheck⟩

theorem refuses_disorder (hkind : c.kind = .update) (hseeks : c.seeks = true)
    (h : Finds (b.run (c.plan prefs now) s).trace e) {start finish : Option String}
    (hgives : c.Gives start finish) (hgiven : start.isSome = true ∨ finish.isSome = true)
    (horder : ¬ (e.moved start finish).IsOrdered)
    : calls (b.run (c.plan prefs now) s).trace = ["search-events"]
      ∧ ∃ fault, (b.run (c.plan prefs now) s).result = .error fault ∧ fault.IsRefusal := by
  obtain ⟨address, calendarId, changes, prelude, sought, raw, live, hchanges, he, hprelude, hrun⟩ :=
    exists_run_of_finds hkind hseeks h
  obtain ⟨rfl, rfl⟩ := hgives.changes_eq hchanges
  rw [hrun]
  unfold Operation.updateQuestion
  cases hcheck : changes.checkAgainst (some e) with
  | error fault =>
    refine ⟨?_, fault, rfl, (Changes.checkAgainst_eq_error hcheck).1⟩
    dsimp only
    rw [calls_append, (of_mem_preludes hprelude).1]
    rfl
  | ok _ =>
    have hproper := (Changes.ofParams_eq_ok hchanges).1
    exact absurd (Changes.isOrdered_moved hproper he hgiven hcheck) horder

theorem exists_finds (hseeks : c.seeks = true) {args : Fields} {answer : Except Fault Value}
    (hmem : .call "update-event" args answer ∈ (b.run (c.plan prefs now) s).trace)
    : ∃ e, Finds (b.run (c.plan prefs now) s).trace e := by
  obtain ⟨done, hask, hdone⟩ := exists_past_of_mem (Command.meets_found hseeks prefs now) hmem
  obtain ⟨x, hx, hsearch, e, hpick⟩ := hask rfl
  rw [List.nil_append] at hx
  refine ⟨e, x.args, x.answer, ?_, hpick⟩
  rw [← hsearch]
  exact hdone x hx

theorem run_of_disorder (b : Backend σ) (prefs : Preferences) (now : Instant) (s : σ)
    (hkind : c.kind = .update) (hseeks : c.seeks = true) {start finish : String}
    (hgives : c.Gives (some start) (some finish)) (horder : ¬ Before (.text start) (.text finish))
    : ∃ fault, b.run (c.plan prefs now) s = ⟨.error fault, s, []⟩
        ∧ (fault.IsCrash ∧ c.BreaksBeforeBounds prefs
          ∨ fault.IsRefusal ∧ ¬ c.BreaksBeforeBounds prefs) := by
  unfold Command.plan Command.BreaksBeforeBounds
  split
  . next hdeep => exact ⟨_, rfl, .inl ⟨trivial, .inl (by simpa using hdeep)⟩⟩
  . next hplain =>
    have hcrashes := hgives.crashes_errand prefs now hseeks horder
    rw [Kind.plan_eq, hkind, Kind.errand, or_iff_right (by simpa using hplain), ← hcrashes]
    cases herrand : Operation.updateErrand prefs now c.params with
    | ok errand =>
      obtain ⟨_, _, _, -, -, hchanges, -⟩ := Operation.updateErrand_eq_ok herrand
      exact absurd hchanges (hgives.changes_ne_ok horder)
    | error fault =>
      refine ⟨fault, rfl, ?_⟩
      rw [Crashes.error]
      cases Kind.errand_failsOnly .update prefs now c.params fault herrand with
      | inl hrefusal =>
        refine .inr ⟨hrefusal, ?_⟩
        cases fault <;> simp [Fault.IsRefusal, Fault.IsCrash] at *
      | inr hcrash => exact .inl ⟨hcrash, hcrash⟩

/--
Where an update has to search its event, it asks the service for nothing that would make the event
end before it starts: whatever bounds it asks for, the event that was found is in order with them. If
the event would not be, the update is refused after the search. Two new bounds out of order are
refused before anything is done, unless the work breaks off over a text that is read before them.
-/
theorem dispatch_keeps_order (b : Backend σ) (prefs : Preferences) (now : Instant) (s : σ)
    (hkind : c.kind = .update) (hseeks : c.seeks = true)
    : (∀ args answer, .call "update-event" args answer ∈ (b.dispatch prefs now c s).trace
        → (∃ e, Finds (b.dispatch prefs now c s).trace e)
          ∧ ∀ e, Finds (b.dispatch prefs now c s).trace e
            → ∃ start finish, c.Gives start finish ∧ Carries args e start finish
              ∧ (start.isSome = true ∨ finish.isSome = true → (e.moved start finish).IsOrdered))
      ∧ (∀ start finish e, c.Gives start finish → start.isSome = true ∨ finish.isSome = true
        → Finds (b.dispatch prefs now c s).trace e → ¬ (e.moved start finish).IsOrdered
          → calls (b.dispatch prefs now c s).trace = ["search-events"]
            ∧ ∃ outcome, (b.dispatch prefs now c s).result = .ok outcome
              ∧ outcome.stage? = some .validate)
      ∧ ∀ start finish, c.Gives (some start) (some finish) → ¬ Before (.text start) (.text finish)
        → Untouched (b.dispatch prefs now c s) s
          ∧ (c.BreaksBeforeBounds prefs → ∃ cause, (b.dispatch prefs now c s).result = .error cause)
          ∧ (¬ c.BreaksBeforeBounds prefs → ∃ outcome,
            (b.dispatch prefs now c s).result = .ok outcome ∧ outcome.stage? = some .validate) := by
  unfold dispatch Untouched
  dsimp only
  refine ⟨?_, ?_, ?_⟩
  . intro args answer hmem
    exact ⟨exists_finds hseeks hmem, fun e hfinds => moves_in_order hkind hseeks hfinds hmem⟩
  . intro start finish e hgives hgiven hfinds horder
    obtain ⟨hcalls, fault, hfault, hrefusal⟩ :=
      refuses_disorder hkind hseeks hfinds hgives hgiven horder
    rw [hfault]
    exact ⟨hcalls, exists_outcome_of_refusal hrefusal⟩
  . intro start finish hgives horder
    obtain ⟨fault, hrun, hfault⟩ := run_of_disorder b prefs now s hkind hseeks hgives horder
    rw [hrun]
    refine ⟨⟨rfl, rfl⟩, ?_, ?_⟩
    . intro hbreaks
      obtain ⟨hcrash, -⟩ | ⟨-, hplain⟩ := hfault
      . exact exists_cause_of_crash hcrash
      . exact absurd hbreaks hplain
    . intro hplain
      obtain ⟨-, hbreaks⟩ | ⟨hrefusal, -⟩ := hfault
      . exact absurd hbreaks hplain
      . exact exists_outcome_of_refusal hrefusal

end

section

open scoped Rehearsal

theorem dispatch_keeps_order_of_delayed
    : calls ((Rehearsal.monotone (Rehearsal.listing "2025-08-20T10:00:00Z")).dispatch
        Rehearsal.preferences Rehearsal.morning Rehearsal.delaying ()).trace = ["search-events"] := by
  have hcalled : "search-events" ∈ calls ((Rehearsal.monotone
      (Rehearsal.listing "2025-08-20T10:00:00Z")).dispatch Rehearsal.preferences Rehearsal.morning
      Rehearsal.delaying ()).trace := by
    decide +kernel
  obtain ⟨args, answer, hmem⟩ := exists_call_of_mem_calls hcalled
  obtain ⟨_, rfl⟩ := (follows_run _ _ _).exists_call hmem
  have hpick : Target.pick (Rehearsal.listing "2025-08-20T10:00:00Z")
      = .ok (some
        { title := "Standup"
          start := "2025-08-20T10:00:00.000Z"
          finish := "2025-08-20T10:15:00.000Z"
          id := some "e1" }) := by
    decide +kernel
  have hgives : Rehearsal.delaying.Gives (some "2025-08-21T00:00:00.000Z") none :=
    ⟨by decide +kernel, by decide +kernel⟩
  refine ((dispatch_keeps_order _ _ _ _ rfl rfl).2.1 _ _ _ hgives (.inl rfl) ⟨args, _, hmem, hpick⟩
    fun horder => ?_).1
  have hcheck := checkOrder_of_before horder
  revert hcheck
  decide +kernel

/--
So there are new bounds out of order over which no stage reports a failure.
-/
theorem not_forall_dispatch_refuses_disorder
    : ¬ ∀ (b : Backend Unit) (prefs : Preferences) (now : Instant) (c : Command)
        (start finish : String), c.kind = .update → c.seeks = true
        → c.Gives (some start) (some finish) → ¬ Before (.text start) (.text finish)
          → ∃ outcome, (b.dispatch prefs now c ()).result = .ok outcome
            ∧ outcome.stage? = some .validate := by
  intro hall
  have hgives : (Rehearsal.inverting (Rehearsal.nested 1014)).Gives
      (some "2025-08-21T00:00:00.000Z") (some "2025-08-20T00:00:00.000Z") :=
    ⟨by decide +kernel, by decide +kernel⟩
  have horder : ¬ Before (.text "2025-08-21T00:00:00.000Z") (.text "2025-08-20T00:00:00.000Z") := by
    intro hbefore
    have hcheck := checkOrder_of_before hbefore
    revert hcheck
    decide +kernel
  have hbreaks : (Rehearsal.inverting (Rehearsal.nested 1014)).BreaksBeforeBounds
      Rehearsal.preferences := by
    have hquery : Command.param (Rehearsal.inverting (Rehearsal.nested 1014)).params
        ["searchQuery", "query", "search"] = .text "standup" := rfl
    refine .inr ⟨by simp [hquery], ["title", "summary"], by simp [Command.earlyTexts], ?_⟩
    show (Rehearsal.nested 1014).isShowable = false
    rw [Value.isShowable, Rehearsal.flaw?_nested (by decide)]
    rfl
  obtain ⟨outcome, houtcome, -⟩ :=
    hall (Rehearsal.monotone .null) Rehearsal.preferences Rehearsal.morning _ _ _ rfl rfl hgives
      horder
  obtain ⟨fault, hrun, ⟨hcrash, -⟩ | ⟨-, hplain⟩⟩ :=
    run_of_disorder (Rehearsal.monotone .null) Rehearsal.preferences Rehearsal.morning () rfl rfl
      hgives horder
  . obtain ⟨cause, hcause⟩ := exists_cause_of_crash hcrash
    unfold dispatch at houtcome
    rw [hrun] at houtcome
    dsimp only at houtcome
    rw [hcause] at houtcome
    cases houtcome
  . exact hplain hbreaks

end

end Backend

end Datebook
