import Datebook.Proofs.Agenda
import Datebook.Proofs.Answer
import Datebook.Proofs.Validation
import Datebook.Rehearsal.Host
import Datebook.Rehearsal.Service

/-!
This module contains the verification of the stages at which commands fail: what was done with the
service before a failure of each stage.
-/

namespace Datebook

theorem Fault.IsRemote.not_own {e : Fault} (h : e.IsRemote) : ¬ e.IsRefusal ∧ ¬ e.IsTarget := by
  cases e <;> simp [IsRemote, IsBackend, IsCrash, IsRefusal, IsTarget] at *

theorem Fault.IsLocal.not_target {e : Fault} (h : e.IsLocal) : ¬ e.IsTarget := by
  cases e <;> simp [IsLocal, IsCrash, IsRefusal, IsTarget] at *

theorem Fault.of_report {e : Fault} {stage : Stage} {reason : String}
    (h : e.report = .ok (stage, reason))
    : (stage = .validate ∧ e.IsRefusal) ∨ (stage = .resolve ∧ e.IsTarget)
        ∨ (stage = .service ∧ e.IsBackend) := by
  cases e with
  | crash cause => cases h
  | _ =>
    cases h
    simp [IsRefusal, IsTarget, IsBackend]

theorem Changes.checkAgainst_eq_error {changes : Changes} {target : Option Event} {e : Fault}
    (h : changes.checkAgainst target = .error e)
    : e.IsRefusal ∧ target.isSome = true ∧ changes.start.isNone ≠ changes.finish.isNone := by
  unfold checkAgainst at h
  split at h
  . cases h
  . split at h
    . cases h
    . next hone =>
      refine ⟨checkOrder_failsOnly _ _ e h, rfl, ?_⟩
      intro hboth
      rw [← Option.not_isNone, ← Option.not_isNone, hboth] at hone
      exact hone rfl

namespace Command

variable {c : Command} {prefs : Preferences} {now : Int} {errand : Errand} {target : Option Event}
  {e : Fault}

def changesOneBound (c : Command) : Bool :=
  let kept (names : List String) := names.all fun name => (Fields.get c.params name).isAbsent
  c.kind = .update && kept ["start", "startTime"] != kept ["end", "endTime"]

/--
Which exchanges there were before a fault that a stage of its own reports.
-/
def FailsInTime (c : Command) (past : List Exchange) (result : Except Fault Value) : Prop :=
  FailsOnly
    (fun e => (e.IsRefusal → past = [] ∨ past.map Exchange.operation = ["search-events"]
          ∧ c.seeks = true ∧ c.changesOneBound = true)
        ∧ (e.IsTarget → past.map Exchange.operation = ["search-events"]))
    result

theorem FailsInTime.of_remote {past : List Exchange} {result : Except Fault Value}
    (h : FailsOnly Fault.IsRemote result) : c.FailsInTime past result :=
  h.mono fun _ he => ⟨(absurd · he.not_own.1), (absurd · he.not_own.2)⟩

variable [Host]

theorem question_eq_error (h : c.kind.errand prefs now c.params = .ok errand)
    (hquestion : errand.question target = .error e)
    : e.IsRefusal ∧ target.isSome = true ∧ c.changesOneBound = true := by
  unfold changesOneBound
  cases hkind : c.kind with
  | update =>
    rw [hkind] at h
    obtain ⟨address, calendarId, changes, -, -, hchanges, -, heq⟩ := Operation.updateErrand_eq_ok h
    rw [heq, Operation.updateQuestion, Except.bind_eq_error] at hquestion
    obtain ⟨-, hstart, hfinish⟩ := Changes.ofParams_eq_ok hchanges
    cases hquestion with
    | inl hcheck =>
      obtain ⟨hrefusal, hsome, hone⟩ := Changes.checkAgainst_eq_error hcheck
      refine ⟨hrefusal, hsome, ?_⟩
      rw [hstart, hfinish] at hone
      simpa using hone
    | inr hrest =>
      obtain ⟨_, -, hrest⟩ := hrest
      cases hrest
  | delete =>
    rw [hkind] at h
    obtain ⟨_, _, _, -, -, -, -, heq⟩ := Operation.deleteErrand_eq_ok h
    rw [heq] at hquestion
    cases hquestion
  | _ =>
    rw [hkind] at h
    obtain ⟨_, -, rfl⟩ := Errand.eq_direct h
    cases hquestion

theorem meets_stages (hnow : Instant.isSupported now = true) (prefs : Preferences) (c : Command)
    : (c.plan prefs now).Meets (fun _ _ _ => True) c.FailsInTime [] := by
  have hearly {e : Fault} (h : ¬ e.IsTarget) : c.FailsInTime [] (.error e) := by
    rw [FailsInTime, FailsOnly.error]
    exact ⟨fun _ => .inl rfl, (absurd · h)⟩
  unfold plan
  split
  . exact hearly (by simp [Fault.IsTarget])
  . rw [Kind.plan_eq, Plan.meets_ofErrand]
    constructor
    . intro e he
      exact hearly (Kind.errand_failsOnly _ _ _ _ e he).not_target
    . intro errand herrand
      -- What follows on an answer can fail, but no longer with a fault of the command's own.
      have hresult {target : Option Event} {question : Question}
          (hquestion : errand.question target = .ok question) (raw : Value)
          : FailsOnly Fault.IsRemote (question.result raw) :=
        (Kind.result_spec hnow herrand hquestion raw).1
      have hseeks := search_isSome herrand
      cases hsearch : errand.search with
      | none =>
        rw [Errand.meets_plan_of_none hsearch, Plan.meets_send]
        constructor
        . intro e he
          obtain ⟨-, hsome, -⟩ := question_eq_error herrand he
          cases hsome
        . intro question hquestion
          exact ⟨trivial, fun raw => .of_remote (hresult hquestion raw)⟩
      | some search =>
        obtain ⟨query, args⟩ := search
        rw [Errand.meets_plan_of_some hsearch]
        refine ⟨trivial, fun raw => ⟨?_, ?_⟩⟩
        . intro e he
          cases Target.found_failsOnly query raw e he with
          | inl htarget =>
            rw [FailsInTime, FailsOnly.error]
            refine ⟨fun hrefusal => ?_, fun _ => rfl⟩
            cases e <;> simp [Fault.IsTarget, Fault.IsRefusal] at htarget hrefusal
          | inr hremote =>
            apply FailsInTime.of_remote
            rwa [FailsOnly.error]
        . intro found hfound
          rw [Plan.meets_send]
          constructor
          -- This is the one refusal that comes late: it needs the event that was found.
          . intro e he
            obtain ⟨hrefusal, -, hbound⟩ := question_eq_error herrand he
            rw [FailsInTime, FailsOnly.error]
            refine ⟨fun _ => .inr ⟨rfl, ?_, hbound⟩, fun _ => rfl⟩
            rw [← hseeks, hsearch]
            rfl
          . intro question hquestion
            exact ⟨trivial, fun raw => .of_remote (hresult hquestion raw)⟩

end Command

namespace Backend

variable {σ : Type} {b : Backend σ} {c : Command} {prefs : Preferences} {now : Int} {text : String}
  {s s' : σ} {outcome : Outcome} {trace : List Touch} {e : Fault}

def Untouched {α : Type} (run : Run σ α) (s : σ) : Prop :=
  run.trace = [] ∧ run.state = s

theorem Follows.eq_of_nil (h : b.Follows s [] s') : s' = s := by
  cases h
  rfl

theorem Ends.exists_answered {ask : List Exchange → String → Fields → Prop}
    {fin : List Exchange → Except Fault Value → Prop} (h : Ends ask fin [] trace (.error e))
    (hremote : ∀ {operation args e}, .call operation args (.error e) ∈ trace → e.IsRemote)
    (hown : ¬ e.IsRemote) : ∃ done, Answered trace done ∧ fin done (.error e) := by
  cases h with
  | finished hanswered hfin => exact ⟨_, hanswered, hfin⟩
  | refused => exact absurd (.inl trivial) hown
  | failed => exact absurd (hremote (last_mem _)) hown

theorem exists_of_stage {result : Except Crash Outcome} {stage : Stage}
    (h : result.toOption.bind Outcome.stage? = some stage)
    : ∃ outcome, result = .ok outcome ∧ outcome.stage? = some stage := by
  cases result with
  | error cause => cases h
  | ok outcome => exact ⟨outcome, rfl, h⟩

section

variable [Host]

theorem dispatch_fails_in_time (hb : b.FailsWith Fault.IsRemote)
    (hnow : Instant.isSupported now = true) {stage : Stage}
    (h : (b.dispatch prefs now c s).result = .ok outcome) (hstage : outcome.stage? = some stage)
    : (stage = .validate
        ∧ (Untouched (b.dispatch prefs now c s) s
          ∨ calls (b.dispatch prefs now c s).trace = ["search-events"]
            ∧ c.seeks = true ∧ c.changesOneBound = true))
      ∨ (stage = .resolve ∧ calls (b.dispatch prefs now c s).trace = ["search-events"])
      ∨ stage = .service := by
  have hends := ends_run (b := b) (s := s) (Command.meets_stages hnow prefs c)
  have hfollows := follows_run b (c.plan prefs now) s
  unfold dispatch Untouched at *
  dsimp only at h ⊢
  cases hresult : (b.run (c.plan prefs now) s).result with
  | ok data =>
    rw [hresult] at h
    cases h
    cases hstage
  | error e =>
    rw [hresult] at h hends
    rw [Outcome.ofResult] at h
    split at h
    . cases h
    . next reported reason hreport =>
      cases h
      cases hstage
      obtain ⟨rfl, hsort⟩ | ⟨rfl, hsort⟩ | ⟨rfl, hsort⟩ := Fault.of_report hreport
      . obtain ⟨done, hanswered, hfin⟩ :=
          hends.exists_answered hb.of_mem_run fun h => h.not_own.1 hsort
        refine .inl ⟨rfl, ((hfin e rfl).1 hsort).imp ?_ ?_⟩
        . rintro rfl
          rw [hanswered.eq_nil] at hfollows
          exact ⟨hanswered.eq_nil, hfollows.eq_of_nil⟩
        . rintro ⟨hcalls, hseeks, hbound⟩
          rw [hanswered.calls_eq]
          exact ⟨hcalls, hseeks, hbound⟩
      . obtain ⟨done, hanswered, hfin⟩ :=
          hends.exists_answered hb.of_mem_run fun h => h.not_own.2 hsort
        rw [hanswered.calls_eq]
        exact .inr (.inl ⟨rfl, (hfin e rfl).2 hsort⟩)
      . exact .inr (.inr rfl)

theorem stage_of_read {refusal : Refusal} (h : Command.read text = .ok (.error refusal))
    : refusal.stage = .extract ∨ refusal.stage = .parse ∨ refusal.stage = .validate := by
  unfold Command.read at h
  split at h
  . cases h
    exact .inl rfl
  . split at h
    . cases h
      exact .inr (.inl rfl)
    . next payload _ =>
      unfold Command.ofValue at h
      dsimp only at h
      split at h
      . split at h
        . cases h
          exact .inr (.inr rfl)
        . split at h
          . split at h
            . cases h
              exact .inr (.inr rfl)
            . cases h
          . cases h
      . cases h
        exact .inr (.inr rfl)

theorem calls_of_fails_in_time (hb : b.FailsWith Fault.IsRemote)
    (hnow : Instant.isSupported now = true)
    (h : (b.dispatch prefs now c s).result = .ok outcome)
    (hstage : outcome.stage? ∈ [some .extract, some .parse, some .validate, some .resolve])
    : calls (b.dispatch prefs now c s).trace = []
      ∨ calls (b.dispatch prefs now c s).trace = ["search-events"] := by
  cases hreported : outcome.stage? with
  | none => simp [hreported] at hstage
  | some stage =>
    have hfails := dispatch_fails_in_time hb hnow h hreported
    obtain ⟨-, huntouched | hsearch⟩ | ⟨-, hsearch⟩ | hservice := hfails
    . rw [huntouched.1]
      exact .inl rfl
    . exact .inr hsearch.1
    . exact .inr hsearch
    . simp [hreported, hservice] at hstage

/--
A failure that no service is to blame for comes before anything is done with the service; only where
an event has to be searched first it comes after the search. In no case is anything changed.
-/
theorem handle_fails_in_time (hb : b.FailsWith Fault.IsRemote)
    (hnow : Instant.isSupported now = true)
    (h : (b.handle prefs now text s).result = .ok outcome)
    : (outcome.stage? = some .extract ∨ outcome.stage? = some .parse
        → Untouched (b.handle prefs now text s) s)
      ∧ (outcome.stage? = some .validate
        → Untouched (b.handle prefs now text s) s
          ∨ calls (b.handle prefs now text s).trace = ["search-events"]
            ∧ ∃ c, Command.read text = .ok (.ok c) ∧ c.seeks = true ∧ c.changesOneBound = true)
      ∧ (outcome.stage? = some .resolve
        → calls (b.handle prefs now text s).trace = ["search-events"])
      ∧ (outcome.stage? ∈ [some .extract, some .parse, some .validate, some .resolve]
        → ∀ operation ∈ calls (b.handle prefs now text s).trace, isMutating operation = false) := by
  unfold handle at *
  cases hread : Command.read text with
  | error cause =>
    rw [hread] at h
    cases h
  | ok found =>
    rw [hread] at h
    cases found with
    | error refusal =>
      cases h
      have hstage := stage_of_read hread
      refine ⟨fun _ => ⟨rfl, rfl⟩, fun _ => .inl ⟨rfl, rfl⟩, ?_, fun _ operation hmem => nomatch hmem⟩
      simp only [Outcome.ofRefusal, Outcome.stage?, Option.some.injEq]
      intro hresolve
      simp [hresolve] at hstage
    | ok c =>
      have hfails {stage : Stage} (hstage : outcome.stage? = some stage) :=
        dispatch_fails_in_time hb hnow h hstage
      dsimp only at h ⊢
      refine ⟨?_, ?_, ?_, ?_⟩
      . rintro (hstage | hstage)
        . simpa using hfails hstage
        . simpa using hfails hstage
      . intro hstage
        simpa using hfails hstage
      . intro hstage
        simpa using hfails hstage
      . intro hstage operation hmem
        cases calls_of_fails_in_time hb hnow h hstage with
        | inl hnone =>
          rw [hnone] at hmem
          cases hmem
        | inr hsearch =>
          rw [hsearch, List.mem_singleton] at hmem
          rw [hmem]
          rfl

end

section

open scoped Rehearsal

theorem handle_fails_in_time_after_search
    : ∃ outcome,
        (Rehearsal.rehearse "2025-08-20T10:00:00Z" Rehearsal.postponement).result = .ok outcome
        ∧ outcome.stage? = some .validate
        ∧ ∀ operation
            ∈ calls (Rehearsal.rehearse "2025-08-20T10:00:00Z" Rehearsal.postponement).trace,
            isMutating operation = false := by
  have hstage
      : (Rehearsal.rehearse "2025-08-20T10:00:00Z" Rehearsal.postponement).result.toOption.bind
          Outcome.stage? = some .validate := by
    decide +kernel
  obtain ⟨outcome, hresult, hstage⟩ := exists_of_stage hstage
  have hremotely {answer : Value} : (Rehearsal.monotone answer).FailsWith Fault.IsRemote :=
    fun _ _ _ => FailsOnly.ok answer
  refine ⟨outcome, hresult, hstage, ?_⟩
  apply (handle_fails_in_time hremotely (by decide) hresult).2.2.2
  simp [hstage]

end

end Backend

end Datebook
