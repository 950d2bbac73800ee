import Datebook.Proofs.Backend
import Datebook.Proofs.Errand

/-!
This module contains the verification of where the data of a command that was carried out comes from:
from the answer to its question, and from the event that was found for it.
-/

namespace Datebook

def Outcome.data? : Outcome → Option Value
  | success _ data _ => some data
  | failure .. => none

theorem exists_success_of_data {result : Except Crash Outcome} {data : Value}
    (h : result.toOption.bind Outcome.data? = some data)
    : ∃ kind message, result = .ok (.success kind data message) := by
  cases result with
  | error cause => cases h
  | ok outcome =>
    cases outcome with
    | success kind data message =>
      cases h
      exact ⟨kind, message, rfl⟩
    | failure stage reason kind message => cases h

/--
The data is what the errand makes of an answer among those so far. `target` is the event that was
found, where one was searched.
-/
def Errand.Yields [Host] (errand : Errand) (operation : String) (past : List Exchange) (data : Value) : Prop :=
  ∃ target question raw, (∀ e ∈ target, ∃ query answer, Target.found query answer = .ok e)
    ∧ errand.question target = .ok question ∧ ⟨operation, question.args, raw⟩ ∈ past
    ∧ question.result raw = .ok data

theorem Backend.Ends.of_ok {data : Value} {past : List Exchange}
    {ask : List Exchange → String → Fields → Prop}
    {fin : List Exchange → Except Fault Value → Prop} {trace : List Touch}
    (h : Ends ask fin past trace (.ok data)) : fin (past ++ exchanges trace) (.ok data) := by
  cases h with
  | finished hanswered hfin => rwa [hanswered.exchanges_eq]

variable [Host] {errand : Errand} {operation : String} {target : Option Event} {past : List Exchange}

theorem Errand.meets_send_yields
    (htarget : ∀ e ∈ target, ∃ query answer, Target.found query answer = .ok e)
    : (Plan.send operation (errand.question target)).Meets (fun _ _ _ => True)
        (fun past result => ∀ data, result = .ok data → errand.Yields operation past data) past := by
  rw [Plan.meets_send]
  constructor
  . intro e _ data hdata
    cases hdata
  . intro question hquestion
    refine ⟨trivial, ?_⟩
    intro raw data hdata
    exact ⟨target, question, raw, htarget, hquestion, by simp, hdata⟩

theorem Errand.meets_yields
    : (errand.plan operation).Meets (fun _ _ _ => True)
        (fun past result => ∀ data, result = .ok data → errand.Yields operation past data) past := by
  cases hsearch : errand.search with
  | none =>
    rw [meets_plan_of_none hsearch]
    exact meets_send_yields nofun
  | some search =>
    obtain ⟨query, args⟩ := search
    rw [meets_plan_of_some hsearch]
    refine ⟨trivial, ?_⟩
    intro raw
    constructor
    . intro e _ data hdata
      cases hdata
    . intro e hfound
      apply meets_send_yields
      intro e' he'
      rw [Option.mem_some_iff] at he'
      exact ⟨query, raw, he' ▸ hfound⟩

namespace Backend

variable {σ : Type} {b : Backend σ} {prefs : Preferences} {now : Instant} {c : Command} {s : σ}
  {kind : Option Kind} {data : Value} {message : String}

theorem exists_errand (h : (b.run (c.plan prefs now) s).result = .ok data)
    : ∃ errand, c.kind.errand prefs now c.params = .ok errand
        ∧ c.plan prefs now = errand.plan c.kind.operation := by
  unfold Command.plan at h ⊢
  split at h
  . cases h
  . next hplain =>
    rw [Kind.plan_eq] at h ⊢
    cases herrand : c.kind.errand prefs now c.params with
    | error e =>
      rw [herrand] at h
      cases h
    | ok errand =>
      rw [if_neg hplain]
      exact ⟨errand, rfl, rfl⟩

theorem dispatch_yields
    (h : (b.dispatch prefs now c s).result = .ok (.success kind data message))
    : ∃ errand, c.kind.errand prefs now c.params = .ok errand
        ∧ errand.Yields c.kind.operation (exchanges (b.dispatch prefs now c s).trace) data := by
  unfold dispatch at h ⊢
  have hdata := eq_ok_of_success h
  obtain ⟨errand, herrand, hplan⟩ := exists_errand hdata
  rw [hplan] at hdata ⊢
  refine ⟨errand, herrand, ?_⟩
  have hends : Ends _ _ [] (b.run (errand.plan c.kind.operation) s).trace _ :=
    ends_run Errand.meets_yields
  rw [hdata] at hends
  exact hends.of_ok data rfl

end Backend

end Datebook
