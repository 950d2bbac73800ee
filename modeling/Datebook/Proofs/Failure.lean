import Datebook.Proofs.Halt
import Datebook.Proofs.Reply
import Datebook.Rehearsal.Host
import Datebook.Rehearsal.Service

/-!
This module contains the verification of what is reported where the service fails: the work on a
command stops there, and no failure of the service passes for a success.
-/

namespace Datebook

namespace Reply

variable {fields : Fields}

theorem reportsFailure_iff
    : reportsFailure fields = true
        ↔ Fields.get fields "success" = .bool false
          ∨ (Fields.get fields "error").isTruthy = true := by
  unfold reportsFailure
  split
  . next hsuccess => simp [hsuccess]
  . next hsuccess =>
    rw [or_iff_right]
    intro hfalse
    exact hsuccess hfalse

theorem ofValue_of_reportsFailure [Host] (h : reportsFailure fields = true)
    : ofValue (.map fields) = .error (rejection (failureDetail fields)) := by
  unfold ofValue
  dsimp only
  rw [if_pos h]

end Reply

namespace Touch

/--
Whether the service fails at what is done with it: there is no connection, a call fails, or the
answer is a map with a `success` that is `false` or with an `error`.
-/
def Fails : Touch → Prop
  | connect live => live = false
  | call _ _ (.error e) => e.IsBackend
  | call _ _ (.ok (.map fields)) =>
    Fields.get fields "success" = .bool false ∨ (Fields.get fields "error").isTruthy = true
  | call _ _ (.ok _) => False

def flaw? [Host] : Touch → Option ShowFlaw
  | call _ _ (.ok (.map fields)) => (Reply.failureDetail fields).flaw?
  | _ => none

end Touch

theorem Command.eq_nil_of_search_prefix {c : Command} {past : List String}
    (h : past ++ ["search-events"] <+: c.agenda) : past = [] := by
  cases past with
  | nil => rfl
  | cons first rest =>
    have hnodup := c.nodup_agenda.sublist h.sublist
    have hlength := h.length_le
    unfold agenda at h hlength
    rw [Catalog.operationsOf_standard] at h hlength
    split at h
    . rw [List.cons_append, List.singleton_append, List.cons_prefix_cons] at h
      rw [h.1, List.cons_append] at hnodup
      simp at hnodup
    . next hseeks =>
      rw [if_neg hseeks] at hlength
      simp at hlength

section

variable [Host]

def Exchange.IsRejected (x : Exchange) : Prop :=
  ∃ e, Reply.ofValue x.answer = .error e

variable {prefs : Preferences} {now : Instant} {c : Command}

theorem Target.found_of_rejected {raw : Value} {e : Fault} (query : String)
    (h : Reply.ofValue raw = .error e) : found query raw = .error e := by
  unfold found pick
  rw [h]
  rfl

theorem Command.meets_rejection (prefs : Preferences) (now : Instant) (c : Command)
    : (c.plan prefs now).Meets (fun past _ _ => ∀ x ∈ past, ¬ x.IsRejected)
        (Final Exchange.IsRejected
          fun x result => ∀ e, Reply.ofValue x.answer = .error e → result = .error e) [] := by
  apply meets_final
  . rintro query args raw ⟨e, he⟩
    refine ⟨e, Target.found_of_rejected query he, ?_⟩
    intro e' he'
    rw [he, Except.error.injEq] at he'
    rw [he']
  . intro errand target question raw herrand hquestion _ e he
    obtain ⟨next, hnext, -⟩ := Kind.exists_result herrand hquestion
    dsimp only at he
    rw [hnext, he]
    rfl

namespace Backend

variable {σ : Type} {b : Backend σ} {s : σ} {before after : List Touch} {touch : Touch}

theorem exists_fault_of_fails (h : touch.Fails)
    : ∃ e, (touch.fault? = some e
            ∨ ∃ x, touch.exchange? = some x ∧ Reply.ofValue x.answer = .error e)
        ∧ (∀ flaw ∈ touch.flaw?, e = .crash (.unshown flaw))
        ∧ (touch.flaw? = none → e.IsBackend) := by
  cases touch with
  | connect live =>
    cases live with
    | true => cases h
    | false => exact ⟨_, .inl rfl, nofun, fun _ => trivial⟩
  | call operation args answer =>
    cases answer with
    | error e => exact ⟨e, .inl rfl, nofun, fun _ => h⟩
    | ok raw =>
      cases raw with
      | map fields =>
        have hrejected := Reply.ofValue_of_reportsFailure (Reply.reportsFailure_iff.mpr h)
        refine ⟨_, .inr ⟨_, rfl, hrejected⟩, ?_, ?_⟩
        . intro flaw hflaw
          rw [Touch.flaw?, Option.mem_def] at hflaw
          rw [Reply.rejection, hflaw]
        . intro hnone
          rw [Touch.flaw?] at hnone
          rw [Reply.rejection, hnone]
          trivial
      | _ => cases h

/--
Where the service fails the work on a command stops. What is reported is a failure of the service
with the command's kind and message, unless what the service tells about it cannot be shown: that
breaks the work off. After a search that failed nothing is changed.
-/
theorem dispatch_reports_failure
    (htrace : (b.dispatch prefs now c s).trace = before ++ touch :: after) (hfails : touch.Fails)
    : after = []
      ∧ (∀ flaw ∈ touch.flaw?, (b.dispatch prefs now c s).result = .error (.unshown flaw))
      ∧ (touch.flaw? = none → ∃ reason, (b.dispatch prefs now c s).result
          = .ok (.failure .service reason (some c.kind) c.message))
      ∧ (touch.operation? = some "search-events"
          → ∀ operation ∈ calls (b.dispatch prefs now c s).trace, isMutating operation = false) := by
  have hkeeps := (ends_run (b := b) (s := s) (Command.meets_agenda prefs now c)).keeps.1
  have hends := ends_run (b := b) (s := s) (Command.meets_rejection prefs now c)
  unfold dispatch at *
  dsimp only at *
  rw [htrace] at hends hkeeps
  obtain ⟨hrejected, hfailed⟩ := hends.halts
  obtain ⟨e, he, hunshown, hplain⟩ := exists_fault_of_fails hfails
  have hlast : after = [] ∧ (b.run (c.plan prefs now) s).result = .error e := by
    cases he with
    | inl hfault => exact hfailed e hfault
    | inr hanswer =>
      obtain ⟨x, hx, hraw⟩ := hanswer
      obtain ⟨hafter, hresult⟩ := hrejected x hx ⟨e, hraw⟩
      exact ⟨hafter, hresult e hraw⟩
  rw [hlast.2]
  refine ⟨hlast.1, ?_, ?_, ?_⟩
  . intro flaw hflaw
    rw [hunshown flaw hflaw]
    rfl
  . intro h
    cases e with
    | backend fault => exact ⟨fault.message, rfl⟩
    | _ => cases hplain h
  . intro hsearch
    -- The search is the last call, and the agenda has a search at its start only.
    have hcalls : calls (before ++ touch :: after) = calls before ++ ["search-events"] := by
      rw [hlast.1, calls_append, calls, calls, List.filterMap_cons_some hsearch]
      rfl
    rw [hcalls] at hkeeps
    rw [htrace, hcalls, Command.eq_nil_of_search_prefix hkeeps]
    simp [isMutating]

end Backend

end

namespace Backend

open scoped Rehearsal

theorem dispatch_reports_refused_search
    : (∃ reason,
        ((Rehearsal.monotone (Rehearsal.refusal (.text "Calendar is read-only"))).dispatch
          Rehearsal.preferences Rehearsal.morning Rehearsal.retitling ()).result
        = .ok (.failure .service reason (some .update) ""))
      ∧ ∀ operation
          ∈ calls ((Rehearsal.monotone (Rehearsal.refusal (.text "Calendar is read-only"))).dispatch
            Rehearsal.preferences Rehearsal.morning Rehearsal.retitling ()).trace,
          isMutating operation = false := by
  have hcalled : "search-events"
      ∈ calls ((Rehearsal.monotone (Rehearsal.refusal (.text "Calendar is read-only"))).dispatch
        Rehearsal.preferences Rehearsal.morning Rehearsal.retitling ()).trace := by
    decide +kernel
  obtain ⟨args, answer, hmem⟩ := exists_call_of_mem_calls hcalled
  obtain ⟨before, after, htrace⟩ := List.append_of_mem hmem
  obtain ⟨_, rfl⟩ := (follows_run _ _ _).exists_call hmem
  have hfails := dispatch_reports_failure htrace (.inl rfl)
  exact ⟨hfails.2.2.1 rfl, hfails.2.2.2 rfl⟩

theorem dispatch_palette (answer : Value)
    : (Rehearsal.monotone answer).dispatch Rehearsal.preferences Rehearsal.morning
          Rehearsal.palette ()
        = { result :=
              Outcome.ofResult Rehearsal.palette (Reply.normalize .listColors answer none none)
            state := ()
            trace := [.call "list-colors" [] (.ok answer)] } := by
  have hplan : Rehearsal.palette.plan Rehearsal.preferences Rehearsal.morning
      = .invoke "list-colors" [] fun raw => .done (Reply.normalize .listColors raw none none) :=
    rfl
  unfold dispatch
  rw [hplan, run_invoke_ok rfl]
  rfl

theorem ofValue_refusal {detail : Value} (htruthy : detail.isTruthy = true)
    : Reply.ofValue (Rehearsal.refusal detail) = .error (Reply.rejection detail) := by
  unfold Rehearsal.refusal
  rw [Reply.ofValue_of_reportsFailure rfl]
  have hdetail : Reply.failureDetail [("success", .bool false), ("message", detail)]
      = detail.orElse (.text "Calendar backend rejected the request") :=
    rfl
  rw [hdetail, Value.orElse, if_pos htruthy]

/--
So there are refusals over which the work on a command breaks off, where a failure of the service
should be reported.
-/
theorem not_forall_dispatch_reports_failure
    : ¬ ∀ (b : Backend Unit) (prefs : Preferences) (now : Instant) (c : Command)
        (before after : List Touch) (touch : Touch),
        (b.dispatch prefs now c ()).trace = before ++ touch :: after → touch.Fails
          → ∃ outcome, (b.dispatch prefs now c ()).result = .ok outcome
            ∧ outcome.stage? = some .service := by
  intro hall
  have hdispatch := dispatch_palette (Rehearsal.refusal (Rehearsal.nested 1000))
  obtain ⟨outcome, houtcome, -⟩ := hall _ _ _ _ [] [] _ (congrArg Run.trace hdispatch) (Or.inl rfl)
  have hdeep : (Rehearsal.nested 1000).flaw? = some .tooDeep := Rehearsal.flaw?_nested (by decide)
  rw [hdispatch, Reply.normalize, ofValue_refusal rfl, Reply.rejection, hdeep] at houtcome
  cases houtcome

end Backend

end Datebook
