import Datebook.Proofs.Sighting
import Datebook.Proofs.Stages
import Datebook.Rehearsal.Host

/-!
This module contains the verification that to name an event by a text comes to the same as to name
it by the identifier of the first event that the search for the text brings to light.
-/

namespace Datebook

namespace Fields

variable {fields : Fields} {name other : String} {v : Value}

end Fields

namespace Command

def named (c : Command) (id : String) : Command :=
  { c with params := setNamed c.params "eventId" (.text id) }

section

variable {params : Fields} {id : String}

variable [Host] {prefs : Preferences}

end

section

variable [Host] {c : Command} {prefs : Preferences} {now : Instant} {id : String} {errand : Errand}
  {mark : Sighting} {e : Event}

theorem times_of_changes {params : Fields} {changes : Changes}
    (h : Changes.ofParams prefs params = .ok changes)
    : Operation.optionalTime params "start" "startTime" = .ok changes.start
      ∧ Operation.optionalTime params "end" "endTime" = .ok changes.finish := by
  unfold Changes.ofParams at h
  simp only [Except.bind_eq_ok] at h
  obtain ⟨_, -, _, -, _, -, start, hstart, finish, hfinish, _, -, _, -, _, -, _, -, _, -, h⟩ := h
  split at h
  . cases h
  . rw [Except.bind_eq_ok] at h
    obtain ⟨_, -, h⟩ := h
    cases h
    exact ⟨hstart, hfinish⟩

end

end Command

def Errand.proceed [Host] (errand : Errand) (operation query : String) (raw : Value) : Plan Value :=
  match Target.found query raw with
  | .error e => .done (.error e)
  | .ok e => .send operation (errand.question (some e))

theorem Errand.plan_of_some [Host] {errand : Errand} {operation query : String} {args : Fields}
    (h : errand.search = some (query, args))
    : errand.plan operation = .invoke "search-events" args (errand.proceed operation query) := by
  unfold plan
  rw [h]
  rfl

theorem Errand.meets_proceed [Host] (errand : Errand) (operation query : String) (raw : Value)
    : (errand.proceed operation query raw).Meets (fun _ called _ => called = operation)
        (fun _ _ => True) [] := by
  unfold proceed
  cases Target.found query raw with
  | error e => trivial
  | ok e =>
    dsimp only
    rw [Plan.meets_send]
    exact ⟨fun _ _ => trivial, fun _ _ => ⟨rfl, fun _ => trivial⟩⟩

def Touch.request? : Touch → Option (String × Fields)
  | connect _ => none
  | call operation args _ => some (operation, args)

def requests (trace : List Touch) : List (String × Fields) :=
  trace.filterMap Touch.request?

namespace Backend

variable {σ : Type} {b : Backend σ} {c : Command} {prefs : Preferences} {now : Instant} {s : σ}
  {operation : String} {args : Fields} {raw : Value}

theorem run_send (b : Backend σ) (s : σ) (operation : String) (question : Question)
    : b.run (.send operation (.ok question)) s
        = { result := (b.invoke s operation question.args).result >>= question.result
            state := (b.invoke s operation question.args).state
            trace := (b.invoke s operation question.args).trace } := by
  unfold Plan.send
  dsimp only
  cases h : (b.invoke s operation question.args).result with
  | error e => rw [run_invoke_error h]; rfl
  | ok answer => simp [run_invoke_ok h, run, bind, Except.bind]

theorem isMutating_of_hasTarget {kind : Kind} (h : kind.hasTarget = true)
    : isMutating kind.operation = true := by
  unfold Kind.hasTarget at h
  cases kind <;> simp [Kind.operation, isMutating] at h ⊢

section

variable [Host]

theorem exists_run_after_search (hseeks : c.seeks = true)
    (hmem : .call "search-events" args (.ok raw) ∈ (b.run (c.plan prefs now) s).trace)
    : ∃ errand query prelude live,
        ¬ (prefs.detailed = true ∧ (Value.map c.params).isTooDeep = true)
        ∧ c.kind.errand prefs now c.params = .ok errand ∧ prelude ∈ preludes
        ∧ b.run (c.plan prefs now) s
          = { b.run (errand.proceed c.kind.operation query raw) live with
              trace := prelude ++ .call "search-events" args (.ok raw)
                :: (b.run (errand.proceed c.kind.operation query raw) live).trace } := by
  have hown : c.kind.operation ≠ "search-events" := by
    intro hoperation
    have hmutating := isMutating_of_hasTarget (Command.hasTarget_of_seeks hseeks)
    rw [hoperation] at hmutating
    cases hmutating
  unfold Command.plan at hmem ⊢
  split at hmem
  . cases hmem
  . next hplain =>
    rw [if_neg hplain]
    rw [Kind.plan_eq] at hmem ⊢
    cases herrand : c.kind.errand prefs now c.params with
    | error e =>
      rw [herrand] at hmem
      cases hmem
    | ok errand =>
      have hsearches := Command.search_isSome herrand
      rw [hseeks] at hsearches
      obtain ⟨⟨query, args'⟩, hsearch⟩ := Option.isSome_iff_exists.mp hsearches
      rw [herrand, Plan.ofErrand, Errand.plan_of_some hsearch] at hmem
      rw [Plan.ofErrand, Errand.plan_of_some hsearch]
      cases hanswer : (b.invoke s "search-events" args').result with
      | error e =>
        rw [run_invoke_error hanswer] at hmem
        obtain ⟨-, -, hraw⟩ := eq_of_mem_invoke hmem
        rw [hanswer] at hraw
        cases hraw
      | ok raw' =>
        obtain ⟨prelude, hprelude, htrace⟩ := invoke_answered hanswer
        rw [run_invoke_ok hanswer, List.mem_append] at hmem
        cases hmem with
        | inl hmem =>
          obtain ⟨-, rfl, hraw⟩ := eq_of_mem_invoke hmem
          rw [hanswer] at hraw
          cases hraw
          rw [run_invoke_ok hanswer, htrace, List.append_assoc]
          exact ⟨errand, query, prelude, _, by simpa using hplain, rfl, hprelude, rfl⟩
        | inr hmem =>
          -- What comes after the search is another operation.
          exact absurd (ask_of_mem (errand.meets_proceed c.kind.operation query raw') hmem).symm hown

variable {reply : Reply} {outcome : Outcome}

end

section

open scoped Rehearsal

end

end Backend

end Datebook
