import Datebook.Proofs.Agenda

/-!
This module contains the rules by which it is shown that nothing more is done with the service after
something that ends the work: an answer of a given sort, or a failure of the service.
-/

namespace Datebook

def Touch.fault? : Touch → Option Fault
  | connect live => if live then none else some (.backend .unavailable)
  | call _ _ (.error e) => some e
  | call _ _ (.ok _) => none

/--
Whether an exchange with `Q` can only be the last one, and then the result is as `R` tells.
-/
def Final (Q : Exchange → Prop) (R : Exchange → Except Fault Value → Prop) (past : List Exchange)
    (result : Except Fault Value) : Prop :=
  ∀ done x rest, past = done ++ x :: rest → Q x → rest = [] ∧ R x result

section

variable {α : Type} {before after rest : List α} {a x : α}

theorem List.eq_last_of_concat_eq_append_cons (h : rest ++ [a] = before ++ x :: after)
    (hx : x ∉ rest) : after = [] ∧ x = a := by
  cases List.eq_nil_or_concat after with
  | inl hnil =>
    rw [hnil] at h
    exact ⟨hnil, (List.append_singleton_inj.mp h).2.symm⟩
  | inr hconcat =>
    obtain ⟨after', last, rfl⟩ := hconcat
    rw [List.concat_eq_append, ← List.cons_append, ← List.append_assoc] at h
    rw [(List.append_singleton_inj.mp h).1] at hx
    simp at hx

end

section

variable {Q : Exchange → Prop} {R : Exchange → Except Fault Value → Prop} {past done : List Exchange}
  {x : Exchange} {result : Except Fault Value} {trace before after : List Touch} {touch : Touch}

theorem Final.of_forall_not (h : ∀ y ∈ past, ¬ Q y) : Final Q R past result := by
  intro done x rest hpast hx
  refine absurd hx (h x ?_)
  rw [hpast]
  simp

theorem Final.concat (h : ∀ y ∈ past, ¬ Q y) (hx : Q x → R x result)
    : Final Q R (past ++ [x]) result := by
  intro done y rest hpast hy
  have hnew : y ∉ past := fun hmem => h y hmem hy
  obtain ⟨hrest, rfl⟩ := List.eq_last_of_concat_eq_append_cons hpast hnew
  exact ⟨hrest, hx hy⟩

theorem eq_of_mem_prelude {prelude : List Touch} (h : prelude ∈ preludes) (hmem : touch ∈ prelude)
    : touch = .connect true := by
  cases eq_of_mem_preludes h with
  | inl hnil => simp [hnil] at hmem
  | inr hlive => simpa [hlive] using hmem

theorem eq_connect_or_answered (h : Answered trace done) (hmem : touch ∈ trace)
    : touch = .connect true ∨ touch.exchange?.isSome = true := by
  induction h with
  | nil => cases hmem
  | cons hprelude _ ih =>
    rw [List.mem_append, List.mem_cons] at hmem
    obtain hmem | rfl | hmem := hmem
    . exact .inl (eq_of_mem_prelude hprelude hmem)
    . exact .inr rfl
    . exact ih hmem

theorem Answered.fault?_eq_none (h : Answered trace done) (hmem : touch ∈ trace)
    : touch.fault? = none := by
  cases eq_connect_or_answered h hmem with
  | inl hlive =>
    rw [hlive]
    rfl
  | inr hanswered =>
    cases touch with
    | connect live => cases hanswered
    | call operation args answer =>
      cases answer with
      | error e => cases hanswered
      | ok answer => rfl

theorem mem_exchanges (hx : touch.exchange? = some x) (hmem : touch ∈ trace)
    : x ∈ exchanges trace :=
  List.mem_filterMap.mpr ⟨touch, hmem, hx⟩

theorem Answered.exchange?_getLast (h : Answered trace done) (hlast : trace.getLast? = some touch)
    : touch.exchange?.isSome = true := by
  induction h with
  | nil => cases hlast
  | @cons _ rest _ _ _ _ _ _ ih =>
    -- A step ends with its call, which is the last one unless others follow.
    rw [List.getLast?_append, List.getLast?_cons, Option.some_or, Option.some_inj] at hlast
    cases hrest : rest.getLast? with
    | none =>
      rw [hrest] at hlast
      rw [← hlast]
      rfl
    | some last =>
      rw [hrest, Option.getD_some] at hlast
      exact ih (hlast ▸ hrest)

theorem Answered.eq_nil_of_exchanges (h : Answered (before ++ after) done)
    (hnone : exchanges after = []) : after = [] := by
  cases hlast : after.getLast? with
  | none => exact List.getLast?_eq_none_iff.mp hlast
  | some last =>
    have hend : (before ++ after).getLast? = some last := by
      rw [List.getLast?_append, hlast, Option.some_or]
    obtain ⟨x, hx⟩ := Option.isSome_iff_exists.mp (h.exchange?_getLast hend)
    have hmem := mem_exchanges hx (List.mem_of_getLast? hlast)
    rw [hnone] at hmem
    cases hmem

variable {ask : List Exchange → String → Fields → Prop}
  {fin : List Exchange → Except Fault Value → Prop}

theorem Backend.Ends.answered_or_failed (h : Ends ask fin [] trace result)
    : (Answered trace (exchanges trace) ∧ fin (exchanges trace) result)
      ∨ ∃ past last e, trace = past ++ [last] ∧ (∀ t ∈ past, t.fault? = none)
          ∧ last.fault? = some e ∧ result = .error e
          ∧ ∃ operation args, ask (exchanges trace) operation args := by
  cases h with
  | finished hanswered hfin =>
    rw [hanswered.exchanges_eq]
    exact .inl ⟨hanswered, hfin⟩
  | refused hanswered hask =>
    refine .inr ⟨_, _, _, rfl, fun t => hanswered.fault?_eq_none, rfl, rfl, ?_⟩
    rw [exchanges_append, hanswered.exchanges_eq]
    show ∃ operation args, ask (_ ++ []) operation args
    rwa [List.append_nil]
  | @failed _ _ prelude operation args e hanswered hprelude hask =>
    refine .inr ⟨_ ++ prelude, _, e, (List.append_assoc ..).symm, ?_, rfl, rfl, operation, args, ?_⟩
    . intro t ht
      rw [List.mem_append] at ht
      cases ht with
      | inl ht => exact hanswered.fault?_eq_none ht
      | inr ht =>
        rw [eq_of_mem_prelude hprelude ht]
        rfl
    . rw [exchanges_append, exchanges_append, hanswered.exchanges_eq, (of_mem_preludes hprelude).2]
      show ask (_ ++ []) operation args
      rwa [List.append_nil]

/--
A run in which questions are asked only after exchanges without `Q`, and which ends as they tell,
has nothing after an answered call with `Q`, nor after a failure of the service.
-/
theorem Backend.Ends.halts
    (h : Ends (fun past _ _ => ∀ x ∈ past, ¬ Q x) (Final Q R) [] (before ++ touch :: after) result)
    : (∀ x, touch.exchange? = some x → Q x → after = [] ∧ R x result)
      ∧ ∀ e, touch.fault? = some e → after = [] ∧ result = .error e := by
  have hmem : touch ∈ before ++ touch :: after := by simp
  cases h.answered_or_failed with
  | inl hanswered =>
    obtain ⟨hanswered, hfinal⟩ := hanswered
    constructor
    . intro x hx hq
      have hsplit : exchanges (before ++ touch :: after)
          = exchanges before ++ x :: exchanges after := by
        rw [exchanges_append, exchanges, exchanges, List.filterMap_cons_some hx]
        rfl
      obtain ⟨hnone, hr⟩ := hfinal _ x _ hsplit hq
      rw [List.append_cons] at hanswered
      exact ⟨hanswered.eq_nil_of_exchanges hnone, hr⟩
    . intro e he
      rw [hanswered.fault?_eq_none hmem] at he
      cases he
  | inr hfailed =>
    obtain ⟨past, last, e, htrace, hpast, hlast, rfl, -, -, hask⟩ := hfailed
    constructor
    . intro x hx hq
      exact absurd hq (hask x (mem_exchanges hx hmem))
    . intro e' he'
      have hnew : touch ∉ past := by
        intro hold
        rw [hpast touch hold] at he'
        cases he'
      obtain ⟨hafter, rfl⟩ := List.eq_last_of_concat_eq_append_cons htrace.symm hnew
      rw [hlast, Option.some_inj] at he'
      exact ⟨hafter, by rw [he']⟩

end

variable [Host] {Q : Exchange → Prop} {R : Exchange → Except Fault Value → Prop}
  {prefs : Preferences} {now : Instant}

theorem Kind.exists_result {kind : Kind} {params : Fields} {errand : Errand} {target : Option Event}
    {question : Question} (h : kind.errand prefs now params = .ok errand)
    (hquestion : errand.question target = .ok question)
    : ∃ next : Reply → Except Fault Value,
        (∀ raw, question.result raw = Reply.ofValue raw >>= next)
        ∧ (isMutating kind.operation = true → ∃ requested targetId,
          next = fun reply => reply.data kind requested targetId) := by
  cases kind with
  | create | list | search | listCalendars | listColors | currentTime =>
    obtain ⟨_, -, rfl⟩ := Errand.eq_direct h
    cases hquestion
    exact ⟨_, fun _ => rfl, fun _ => ⟨_, _, rfl⟩⟩
  | freeBusy | availability =>
    obtain ⟨_, -, rfl⟩ := Errand.eq_direct h
    cases hquestion
    refine ⟨_, fun _ => rfl, ?_⟩
    intro hmutating
    cases hmutating
  | update =>
    obtain ⟨_, _, _, -, -, -, -, heq⟩ := Operation.updateErrand_eq_ok h
    rw [heq, Operation.updateQuestion, Except.bind_eq_ok] at hquestion
    obtain ⟨_, -, hquestion⟩ := hquestion
    cases hquestion
    exact ⟨_, fun _ => rfl, fun _ => ⟨_, _, rfl⟩⟩
  | delete =>
    obtain ⟨_, _, _, -, -, -, -, heq⟩ := Operation.deleteErrand_eq_ok h
    rw [heq] at hquestion
    cases hquestion
    exact ⟨_, fun _ => rfl, fun _ => ⟨_, _, rfl⟩⟩

/--
What ends the work on a command: an exchange with `Q`, if the answer to a search cannot be taken
then, and neither of the answers leads to a result other than `R` tells.
-/
theorem Command.meets_final {c : Command}
    (hsearch : ∀ query args raw, Q ⟨"search-events", args, raw⟩ → ∃ e,
      Target.found query raw = .error e ∧ R ⟨"search-events", args, raw⟩ (.error e))
    (hquestion : ∀ errand target question raw, c.kind.errand prefs now c.params = .ok errand →
      errand.question target = .ok question → Q ⟨c.kind.operation, question.args, raw⟩ →
        R ⟨c.kind.operation, question.args, raw⟩ (question.result raw))
    : (c.plan prefs now).Meets (fun past _ _ => ∀ x ∈ past, ¬ Q x) (Final Q R) [] := by
  unfold plan
  split
  . exact .of_forall_not nofun
  . rw [Kind.plan_eq, Plan.meets_ofErrand]
    refine ⟨fun _ _ => .of_forall_not nofun, ?_⟩
    intro errand herrand
    have hsend {target : Option Event} {past : List Exchange} (hpast : ∀ x ∈ past, ¬ Q x)
        : (Plan.send c.kind.operation (errand.question target)).Meets
            (fun past _ _ => ∀ x ∈ past, ¬ Q x) (Final Q R) past := by
      rw [Plan.meets_send]
      refine ⟨fun _ _ => .of_forall_not hpast, fun question hq => ⟨hpast, fun raw => ?_⟩⟩
      exact .concat hpast (hquestion errand target question raw herrand hq)
    cases hfinds : errand.search with
    | none =>
      rw [Errand.meets_plan_of_none hfinds]
      exact hsend nofun
    | some search =>
      obtain ⟨query, args⟩ := search
      rw [Errand.meets_plan_of_some hfinds]
      refine ⟨nofun, fun raw => ⟨?_, ?_⟩⟩
      . intro e he
        refine .concat nofun fun hq => ?_
        obtain ⟨e', he', hr⟩ := hsearch query args raw hq
        rw [he, Except.error.injEq] at he'
        rwa [he']
      . intro e he
        -- An event was found, so the search was answered without `Q`.
        apply hsend
        intro x hx hq
        rw [List.nil_append, List.mem_singleton] at hx
        rw [hx] at hq
        obtain ⟨e', he', -⟩ := hsearch query args raw hq
        rw [he] at he'
        cases he'

end Datebook
