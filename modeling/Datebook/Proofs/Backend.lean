import Datebook.Backend
import Datebook.Proofs.Fault
import Datebook.Proofs.Plan

/-!
This module contains the verification of the carrying out of plans: which traces there are, and how
what holds of a plan comes to hold of its runs.
-/

namespace Datebook

namespace Touch

def operation? : Touch → Option String
  | connect _ => none
  | call operation .. => some operation

def exchange? : Touch → Option Exchange
  | call operation args (.ok answer) => some ⟨operation, args, answer⟩
  | _ => none

end Touch

def calls (trace : List Touch) : List String :=
  trace.filterMap Touch.operation?

def exchanges (trace : List Touch) : List Exchange :=
  trace.filterMap Touch.exchange?

@[simp]
theorem calls_append (trace trace' : List Touch)
    : calls (trace ++ trace') = calls trace ++ calls trace' :=
  List.filterMap_append

@[simp]
theorem exchanges_append (trace trace' : List Touch)
    : exchanges (trace ++ trace') = exchanges trace ++ exchanges trace' :=
  List.filterMap_append

theorem exists_call_of_mem_calls {trace : List Touch} {operation : String}
    (h : operation ∈ calls trace) : ∃ args answer, .call operation args answer ∈ trace := by
  unfold calls at h
  rw [List.mem_filterMap] at h
  obtain ⟨touch, hmem, hoperation⟩ := h
  cases touch with
  | connect live => cases hoperation
  | call operation' args answer =>
    injection hoperation with hoperation
    exact ⟨args, answer, hoperation ▸ hmem⟩

/--
The traces of having a connection: there was one, or an attempt to connect has brought it about.
-/
def preludes : List (List Touch) :=
  [[], [.connect true]]

/--
Whether a trace consists of answered calls, which are given, and of the connecting before them.
-/
inductive Answered : List Touch → List Exchange → Prop where
  | nil : Answered [] []
  | cons {prelude rest operation args answer done} : prelude ∈ preludes → Answered rest done
      → Answered (prelude ++ .call operation args (.ok answer) :: rest)
          (⟨operation, args, answer⟩ :: done)

section

variable {prelude trace : List Touch} {done : List Exchange}

theorem eq_of_mem_preludes (h : prelude ∈ preludes) : prelude = [] ∨ prelude = [.connect true] := by
  simpa [preludes] using h

theorem of_mem_preludes (h : prelude ∈ preludes) : calls prelude = [] ∧ exchanges prelude = [] := by
  cases eq_of_mem_preludes h with
  | inl h => exact h ▸ ⟨rfl, rfl⟩
  | inr h => exact h ▸ ⟨rfl, rfl⟩

theorem Answered.calls_eq (h : Answered trace done)
    : calls trace = done.map Exchange.operation := by
  induction h with
  | nil => rfl
  | cons hprelude _ ih =>
    rw [calls_append, (of_mem_preludes hprelude).1, List.map_cons, ← ih]
    rfl

theorem Answered.exchanges_eq (h : Answered trace done) : exchanges trace = done := by
  induction h with
  | nil => rfl
  | cons hprelude _ ih =>
    rw [exchanges_append, (of_mem_preludes hprelude).2, ← ih]
    rfl

theorem Answered.eq_nil (h : Answered trace []) : trace = [] := by
  cases h
  rfl

end

namespace Backend

variable {σ α : Type}

/--
What can be done with a backend from one state to another: a call while there is a connection, and an
attempt to connect while there is none, after which a call follows at once or nothing more.
-/
inductive Follows (b : Backend σ) : σ → List Touch → σ → Prop where
  | nil {s} : Follows b s [] s
  | refused {s s'} : b.isConnected s = false → b.connect s = (false, s')
      → Follows b s [.connect false] s'
  | call {s s' s'' operation args answer rest} : b.isConnected s = true
      → b.call s operation args = (answer, s') → Follows b s' rest s''
      → Follows b s (.call operation args answer :: rest) s''
  | fresh {s live s' s'' operation args answer rest} : b.isConnected s = false
      → b.connect s = (true, live) → b.call live operation args = (answer, s')
      → Follows b s' rest s''
      → Follows b s (.connect true :: .call operation args answer :: rest) s''

/--
How carrying out a plan may end: as the plan does, with all its calls answered; without a connection
for the next question; or with the fault of the last call.
-/
inductive Ends (ask : List Exchange → String → Fields → Prop)
    (fin : List Exchange → Except Fault α → Prop) (past : List Exchange)
    : List Touch → Except Fault α → Prop where
  | finished {trace done result} : Answered trace done → fin (past ++ done) result
      → Ends ask fin past trace result
  | refused {trace done} : Answered trace done → (∃ operation args, ask (past ++ done) operation args)
      → Ends ask fin past (trace ++ [.connect false]) (.error (.backend .unavailable))
  | failed {trace done prelude operation args e} : Answered trace done
      → prelude ∈ preludes → ask (past ++ done) operation args
      → Ends ask fin past (trace ++ (prelude ++ [.call operation args (.error e)])) (.error e)

theorem last_mem {trace prelude : List Touch} (touch : Touch)
    : touch ∈ trace ++ (prelude ++ [touch]) := by
  simp

variable {b : Backend σ} {p : Plan α} {s s' : σ} {past : List Exchange}
  {ask : List Exchange → String → Fields → Prop} {fin : List Exchange → Except Fault α → Prop}
  {operation : String} {args : Fields} {answer : Value} {e : Fault} {trace : List Touch}
  {result : Except Fault α}

theorem invoke_trace (b : Backend σ) (s : σ) (operation : String) (args : Fields)
    : ((b.invoke s operation args).result = .error (.backend .unavailable)
        ∧ (b.invoke s operation args).trace = [.connect false])
      ∨ ∃ prelude ∈ preludes, (b.invoke s operation args).trace
          = prelude ++ [.call operation args (b.invoke s operation args).result] := by
  unfold invoke ensure callOnce preludes
  cases hconnected : b.isConnected s with
  | true => simp
  | false =>
    cases hlive : (b.connect s).1 with
    | true => simp [hlive]
    | false => simp [hlive]

theorem invoke_answered (h : (b.invoke s operation args).result = .ok answer)
    : ∃ prelude ∈ preludes,
        (b.invoke s operation args).trace = prelude ++ [.call operation args (.ok answer)] := by
  cases invoke_trace b s operation args with
  | inl hrefused =>
    rw [hrefused.1] at h
    cases h
  | inr hcalled => rwa [h] at hcalled

theorem follows_invoke (b : Backend σ) (s : σ) (operation : String) (args : Fields)
    : b.Follows s (b.invoke s operation args).trace (b.invoke s operation args).state := by
  unfold invoke ensure callOnce
  cases hconnected : b.isConnected s with
  | true => exact .call hconnected rfl .nil
  | false =>
    cases hlive : (b.connect s).1 with
    | true =>
      simp only [Bool.false_eq_true, ↓reduceIte, hlive]
      exact .fresh hconnected (Prod.ext hlive rfl) rfl .nil
    | false =>
      simp only [Bool.false_eq_true, ↓reduceIte, hlive]
      exact .refused hconnected (Prod.ext hlive rfl)

theorem Follows.invoke {rest : List Touch} (h : (b.invoke s operation args).result = .ok answer)
    (hrest : b.Follows (b.invoke s operation args).state rest s')
    : b.Follows s ((b.invoke s operation args).trace ++ rest) s' := by
  unfold Backend.invoke ensure callOnce at *
  cases hconnected : b.isConnected s with
  | true =>
    simp only [hconnected, ↓reduceIte] at hrest
    exact .call hconnected rfl hrest
  | false =>
    cases hlive : (b.connect s).1 with
    | true =>
      simp only [hconnected, Bool.false_eq_true, ↓reduceIte, hlive] at hrest ⊢
      exact .fresh hconnected (Prod.ext hlive rfl) rfl hrest
    | false =>
      simp only [hconnected, Bool.false_eq_true, ↓reduceIte, hlive] at h
      cases h

theorem run_invoke_error {next : Value → Plan α} (h : (b.invoke s operation args).result = .error e)
    : b.run (.invoke operation args next) s
        = ⟨.error e, (b.invoke s operation args).state, (b.invoke s operation args).trace⟩ := by
  rw [run]
  dsimp only
  rw [h]

theorem run_invoke_ok {next : Value → Plan α} (h : (b.invoke s operation args).result = .ok answer)
    : b.run (.invoke operation args next) s
        = { b.run (next answer) (b.invoke s operation args).state with
            trace := (b.invoke s operation args).trace
              ++ (b.run (next answer) (b.invoke s operation args).state).trace } := by
  rw [run]
  dsimp only
  rw [h]

theorem follows_run (b : Backend σ) (p : Plan α) (s : σ)
    : b.Follows s (b.run p s).trace (b.run p s).state := by
  induction p generalizing s with
  | done result => exact .nil
  | invoke operation args next ih =>
    -- A fault ends the run, whatever the plan would have asked next.
    cases h : (b.invoke s operation args).result with
    | error e =>
      rw [run_invoke_error h]
      apply follows_invoke
    | ok answer =>
      rw [run_invoke_ok h]
      exact .invoke h (ih answer _)

theorem Follows.exists_call {answer : Except Fault Value} (h : b.Follows s trace s')
    (hmem : .call operation args answer ∈ trace)
    : ∃ live, (b.call live operation args).1 = answer := by
  induction h with
  | nil => cases hmem
  | refused =>
    rw [List.mem_singleton] at hmem
    cases hmem
  | call _ hcall _ ih =>
    rw [List.mem_cons] at hmem
    cases hmem with
    | inl heq =>
      injection heq with hoperation hargs hanswer
      subst hoperation hargs hanswer
      exact ⟨_, congrArg Prod.fst hcall⟩
    | inr hmem => exact ih hmem
  | fresh _ _ hcall _ ih =>
    simp only [List.mem_cons, reduceCtorEq, false_or] at hmem
    cases hmem with
    | inl heq =>
      injection heq with hoperation hargs hanswer
      subst hoperation hargs hanswer
      exact ⟨_, congrArg Prod.fst hcall⟩
    | inr hmem => exact ih hmem

theorem Ends.cons {prelude : List Touch} (hprelude : prelude ∈ preludes)
    (h : Ends ask fin (past ++ [⟨operation, args, answer⟩]) trace result)
    : Ends ask fin past (prelude ++ .call operation args (.ok answer) :: trace) result := by
  cases h with
  | finished hanswered hfin =>
    refine .finished (hanswered.cons hprelude) ?_
    simpa using hfin
  | refused hanswered hask =>
    rw [← List.cons_append, ← List.append_assoc]
    refine .refused (hanswered.cons hprelude) ?_
    simpa using hask
  | failed hanswered hlast hask =>
    rw [← List.cons_append, ← List.append_assoc]
    refine .failed (hanswered.cons hprelude) hlast ?_
    simpa using hask

def FailsWith (b : Backend σ) (P : Fault → Prop) : Prop :=
  ∀ s operation args, FailsOnly P (b.call s operation args).1

theorem FailsWith.of_mem_run {P : Fault → Prop} (h : b.FailsWith P)
    (hmem : .call operation args (.error e) ∈ (b.run p s).trace) : P e := by
  obtain ⟨live, hcall⟩ := (follows_run b p s).exists_call hmem
  exact h live operation args e hcall

theorem ends_run (h : p.Meets ask fin past)
    : Ends ask fin past (b.run p s).trace (b.run p s).result := by
  induction p generalizing past s with
  | done result =>
    refine .finished .nil ?_
    rwa [List.append_nil]
  | invoke operation args next ih =>
    rw [Plan.meets_invoke] at h
    obtain ⟨hask, hnext⟩ := h
    -- The endings without an answer ask after what was answered here, which is nothing.
    rw [← List.append_nil past] at hask
    cases hresult : (b.invoke s operation args).result with
    | error e =>
      rw [run_invoke_error hresult]
      cases invoke_trace b s operation args with
      | inl hrefused =>
        obtain ⟨heq, htrace⟩ := hrefused
        rw [heq] at hresult
        injection hresult with he
        dsimp only
        rw [htrace, ← he]
        exact .refused .nil ⟨operation, args, hask⟩
      | inr hcalled =>
        obtain ⟨prelude, hprelude, htrace⟩ := hcalled
        dsimp only
        rw [htrace, hresult]
        exact .failed .nil hprelude hask
    | ok answer =>
      rw [run_invoke_ok hresult]
      obtain ⟨prelude, hprelude, htrace⟩ := invoke_answered hresult
      dsimp only
      rw [htrace, List.append_assoc]
      exact (ih answer (hnext answer)).cons hprelude

theorem eq_of_mem_invoke {operation' : String} {args' : Fields} {answer : Except Fault Value}
    (hmem : .call operation args answer ∈ (b.invoke s operation' args').trace)
    : operation = operation' ∧ args = args' ∧ answer = (b.invoke s operation' args').result := by
  cases invoke_trace b s operation' args' with
  | inl hrefused =>
    rw [hrefused.2] at hmem
    simp at hmem
  | inr hcalled =>
    obtain ⟨prelude, hprelude, htrace⟩ := hcalled
    rw [htrace] at hmem
    cases eq_of_mem_preludes hprelude with
    | inl hnil => simpa [hnil] using hmem
    | inr hlive => simpa [hlive] using hmem

theorem exists_past_of_mem {answer : Except Fault Value} (h : p.Meets ask fin past)
    (hmem : .call operation args answer ∈ (b.run p s).trace)
    : ∃ done, ask (past ++ done) operation args
        ∧ ∀ x ∈ done, .call x.operation x.args (.ok x.answer) ∈ (b.run p s).trace := by
  induction p generalizing past s with
  | done result => cases hmem
  | invoke operation' args' next ih =>
    rw [Plan.meets_invoke] at h
    obtain ⟨hask, hnext⟩ := h
    have hfirst (hmem : .call operation args answer ∈ (b.invoke s operation' args').trace)
        : ask (past ++ []) operation args := by
      obtain ⟨rfl, rfl, -⟩ := eq_of_mem_invoke hmem
      rwa [List.append_nil]
    cases hresult : (b.invoke s operation' args').result with
    | error e =>
      rw [run_invoke_error hresult] at hmem
      exact ⟨[], hfirst hmem, nofun⟩
    | ok reply =>
      rw [run_invoke_ok hresult, List.mem_append] at hmem
      rw [run_invoke_ok hresult]
      cases hmem with
      | inl hmem => exact ⟨[], hfirst hmem, nofun⟩
      | inr hmem =>
        obtain ⟨done, hdone, hanswered⟩ := ih reply (hnext reply) hmem
        obtain ⟨prelude, -, htrace⟩ := invoke_answered hresult
        refine ⟨⟨operation', args', reply⟩ :: done, by simpa using hdone, ?_⟩
        rw [List.forall_mem_cons]
        refine ⟨?_, fun x hx => List.mem_append_right _ (hanswered x hx)⟩
        rw [htrace]
        simp

theorem ask_of_mem {ask : String → Fields → Prop} {answer : Except Fault Value}
    (h : p.Meets (fun _ => ask) fin past) (hmem : .call operation args answer ∈ (b.run p s).trace)
    : ask operation args := by
  obtain ⟨-, hask, -⟩ := exists_past_of_mem h hmem
  exact hask

theorem eq_ok_of_success {c : Command} {result : Except Fault Value} {kind : Option Kind}
    {data : Value} {message : String}
    (h : Outcome.ofResult c result = .ok (.success kind data message)) : result = .ok data := by
  unfold Outcome.ofResult at h
  split at h
  . cases h
    rfl
  . split at h
    . cases h
    . cases h

end Backend

end Datebook
