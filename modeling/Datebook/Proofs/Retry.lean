import Datebook.Proofs.Attempts
import Datebook.Proofs.Halt
import Datebook.Proofs.Reply

/-!
This module contains the verification that no change is made twice: once the service has
acknowledged one, nothing more is done, however often a command may be tried.
-/

namespace Datebook

theorem Command.eq_operation_of_mem_agenda {c : Command} {operation : String}
    (h : operation ∈ c.agenda) (hmutating : isMutating operation = true)
    : operation = c.kind.operation := by
  unfold agenda at h
  rw [Catalog.operationsOf_standard, List.mem_append, List.mem_singleton] at h
  cases h with
  | inl hsearch =>
    split at hsearch
    . rw [List.mem_singleton] at hsearch
      simp [hsearch, isMutating] at hmutating
    . cases hsearch
  | inr hown => exact hown

variable [Host]

def Reply.isRejected (raw : Value) : Bool :=
  match ofValue raw with
  | .error (.backend _) => true
  | _ => false

/--
Whether a change is acknowledged: the service has answered the call, and the answer is not rejected.
An answer that cannot be shown counts as well.
-/
def Touch.isAcknowledged : Touch → Bool
  | call operation _ (.ok raw) => isMutating operation && !Reply.isRejected raw
  | _ => false

def Exchange.IsAcknowledged (x : Exchange) : Prop :=
  isMutating x.operation = true ∧ Reply.isRejected x.answer = false

variable {prefs : Preferences} {now : Instant} {c : Command}

theorem Touch.exists_of_isAcknowledged {touch : Touch} (h : touch.isAcknowledged = true)
    : ∃ x, touch.exchange? = some x ∧ x.IsAcknowledged := by
  cases touch with
  | connect live => cases h
  | call operation args answer =>
    cases answer with
    | error e => cases h
    | ok raw => exact ⟨_, rfl, by simpa [isAcknowledged, Exchange.IsAcknowledged] using h⟩

theorem Reply.normalize_failsOnly_of_not_rejected {kind : Kind} {raw : Value}
    (h : isRejected raw = false) (requested : Option Event) (targetId : Option String)
    : FailsOnly (¬ Fault.IsBackend ·) (normalize kind raw requested targetId) := by
  apply FailsOnly.bind
  . intro e he hbackend
    unfold isRejected at h
    rw [he] at h
    cases e with
    | backend fault => cases h
    | _ => cases hbackend
  . intro reply _
    refine (data_failsOnly kind reply requested targetId).mono fun e hcrash => ?_
    cases e <;> simp [Fault.IsBackend, Fault.IsCrash] at *

theorem Command.meets_acknowledgement (prefs : Preferences) (now : Instant) (c : Command)
    : (c.plan prefs now).Meets (fun past _ _ => ∀ x ∈ past, ¬ x.IsAcknowledged)
        (Final Exchange.IsAcknowledged fun _ => FailsOnly (¬ Fault.IsBackend ·)) [] := by
  apply meets_final
  . rintro query args raw ⟨hmutating, -⟩
    simp [isMutating] at hmutating
  . rintro errand target question raw herrand hquestion ⟨hmutating, hraw⟩
    obtain ⟨next, hnext, hdata⟩ := Kind.exists_result herrand hquestion
    obtain ⟨requested, targetId, rfl⟩ := hdata hmutating
    rw [hnext]
    exact Reply.normalize_failsOnly_of_not_rejected hraw requested targetId

def EndsAcknowledged (trace : List Touch) : Prop :=
  ∀ before touch after, trace = before ++ touch :: after → touch.isAcknowledged = true → after = []

/--
What is known of one attempt: at most one change is called for, which is `operation`; an
acknowledged change comes last; and after it there is no reason to try again.
-/
structure IsSingle {σ : Type} (operation : String) (run : Run σ (Except Crash Outcome)) : Prop where
  once : ((calls run.trace).filter isMutating).length ≤ 1
  alike : ∀ called ∈ calls run.trace, isMutating called = true → called = operation
  last : EndsAcknowledged run.trace
  settled : ∀ outcome, run.result = .ok outcome → outcome.isRetryable = true
    → ∀ touch ∈ run.trace, touch.isAcknowledged = false

namespace Backend

variable {σ : Type} {b : Backend σ} {s : σ} {text : String}

theorem isSingle_dispatch (b : Backend σ) (prefs : Preferences) (now : Instant) (c : Command) (s : σ)
    : IsSingle c.kind.operation (b.dispatch prefs now c s) := by
  have hkeeps := (ends_run (b := b) (s := s) (Command.meets_agenda prefs now c)).keeps.1
  have hends := ends_run (b := b) (s := s) (Command.meets_acknowledgement prefs now c)
  have hhalts {before touch after}
      (htrace : (b.run (c.plan prefs now) s).trace = before ++ touch :: after)
      (htouch : touch.isAcknowledged = true)
      : after = [] ∧ FailsOnly (¬ Fault.IsBackend ·) (b.run (c.plan prefs now) s).result := by
    rw [htrace] at hends
    obtain ⟨x, hx, hacknowledged⟩ := Touch.exists_of_isAcknowledged htouch
    exact hends.halts.1 x hx hacknowledged
  unfold dispatch
  constructor
  . exact Nat.le_trans (hkeeps.sublist.filter isMutating).length_le c.mutating_agenda
  . intro called hcalled
    exact Command.eq_operation_of_mem_agenda (hkeeps.subset hcalled)
  . intro before touch after htrace htouch
    exact (hhalts htrace htouch).1
  . intro outcome houtcome hretryable touch hmem
    rw [← Bool.not_eq_true]
    intro htouch
    obtain ⟨before, after, htrace⟩ := List.append_of_mem hmem
    -- Only a fault of the service is a reason to try again, and here there is none.
    have hfails := (hhalts htrace htouch).2
    dsimp only at houtcome
    cases hresult : (b.run (c.plan prefs now) s).result with
    | ok data =>
      rw [hresult] at houtcome
      cases houtcome
      cases hretryable
    | error e =>
      rw [hresult] at houtcome hfails
      cases e with
      | backend fault => exact hfails _ rfl trivial
      | crash cause => cases houtcome
      | _ =>
        cases houtcome
        cases hretryable

/--
The operation that the command in a text calls; a text without a command calls none.
-/
def operationOf (text : String) : String :=
  match Command.read text with
  | .ok (.ok c) => c.kind.operation
  | _ => ""

theorem isSingle_handle (b : Backend σ) (prefs : Preferences) (now : Instant) (text : String) (s : σ)
    : IsSingle (operationOf text) (b.handle prefs now text s) := by
  have hidle (result : Except Crash Outcome) (operation : String)
      : IsSingle operation (⟨result, s, []⟩ : Run σ _) :=
    { once := Nat.zero_le 1
      alike := by
        intro called hcalled
        cases hcalled
      last := by
        intro before touch after htrace
        simp at htrace
      settled := by
        intro outcome _ _ touch hmem
        cases hmem }
  unfold handle operationOf
  cases Command.read text with
  | error cause => exact hidle _ _
  | ok found =>
    cases found with
    | error refusal => exact hidle _ _
    | ok c => exact isSingle_dispatch b prefs now c s

end Backend

namespace Retry

variable {σ δ : Type} {operation : String}

structure Keeps (operation : String) (left done : Nat) (tried : Tried σ δ) : Prop where
  alike : ∀ called ∈ calls tried.trace, isMutating called = true → called = operation
  last : EndsAcknowledged tried.trace
  counted : ((calls tried.trace).filter isMutating).length + done ≤ tried.attempts
  bounded : tried.attempts ≤ left + done + 1

theorem endsAcknowledged_append {trace trace' : List Touch}
    (h : ∀ touch ∈ trace, touch.isAcknowledged = false) (h' : EndsAcknowledged trace')
    : EndsAcknowledged (trace ++ trace') := by
  intro before touch after htrace htouch
  rw [List.append_eq_append_iff] at htrace
  obtain ⟨middle, hbefore, hrest⟩ | ⟨middle, hbefore, hrest⟩ := htrace
  . exact h' middle touch after hrest htouch
  . cases middle with
    | nil =>
      rw [List.nil_append] at hrest
      exact h' [] touch after hrest.symm htouch
    | cons first rest =>
      rw [List.cons_append, List.cons.injEq] at hrest
      rw [hrest.1] at htouch
      rw [h first (by simp [hbefore])] at htouch
      cases htouch

theorem keeps_once {tried : Run σ (Except Crash Outcome)} (h : IsSingle operation tried)
    (result : Except Crash Outcome) (left done : Nat)
    : Keeps operation left done
        (⟨result, done + 1, tried.state, [.attempt tried.trace]⟩ : Tried σ δ) where
  alike := by
    rw [Tried.trace_single]
    exact h.alike
  last := by
    rw [Tried.trace_single]
    exact h.last
  counted := by
    have honce := h.once
    rw [Tried.trace_single]
    dsimp only
    omega
  bounded := by
    dsimp only
    omega

/--
Trying again keeps what every attempt keeps: another attempt follows only where no change has been
acknowledged.
-/
theorem keeps_run {attempt : σ → Run σ (Except Crash Outcome)} (pause : Nat → Option δ)
    (h : ∀ s, IsSingle operation (attempt s)) (left done : Nat) (s : σ)
    : Keeps operation left done (run attempt pause left done s) := by
  -- The attempts before are counted in `done`, which grows as `left` shrinks.
  induction left generalizing done s with
  | zero =>
    obtain ⟨-, hrun⟩ | ⟨-, -, hrun⟩ | ⟨_, _, hleft, -⟩ := run_cases attempt pause 0 done s
    . rw [hrun]
      exact keeps_once (h s) _ 0 done
    . rw [hrun]
      exact keeps_once (h s) _ 0 done
    . cases hleft
  | succ left ih =>
    obtain ⟨-, hrun⟩ | ⟨-, -, hrun⟩ | ⟨left', length, hleft, ⟨outcome, houtcome, hstage⟩, -, hrun⟩ :=
      run_cases attempt pause (left + 1) done s
    . rw [hrun]
      exact keeps_once (h s) _ (left + 1) done
    . rw [hrun]
      exact keeps_once (h s) _ (left + 1) done
    . cases hleft
      have hretryable : outcome.isRetryable = true := by simpa [Outcome.isRetryable] using hstage
      have hrest := ih (done + 1) (attempt s).state
      have hunacknowledged := (h s).settled outcome houtcome hretryable
      have honce := (h s).once
      have hcounted := hrest.counted
      have hbounded := hrest.bounded
      rw [hrun]
      constructor
      . intro called hcalled
        rw [Tried.trace_further, calls_append, List.mem_append] at hcalled
        cases hcalled with
        | inl hcalled => exact (h s).alike called hcalled
        | inr hcalled => exact hrest.alike called hcalled
      . rw [Tried.trace_further]
        exact endsAcknowledged_append hunacknowledged hrest.last
      . rw [Tried.trace_further, calls_append, List.filter_append, List.length_append]
        dsimp only
        omega
      . dsimp only
        omega

end Retry

theorem EndsAcknowledged.length_filter_le {trace : List Touch} (h : EndsAcknowledged trace)
    : (trace.filter Touch.isAcknowledged).length ≤ 1 := by
  induction trace with
  | nil => exact Nat.zero_le 1
  | cons touch rest ih =>
    cases htouch : touch.isAcknowledged with
    | true =>
      rw [h [] touch rest rfl htouch, List.filter_cons_of_pos htouch]
      exact Nat.le_refl 1
    | false =>
      rw [List.filter_cons_of_neg (by rw [htouch]; decide)]
      apply ih
      intro before last after hrest
      apply h (touch :: before) last after
      rw [hrest, List.cons_append]

/--
However often the service fails, and whatever the clock shows at each attempt, no acknowledged
change is called for again: it is the last thing that is done. There are at most as many changes
called for as attempts, which are as many as are allowed, and all of them are of one operation.
-/
theorem Chat.runCommandBy_changes_once {σ μ : Type} (chat : Chat σ μ) (clock : σ → Instant)
    (text : String) (s : σ)
    : ((chat.runCommandBy clock text s).trace.filter Touch.isAcknowledged).length ≤ 1
      ∧ (∀ before touch after, (chat.runCommandBy clock text s).trace = before ++ touch :: after
          → touch.isAcknowledged = true → after = [])
      ∧ ((calls (chat.runCommandBy clock text s).trace).filter isMutating).length
          ≤ (chat.runCommandBy clock text s).attempts
      ∧ (chat.runCommandBy clock text s).attempts ≤ chat.retry.attempts + 1
      ∧ ∀ called ∈ calls (chat.runCommandBy clock text s).trace,
          ∀ called' ∈ calls (chat.runCommandBy clock text s).trace,
            isMutating called = true → isMutating called' = true → called = called' := by
  have hkeeps := Retry.keeps_run (Retry.doubled chat.retry.backoff)
    (fun s => Backend.isSingle_handle chat.backend chat.calendar (clock s) text s)
    chat.retry.attempts 0 s
  have hcounted := hkeeps.counted
  have hbounded := hkeeps.bounded
  rw [Nat.add_zero] at hcounted hbounded
  unfold runCommandBy
  refine ⟨hkeeps.last.length_filter_le, hkeeps.last, hcounted, hbounded, ?_⟩
  intro called hcalled called' hcalled' hmutating hmutating'
  rw [hkeeps.alike called hcalled hmutating, hkeeps.alike called' hcalled' hmutating']

end Datebook
