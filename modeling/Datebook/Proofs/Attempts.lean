import Datebook.Chat
import Mathlib.Algebra.Order.Field.Rat
import Mathlib.Order.Bounds.Basic

/-!
This module contains the verification of how often something is tried: until it ends otherwise than
with a failure of the service, or as often as is allowed, with pauses that double.
-/

namespace Datebook

def IsServiceFailure (result : Except Crash Outcome) : Prop :=
  ∃ outcome, result = .ok outcome ∧ outcome.stage? = some .service

theorem isServiceFailure_ok {outcome : Outcome}
    : IsServiceFailure (.ok outcome) ↔ outcome.isRetryable = true := by
  simp [IsServiceFailure, Outcome.isRetryable]

theorem not_isServiceFailure_error (cause : Crash) : ¬ IsServiceFailure (.error cause) := by
  rintro ⟨outcome, h, -⟩
  cases h

namespace Tried

variable {σ δ : Type} {result : Except Crash Outcome} {attempts : Nat} {s : σ}

@[simp]
theorem trace_single (trace : List Touch)
    : (⟨result, attempts, s, [.attempt trace]⟩ : Tried σ δ).trace = trace :=
  List.append_nil trace

@[simp]
theorem trace_further (tried : Tried σ δ) (trace : List Touch) (length : δ)
    : Tried.trace { tried with steps := .attempt trace :: .pause length :: tried.steps }
        = trace ++ tried.trace := rfl

end Tried

namespace Retry

variable {σ δ : Type} {attempt : σ → Run σ (Except Crash Outcome)} {delay : Nat → δ} {left : Nat}
  {s : σ}

/--
Trying ends with an attempt that is not to be repeated or is the last one allowed, it ends because
the pause cannot be expressed, or it goes on with one attempt less.
-/
theorem run_cases (attempt : σ → Run σ (Except Crash Outcome)) (pause : Nat → Option δ)
    (left done : Nat) (s : σ)
    : (left = 0 ∨ ¬ IsServiceFailure (attempt s).result)
        ∧ run attempt pause left done s
          = ⟨(attempt s).result, done + 1, (attempt s).state, [.attempt (attempt s).trace]⟩
      ∨ left ≠ 0 ∧ pause done = none
        ∧ run attempt pause left done s
          = ⟨.error (.length .tooLong), done + 1, (attempt s).state, [.attempt (attempt s).trace]⟩
      ∨ ∃ left' length, left = left' + 1 ∧ IsServiceFailure (attempt s).result
        ∧ pause done = some length
        ∧ run attempt pause left done s
          = { run attempt pause left' (done + 1) (attempt s).state with
              steps := .attempt (attempt s).trace :: .pause length
                :: (run attempt pause left' (done + 1) (attempt s).state).steps } := by
  rw [run.eq_def]
  dsimp only
  cases hresult : (attempt s).result with
  | error cause => exact .inl ⟨.inr (not_isServiceFailure_error cause), rfl⟩
  | ok outcome =>
    dsimp only
    rw [isServiceFailure_ok]
    split
    . next hretryable =>
      cases left with
      | zero => exact .inl ⟨.inl rfl, rfl⟩
      | succ left =>
        dsimp only
        cases hpause : pause done with
        | none => exact .inr (.inl ⟨Nat.succ_ne_zero left, rfl, rfl⟩)
        | some length => exact .inr (.inr ⟨left, length, rfl, hretryable, rfl, rfl⟩)
    . next hretryable => exact .inl ⟨.inr hretryable, rfl⟩

def nth (attempt : σ → Run σ (Except Crash Outcome)) (s : σ) : Nat → Run σ (Except Crash Outcome)
  | 0 => attempt s
  | i + 1 => nth attempt (attempt s).state i

def steps (attempt : σ → Run σ (Except Crash Outcome)) (delay : Nat → δ) (s : σ) (i : Nat)
    : List (Try δ) :=
  .attempt (nth attempt s 0).trace
    :: (List.range i).flatMap fun j => [.pause (delay j), .attempt (nth attempt s (j + 1)).trace]

theorem steps_succ (attempt : σ → Run σ (Except Crash Outcome)) (delay : Nat → δ) (s : σ) (i : Nat)
    : steps attempt delay s (i + 1)
        = .attempt (attempt s).trace :: .pause (delay 0)
          :: steps attempt (fun j => delay (j + 1)) (attempt s).state i := by
  unfold steps
  rw [List.range_succ_eq_map, List.flatMap_cons, List.flatMap_map]
  rfl

theorem filterMap_steps (attempt : σ → Run σ (Except Crash Outcome)) (delay : Nat → δ) (s : σ)
    (i : Nat)
    : (steps attempt delay s i).filterMap Try.pause? = (List.range i).map delay := by
  induction i generalizing delay s with
  | zero => rfl
  | succ i ih =>
    rw [steps_succ, List.range_succ_eq_map, List.map_cons, List.map_map]
    exact congrArg (delay 0 :: ·) (ih _ _)

/--
The attempts that end the trying after at most `left` others: the one that is the last one allowed,
and those that do not fail over the service.
-/
def ends (attempt : σ → Run σ (Except Crash Outcome)) (left : Nat) (s : σ) : Set Nat :=
  {i | i = left ∨ ¬ IsServiceFailure (nth attempt s i).result}

theorem isLeast_ends_zero (h : left = 0 ∨ ¬ IsServiceFailure (attempt s).result)
    : IsLeast (ends attempt left s) 0 :=
  ⟨h.imp Eq.symm id, fun i _ => Nat.zero_le i⟩

theorem isLeast_ends_succ {i : Nat} (hfailure : IsServiceFailure (attempt s).result)
    (h : IsLeast (ends attempt left (attempt s).state) i)
    : IsLeast (ends attempt (left + 1) s) (i + 1) := by
  refine ⟨h.1.imp (congrArg (· + 1)) id, ?_⟩
  rintro (_ | j) hj
  . cases hj with
    | inl hlast => cases hlast
    | inr hother => exact absurd hfailure hother
  . exact Nat.succ_le_succ (h.2 (hj.imp Nat.succ.inj id))

theorem exists_run_eq (attempt : σ → Run σ (Except Crash Outcome)) {pause : Nat → Option δ}
    (left done : Nat) (s : σ) (h : ∀ i < left, pause (done + i) = some (delay i))
    : ∃ i, IsLeast (ends attempt left s) i
        ∧ run attempt pause left done s
          = ⟨(nth attempt s i).result, done + i + 1, (nth attempt s i).state,
              steps attempt delay s i⟩ := by
  -- What is left shrinks while the attempts made and the delays move on by one.
  induction left generalizing done delay s with
  | zero =>
    obtain ⟨hend, hrun⟩ | ⟨hleft, -⟩ | ⟨_, _, hleft, -⟩ := run_cases attempt pause 0 done s
    . exact ⟨0, isLeast_ends_zero hend, hrun⟩
    . exact absurd rfl hleft
    . cases hleft
  | succ left ih =>
    obtain ⟨hend, hrun⟩ | ⟨-, hpause, -⟩ | ⟨left', length, hleft, hfailure, hpause, hrun⟩ :=
      run_cases attempt pause (left + 1) done s
    . exact ⟨0, isLeast_ends_zero hend, hrun⟩
    . have hdelay := h 0 (Nat.succ_pos left)
      rw [Nat.add_zero, hpause] at hdelay
      cases hdelay
    . cases hleft
      have hdelay := h 0 (Nat.succ_pos left)
      rw [Nat.add_zero, hpause, Option.some.injEq] at hdelay
      have hshift : ∀ j < left, pause (done + 1 + j) = some (delay (j + 1)) := by
        intro j hj
        rw [Nat.add_right_comm]
        exact h (j + 1) (Nat.succ_lt_succ hj)
      obtain ⟨i, hi, hrest⟩ := ih (done + 1) (attempt s).state hshift
      refine ⟨i + 1, isLeast_ends_succ hfailure hi, ?_⟩
      rw [hrun, hrest, steps_succ, hdelay, Nat.add_right_comm done 1 i]
      rfl

/--
The law of trying: the number of attempts is the least of one more than the limit and the position of
the first attempt that does not fail over the service. The result and the state are those of that
attempt, the steps are all attempts up to it in their order with one pause between any two, and only
failures of the service are tried again.
-/
structure Abides (attempt : σ → Run σ (Except Crash Outcome)) (delay : Nat → δ) (limit : Nat) (s : σ)
    (tried : Tried σ δ) : Prop where
  least : IsLeast
    {k | k = limit + 1 ∨ ∃ i, k = i + 1 ∧ ¬ IsServiceFailure (nth attempt s i).result} tried.attempts
  last : ∃ i, tried.attempts = i + 1 ∧ tried.result = (nth attempt s i).result
    ∧ tried.state = (nth attempt s i).state ∧ tried.steps = steps attempt delay s i
  pauses : tried.pauses = (List.range (tried.attempts - 1)).map delay
  repeated : ∀ i, i + 1 < tried.attempts → IsServiceFailure (nth attempt s i).result
  bounded : tried.attempts ≤ limit + 1

theorem abides_run {pause : Nat → Option δ} {limit : Nat}
    (h : ∀ i < limit, pause i = some (delay i))
    : Abides attempt delay limit s (run attempt pause limit 0 s) := by
  have hpause : ∀ i < limit, pause (0 + i) = some (delay i) := by simpa using h
  obtain ⟨i, hi, hrun⟩ := exists_run_eq attempt limit 0 s hpause
  rw [hrun, Nat.zero_add]
  constructor
  . refine ⟨hi.1.imp (congrArg (· + 1)) fun hother => ⟨i, rfl, hother⟩, ?_⟩
    rintro k (hlimit | ⟨j, hj, hother⟩)
    . rw [hlimit]
      exact Nat.succ_le_succ (hi.2 (.inl rfl))
    . rw [hj]
      exact Nat.succ_le_succ (hi.2 (.inr hother))
  . exact ⟨i, rfl, rfl, rfl, rfl⟩
  . exact filterMap_steps attempt delay s i
  . intro j hj
    by_contra hother
    exact Nat.not_lt_of_le (hi.2 (.inr hother)) (Nat.lt_of_succ_lt_succ hj)
  . exact Nat.succ_le_succ (hi.2 (.inl rfl))

/--
With exact pauses, whatever is tried and however often, trying abides by its law, and the pauses are
`base`, `2 * base`, `4 * base` and so on. So does a chat with its own pauses, as long as the factor
of the longest one is a number.
-/
theorem run_abides {σ : Type} (attempt : σ → Run σ (Except Crash Outcome)) (base : ℚ) (limit : Nat)
    (s : σ)
    : Abides attempt (base * 2 ^ ·) limit s
        (run attempt (fun done => some (base * 2 ^ done)) limit 0 s)
      ∧ ∀ [Host] {μ : Type} (chat : Chat σ μ) (clock : σ → Instant) (text : String),
          chat.retry.attempts ≤ 1024
          → Abides (fun s => chat.backend.handle chat.calendar (clock s) text s)
              chat.retry.backoff.scaleUp chat.retry.attempts s (chat.runCommandBy clock text s) := by
  refine ⟨abides_run fun i _ => rfl, fun chat clock text hlimit => abides_run fun i hi => ?_⟩
  unfold doubled
  exact if_pos (Nat.lt_of_lt_of_le hi hlimit)

end Retry

end Datebook
