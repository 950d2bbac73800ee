import Datebook.Backend

/-!
This module contains the trying again of what failed because of the service, with growing pauses.
-/

namespace Datebook

inductive Try (δ : Type) where
  | attempt (trace : List Touch)
  | pause (length : δ)

namespace Try

variable {δ : Type}

def trace : Try δ → List Touch
  | attempt trace => trace
  | pause _ => []

def pause? : Try δ → Option δ
  | attempt _ => none
  | pause length => some length

end Try

/--
How often something was tried: the last result, the number of attempts, the state afterwards, and the
attempts and pauses in their order.
-/
structure Tried (σ δ : Type) where
  result : Except Crash Outcome
  attempts : Nat
  state : σ
  steps : List (Try δ)

namespace Tried

variable {σ δ : Type}

def trace (tried : Tried σ δ) : List Touch := tried.steps.flatMap Try.trace

def pauses (tried : Tried σ δ) : List δ := tried.steps.filterMap Try.pause?

end Tried

namespace Retry

variable {σ δ : Type}

/--
Try until there is an outcome that is no failure of the service, at most `left` times after the
first. `done` is the number of attempts so far, and `pause` gives the pause before each further
attempt; a pause too long to be expressed ends the attempts.
-/
def run (attempt : σ → Run σ (Except Crash Outcome)) (pause : Nat → Option δ) :
    (left done : Nat) → σ → Tried σ δ
  | left, done, s =>
    let tried := attempt s
    match tried.result with
    | .error cause => ⟨.error cause, done + 1, tried.state, [.attempt tried.trace]⟩
    | .ok outcome =>
      if outcome.isRetryable then
        match left with
        | 0 => ⟨.ok outcome, done + 1, tried.state, [.attempt tried.trace]⟩
        | left + 1 =>
          match pause done with
          | none => ⟨.error (.length .tooLong), done + 1, tried.state, [.attempt tried.trace]⟩
          | some length =>
            let rest := run attempt pause left (done + 1) tried.state
            { rest with steps := .attempt tried.trace :: .pause length :: rest.steps }
      else ⟨.ok outcome, done + 1, tried.state, [.attempt tried.trace]⟩

/--
The pause before attempt `done + 2`: each is twice as long as the one before. The factor has to be a
finite number.
-/
def doubled (base : Binary64) (done : Nat) : Option Binary64 :=
  if done < 1024 then some (base.scaleUp done) else none

end Retry

end Datebook
