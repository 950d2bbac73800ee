import Datebook.Fault

/-!
This module contains the rules by which the faults of a calculation follow from those of its steps.
-/

namespace Datebook

section

variable {ε ε' α β : Type}

theorem Except.bind_eq_ok {x : Except ε α} {f : α → Except ε β} {b : β}
    : (x >>= f) = .ok b ↔ ∃ a, x = .ok a ∧ f a = .ok b := by
  cases x with
  | error e => simp [bind, Except.bind]
  | ok a => simp [bind, Except.bind]

theorem Except.bind_eq_error {x : Except ε α} {f : α → Except ε β} {e : ε}
    : (x >>= f) = .error e ↔ x = .error e ∨ ∃ a, x = .ok a ∧ f a = .error e := by
  cases x with
  | error e => simp [bind, Except.bind]
  | ok a => simp [bind, Except.bind]

theorem Except.map_eq_ok {x : Except ε α} {f : α → β} {b : β}
    : x.map f = .ok b ↔ ∃ a, x = .ok a ∧ f a = b := by
  cases x with
  | error e => simp [Except.map]
  | ok a => simp [Except.map]

theorem Except.map_eq_error {x : Except ε α} {f : α → β} {e : ε}
    : x.map f = .error e ↔ x = .error e := by
  cases x with
  | error e => simp [Except.map]
  | ok a => simp [Except.map]

@[simp]
theorem Except.mapError_ok (f : ε → ε') (a : α) : (Except.ok a).mapError f = .ok a :=
  rfl

@[simp]
theorem Except.mapError_error (f : ε → ε') (e : ε)
    : (Except.error e : Except ε α).mapError f = .error (f e) :=
  rfl

theorem Except.mapError_eq_ok {x : Except ε α} {f : ε → ε'} {a : α}
    : x.mapError f = .ok a ↔ x = .ok a := by
  cases x with
  | error e => simp
  | ok a => simp

theorem Except.mapError_eq_error {x : Except ε α} {f : ε → ε'} {e : ε'}
    : x.mapError f = .error e ↔ ∃ e', x = .error e' ∧ f e' = e := by
  cases x with
  | error e => simp
  | ok a => simp

theorem Except.exists_of_mem_mapM {f : α → Except ε β} {items : List α} {results : List β} {b : β}
    (h : items.mapM f = .ok results) (hb : b ∈ results) : ∃ a ∈ items, f a = .ok b := by
  induction items generalizing results with
  | nil =>
    cases h
    cases hb
  | cons a rest ih =>
    rw [List.mapM_cons] at h
    simp only [bind_eq_ok] at h
    obtain ⟨c, hc, others, hothers, h⟩ := h
    cases h
    rw [List.mem_cons] at hb
    cases hb with
    | inl hb => exact ⟨a, List.mem_cons_self, hb ▸ hc⟩
    | inr hb =>
      obtain ⟨a', hmem, ha'⟩ := ih hothers hb
      exact ⟨a', List.mem_cons_of_mem a hmem, ha'⟩

theorem Except.exists_eq_ok {x : Except ε α} : (∃ a, x = .ok a) ↔ x.isOk = true := by
  cases x with
  | error e => simp [Except.isOk, Except.toBool]
  | ok a => simp [Except.isOk, Except.toBool]

end

namespace Fault

/--
Whether a fault is the command's own: a date or a field of it cannot be used.
-/
def IsRefusal : Fault → Prop
  | date _ | field _ => True
  | _ => False

def IsTarget : Fault → Prop
  | target _ => True
  | _ => False

def IsBackend : Fault → Prop
  | backend _ => True
  | _ => False

def IsCrash : Fault → Prop
  | crash _ => True
  | _ => False

def IsDate : Fault → Prop
  | date _ => True
  | _ => False

def IsLocal (e : Fault) : Prop :=
  e.IsRefusal ∨ e.IsCrash

def IsRemote (e : Fault) : Prop :=
  e.IsBackend ∨ e.IsCrash

end Fault

def FailsOnly {α : Type} (P : Fault → Prop) (x : Except Fault α) : Prop :=
  ∀ e, x = .error e → P e

def Crashes {α : Type} (x : Except Fault α) : Prop :=
  ∃ cause, x = .error (.crash cause)

namespace FailsOnly

variable {α β : Type} {P Q : Fault → Prop}

@[simp]
theorem ok (a : α) : FailsOnly P (.ok a) := by
  intro e he
  cases he

@[simp]
theorem error (e : Fault) : FailsOnly P (.error e : Except Fault α) ↔ P e := by
  constructor
  . intro h
    exact h e rfl
  . intro h e' he'
    cases he'
    exact h

theorem mono {x : Except Fault α} (h : FailsOnly P x) (hPQ : ∀ e, P e → Q e) : FailsOnly Q x := by
  intro e he
  exact hPQ e (h e he)

theorem bind {x : Except Fault α} {f : α → Except Fault β} (hx : FailsOnly P x)
    (hf : ∀ a, x = .ok a → FailsOnly P (f a)) : FailsOnly P (x >>= f) := by
  intro e he
  rw [Except.bind_eq_error] at he
  cases he with
  | inl he => exact hx e he
  | inr he =>
    obtain ⟨a, ha, he⟩ := he
    exact hf a ha e he

theorem isLocal {x : Except Fault α} (h : FailsOnly Fault.IsCrash x) : FailsOnly Fault.IsLocal x :=
  h.mono fun _ => Or.inr

theorem refusal_isLocal {x : Except Fault α} (h : FailsOnly Fault.IsRefusal x)
    : FailsOnly Fault.IsLocal x :=
  h.mono fun _ => Or.inl

theorem isRemote {x : Except Fault α} (h : FailsOnly Fault.IsCrash x)
    : FailsOnly Fault.IsRemote x :=
  h.mono fun _ => Or.inr

theorem map {x : Except Fault α} {f : α → β} (hx : FailsOnly P x) : FailsOnly P (x.map f) := by
  intro e he
  rw [Except.map_eq_error] at he
  exact hx e he

theorem mapError {ε : Type} {x : Except ε α} {f : ε → Fault} (h : ∀ e, P (f e))
    : FailsOnly P (x.mapError f) := by
  intro e he
  rw [Except.mapError_eq_error] at he
  obtain ⟨e', -, rfl⟩ := he
  exact h e'

theorem mapM {f : α → Except Fault β} {items : List α} (h : ∀ a ∈ items, FailsOnly P (f a))
    : FailsOnly P (items.mapM f) := by
  induction items with
  | nil => simp [pure, Except.pure]
  | cons a rest ih =>
    rw [List.mapM_cons]
    apply bind (h a (by simp))
    intro b _
    apply bind (ih fun c hc => h c (by simp [hc]))
    simp [pure, Except.pure]

end FailsOnly

namespace Crashes

variable {α β : Type}

@[simp]
theorem ok (a : α) : ¬ Crashes (.ok a) := by
  rintro ⟨cause, h⟩
  cases h

@[simp]
theorem error (e : Fault) : Crashes (.error e : Except Fault α) ↔ e.IsCrash := by
  cases e <;> simp [Crashes, Fault.IsCrash]

theorem bind {x : Except Fault α} {f : α → Except Fault β}
    : Crashes (x >>= f) ↔ Crashes x ∨ ∃ a, x = .ok a ∧ Crashes (f a) := by
  unfold Crashes
  simp only [Except.bind_eq_error]
  constructor
  . rintro ⟨cause, h | ⟨a, ha, h⟩⟩
    . exact .inl ⟨cause, h⟩
    . exact .inr ⟨a, ha, cause, h⟩
  . rintro (⟨cause, h⟩ | ⟨a, ha, cause, h⟩)
    . exact ⟨cause, .inl h⟩
    . exact ⟨cause, .inr ⟨a, ha, h⟩⟩

theorem bind_const {x : Except Fault α} {f : α → Except Fault β} {P : Prop}
    (hf : ∀ a, Crashes (f a) ↔ P) : Crashes (x >>= f) ↔ Crashes x ∨ (x.isOk = true ∧ P) := by
  rw [bind, ← Except.exists_eq_ok]
  simp only [hf, exists_and_right]

theorem bind_sure {x : Except Fault α} {f : α → Except Fault β} {P : Prop}
    (hx : FailsOnly Fault.IsCrash x) (hf : ∀ a, Crashes (f a) ↔ P)
    : Crashes (x >>= f) ↔ Crashes x ∨ P := by
  rw [bind_const hf]
  cases x with
  | error e => simp [hx e rfl]
  | ok a => simp [Except.isOk, Except.toBool]

theorem of_failsOnly_refusal {x : Except Fault α} (h : FailsOnly Fault.IsRefusal x) : ¬ Crashes x := by
  rintro ⟨cause, hcause⟩
  cases h _ hcause

theorem map {x : Except Fault α} {f : α → β} : Crashes (x.map f) ↔ Crashes x := by
  unfold Crashes
  simp only [Except.map_eq_error]

theorem mapM {f : α → Except Fault β} {items : List α}
    (h : ∀ a ∈ items, FailsOnly Fault.IsCrash (f a))
    : Crashes (items.mapM f) ↔ ∃ a ∈ items, Crashes (f a) := by
  induction items with
  | nil => simp [pure, Except.pure]
  | cons a rest ih =>
    rw [List.mapM_cons, bind]
    simp only [bind, pure, Except.pure, ok, and_false, exists_false, or_false]
    rw [ih fun c hc => h c (by simp [hc])]
    simp only [List.mem_cons, exists_eq_or_imp]
    constructor
    . rintro (ha | ⟨-, -, hrest⟩)
      . exact .inl ha
      . exact .inr hrest
    . rintro (ha | hrest)
      . exact .inl ha
      . cases hfa : f a with
        | ok b => exact .inr ⟨b, rfl, hrest⟩
        | error e =>
          rw [error]
          exact .inl (h a (by simp) e hfa)

end Crashes

theorem FailsOnly.exists_ok_iff {α : Type} {x : Except Fault α} (h : FailsOnly Fault.IsCrash x)
    : (∃ a, x = .ok a) ↔ ¬ Crashes x := by
  cases x with
  | ok a => simp
  | error e => simp [h e rfl]

end Datebook
