import Datebook.Proofs.Balance
import Datebook.Proofs.Reader.Complete

/-!
This module contains the verification of the strict reader against the grammar of the format: it takes
the written forms of values within its limit on nesting, gives back the values, and takes nothing else.
-/

namespace Datebook.Json

/--
The strict reader takes the written forms of a value within its limit on nesting, with a gap on either
side, and no other text.
-/
theorem strict?_eq_some_iff {s : List Char} {v : Value}
    : strict? s = some v ↔ Padded (Renders .strict Limits.strict.depth) s v := by
  constructor
  . intro h
    unfold strict? read? at h
    split at h
    . next w rest hvalue =>
      split at h
      . next hempty =>
        cases h
        obtain ⟨text, ⟨before, core, hbefore, hcore, rfl⟩, rfl⟩ := isSound_value _ _ _ _ hvalue
        obtain ⟨after, hafter, hrest⟩ := exists_gap rest
        rw [List.isEmpty_iff.mp hempty, List.append_nil] at hrest
        rw [hrest, List.append_assoc]
        exact ⟨before, core, after, hbefore, hcore, hafter, rfl⟩
      . cases h
    . cases h
  . intro ⟨before, core, after, hbefore, hcore, hafter, hs⟩
    have hends : EndsNumber (after ++ []) := endsNumber_append hafter nofun
    rw [List.append_nil] at hends
    have hvalue := isComplete_value _ _ _ after ⟨before, core, hbefore, hcore, rfl⟩ hends
    unfold strict? read?
    rw [hs, ← List.append_assoc, hvalue]
    dsimp only
    rw [if_pos]
    rw [List.isEmpty_iff, ← List.append_nil after, skipSpace_append hafter]
    rfl

theorem exists_fields_of_strict? {t : List Char} {v : Value} (h : strict? ('{' :: t) = some v)
    : ∃ fields, v = .map fields := by
  obtain ⟨core, after, hcore, -, htext⟩ := (strict?_eq_some_iff.mp h).exists_core rfl
  obtain ⟨c, rest, rfl, -⟩ := hcore.isOpening
  cases (List.cons.inj htext).1
  exact hcore.exists_fields

theorem isBalanced_of_read? {object : List Char} {v : Value} (hhead : object.head? = some '{')
    (hlast : object.getLast? = some '}') (h : strict? object = some v)
    : ∃ inner, object = '{' :: (inner ++ ['}']) ∧ Snippet.IsBalanced inner := by
  obtain ⟨t, ht⟩ := List.head?_eq_some_iff.mp hhead
  rw [ht] at h hlast ⊢
  obtain ⟨core, after, hcore, hafter, hobject⟩ := (strict?_eq_some_iff.mp h).exists_core rfl
  -- The text ends with a brace, so there is no gap at its end.
  have hend : after = [] := by
    cases List.eq_nil_or_concat after with
    | inl hafter => exact hafter
    | inr hconcat =>
      obtain ⟨init, c, rfl⟩ := hconcat
      rw [List.concat_eq_append] at hobject hafter
      rw [hobject, ← List.append_assoc, List.getLast?_concat] at hlast
      cases hlast
      exact absurd (hafter '}' (List.mem_append_right init List.mem_cons_self)) (by decide)
  rw [hend, List.append_nil] at hobject
  rw [← hobject] at hcore
  obtain ⟨fields, rfl⟩ := hcore.exists_fields
  exact isObject_of_renders (fun _ => False.elim) hcore

end Datebook.Json
