import Datebook.Proofs.Grammar
import Datebook.Proofs.Snippet

/-!
This module contains the verification that the written forms of values are balanced, as far as what
stands between apostrophes is: so the search for an object goes over them whole.
-/

namespace Datebook.Json

open Snippet

def Dialect.balanced : Dialect := ⟨IsBalanced, True, True⟩

theorem isPlain_of_isSpace {c : Char} (h : IsSpace c) : IsPlain c := by
  obtain h | h | h | h := h
  all_goals
    rw [h]
    decide

theorem isPlain_of_digit {c : Char} (h : '0' ≤ c ∧ c ≤ '9') : IsPlain c := by
  refine ⟨?_, ?_, ?_, ?_⟩
  all_goals
    intro hc
    rw [hc] at h
    revert h
    decide

theorem isPlain_of_isKeyChar {c : Char} (h : IsKeyChar c) : IsPlain c := by
  refine ⟨?_, ?_, ?_, ?_⟩
  all_goals
    intro hc
    rw [hc] at h
    revert h
    decide

theorem isBalanced_of_isGap {gap : List Char} (h : IsGap gap) : IsBalanced gap :=
  .of_plain fun c hc => isPlain_of_isSpace (h c hc)

theorem isBalanced_of_isNumeral {text : List Char} {n : Numeral} (h : IsNumeral text n)
    : IsBalanced text :=
  .of_plain (h.forall_mem (fun _ => isPlain_of_digit) (forall_mem_of_all (by decide)))

theorem ne_of_hex? {c : Char} {n : Nat} (h : hex? c = some n) : c ≠ '\\' ∧ c ≠ '"' := by
  constructor
  all_goals
    intro hc
    rw [hc] at h
    cases h

theorem isQuoted_unit {a b c d : Char} {u : Nat} (h : unit? a b c d = some u) {text : List Char}
    (htext : IsQuoted text) : IsQuoted ('\\' :: 'u' :: a :: b :: c :: d :: text) := by
  simp only [unit?, Option.bind_eq_bind, Option.bind_eq_some_iff] at h
  obtain ⟨_, ha, _, hb, _, hc, _, hd, -⟩ := h
  refine .escape 'u' (.char ?_ ?_ (.char ?_ ?_ (.char ?_ ?_ (.char ?_ ?_ htext))))
  . exact (ne_of_hex? ha).1
  . exact (ne_of_hex? ha).2
  . exact (ne_of_hex? hb).1
  . exact (ne_of_hex? hb).2
  . exact (ne_of_hex? hc).1
  . exact (ne_of_hex? hc).2
  . exact (ne_of_hex? hd).1
  . exact (ne_of_hex? hd).2

theorem isQuoted_of_spellsAll {body s : List Char} (h : SpellsAll '"' body s) : IsQuoted body := by
  induction h with
  | nil => exact .nil
  | cons hc _ ih =>
    cases hc with
    | plain _ hslash hquote => exact .char hslash hquote ih
    | letter => exact .escape _ ih
    | apostrophe hquote => cases hquote
    | unit hunit => exact isQuoted_unit hunit ih
    | pair hfirst _ hsecond => exact isQuoted_unit hfirst (isQuoted_unit hsecond ih)

section

variable {d : Dialect} (hd : ∀ body, d.apostrophes body → IsBalanced body)

include hd

theorem isBalanced_of_isString {text : List Char} {s : String} (h : IsString d text s)
    : IsBalanced text := by
  cases h with
  | double hbody => exact .quoted (isQuoted_of_spellsAll hbody) .nil
  | single hbody => exact .plain (by decide) (.append (hd _ hbody) (.plain (by decide) .nil))

theorem isBalanced_of_isKey {text : List Char} {s : String} (h : IsKey d text s) : IsBalanced text := by
  cases h with
  | quoted h => exact isBalanced_of_isString hd h
  | bare _ hstart hrest =>
    apply IsBalanced.plain (isPlain_of_isKeyChar (.inl hstart))
    exact .of_plain fun c hc => isPlain_of_isKeyChar (hrest c hc)

theorem isBalanced_of_isScalar {text : List Char} {v : Value} (h : IsScalar d text v)
    : IsBalanced text := by
  cases h with
  | null => exact .of_plain (forall_mem_of_all (by decide))
  | yes => exact .of_plain (forall_mem_of_all (by decide))
  | no => exact .of_plain (forall_mem_of_all (by decide))
  | number h => exact isBalanced_of_isNumeral h
  | text h => exact isBalanced_of_isString hd h

end

theorem isBalanced_of_padded {α : Type} {form : Form α}
    (hform : ∀ text a, form text a → IsBalanced text) {text : List Char} {a : α}
    (h : Padded form text a) : IsBalanced text := by
  obtain ⟨before, core, after, hbefore, hcore, hafter, rfl⟩ := h
  exact .append (isBalanced_of_isGap hbefore) (.append (hform _ _ hcore) (isBalanced_of_isGap hafter))

theorem isBalanced_of_isSeries {α : Type} {d : Dialect} {item : Form α}
    (hitem : ∀ text a, item text a → IsBalanced text) {body : List Char} {as : List α}
    (h : IsSeries d item body as) : IsBalanced body := by
  induction h with
  | last hlast htail =>
    apply IsBalanced.append (hitem _ _ hlast)
    cases htail with
    | inl htail =>
      rw [htail]
      exact .nil
    | inr htail =>
      obtain ⟨-, gap, hgap, rfl⟩ := htail
      exact .plain (by decide) (isBalanced_of_isGap hgap)
  | more hfirst _ ih => exact .append (hitem _ _ hfirst) (.plain (by decide) ih)

section

variable {d : Dialect} (hd : ∀ body, d.apostrophes body → IsBalanced body)

include hd

theorem isBalanced_of_isField {inner : Form Value} (hinner : ∀ text v, inner text v → IsBalanced text)
    {text : List Char} {field : String × Value} (h : IsField d inner text field) : IsBalanced text := by
  obtain ⟨key, value, hkey, hvalue, rfl⟩ := h
  apply IsBalanced.append
  . exact isBalanced_of_padded (fun _ _ => isBalanced_of_isKey hd) hkey
  . exact .plain (by decide) (isBalanced_of_padded hinner hvalue)

theorem isBalanced_of_isContainer {inner : Form Value}
    (hinner : ∀ text v, inner text v → IsBalanced text) {text : List Char} {v : Value}
    (h : IsContainer d inner text v)
    : IsBalanced text ∧ ∀ fields, v = .map fields → IsObject text := by
  cases h with
  | noItems hgap =>
    refine ⟨.plain (by decide) (.append (isBalanced_of_isGap hgap) (.plain (by decide) .nil)), ?_⟩
    nofun
  | items hbody =>
    have hbalanced := isBalanced_of_isSeries (fun _ _ => isBalanced_of_padded hinner) hbody
    refine ⟨.plain (by decide) (.append hbalanced (.plain (by decide) .nil)), ?_⟩
    nofun
  | noFields hgap =>
    have hbalanced := isBalanced_of_isGap hgap
    exact ⟨.braced hbalanced .nil, fun _ _ => ⟨_, rfl, hbalanced⟩⟩
  | fields hbody =>
    have hbalanced := isBalanced_of_isSeries (fun _ _ => isBalanced_of_isField hd hinner) hbody
    exact ⟨.braced hbalanced .nil, fun _ _ => ⟨_, rfl, hbalanced⟩⟩

theorem isBalanced_of_renders {depth : Nat} {text : List Char} {v : Value}
    (h : Renders d depth text v) : IsBalanced text := by
  induction depth generalizing text v with
  | zero => exact isBalanced_of_isScalar hd h
  | succ depth ih =>
    cases h with
    | inl h => exact isBalanced_of_isScalar hd h
    | inr h => exact (isBalanced_of_isContainer hd (fun _ _ => ih) h).1

theorem isObject_of_renders {depth : Nat} {text : List Char} {fields : Fields}
    (h : Renders d depth text (.map fields)) : IsObject text := by
  cases depth with
  | zero => exact absurd h not_isScalar_map
  | succ depth =>
    cases h with
    | inl h => exact absurd h not_isScalar_map
    | inr h =>
      exact (isBalanced_of_isContainer hd (fun _ _ => isBalanced_of_renders hd) h).2 fields rfl

end

end Datebook.Json
