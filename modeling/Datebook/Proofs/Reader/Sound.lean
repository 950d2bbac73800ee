import Datebook.Proofs.Grammar
import Mathlib.Data.List.TakeWhile

/-!
This module contains the verification that the strict reader takes nothing but written forms of what it
gives back.
-/

namespace Datebook.Json

def IsSound {α : Type} (reader : Reader α) (form : Form α) : Prop :=
  ∀ s a rest, reader s = some (a, rest) → ∃ text, form text a ∧ s = text ++ rest

def Led {α : Type} (form : Form α) : Form α := fun text a =>
  ∃ gap core, IsGap gap ∧ form core a ∧ text = gap ++ core

theorem exists_gap (s : List Char) : ∃ gap, IsGap gap ∧ s = gap ++ skipSpace s := by
  refine ⟨s.takeWhile isSpace, ?_, List.takeWhile_append_dropWhile.symm⟩
  intro c hc
  exact isSpace_iff.mp (List.mem_takeWhile_imp hc)

theorem exists_digits {s rest : List Char} {values : List Nat} (h : digits s = (values, rest))
    : ∃ text, (∀ c ∈ text, '0' ≤ c ∧ c ≤ '9') ∧ text.map (fun c => c.toNat - 0x30) = values
        ∧ s = text ++ rest := by
  induction s generalizing values with
  | nil =>
    cases h
    exact ⟨[], nofun, rfl, rfl⟩
  | cons c s ih =>
    unfold digits at h
    split at h
    . next hdigit =>
      cases h
      obtain ⟨text, hdigits, hvalues, hs⟩ := ih rfl
      refine ⟨c :: text, List.forall_mem_cons.mpr ⟨hdigit, hdigits⟩, ?_, ?_⟩
      . rw [List.map_cons, hvalues]
      . rw [List.cons_append, ← hs]
    . cases h
      exact ⟨[], nofun, rfl, rfl⟩

theorem exists_isDigits {s rest : List Char} {values : List Nat} (hvalues : values ≠ [])
    (h : digits s = (values, rest)) : ∃ text, IsDigits text values ∧ s = text ++ rest := by
  obtain ⟨text, hdigits, hmap, hs⟩ := exists_digits h
  refine ⟨text, ⟨?_, hdigits, hmap⟩, hs⟩
  intro hempty
  rw [hempty] at hmap
  exact hvalues hmap.symm

theorem isSound_whole : IsSound whole IsWhole := by
  intro s a rest h
  unfold whole at h
  split at h
  . cases h
    exact ⟨['0'], .zero, rfl⟩
  . next hzero =>
    split at h
    . cases h
    . next hvalues hdigits =>
      cases h
      obtain ⟨text, htext, hs⟩ := exists_isDigits hvalues hdigits
      cases text with
      | nil => exact absurd rfl htext.nonempty
      | cons c tail =>
        refine ⟨c :: tail, .digits ?_ htext, hs⟩
        intro hc
        exact hzero (tail ++ rest) (by rw [hs, hc, List.cons_append])

theorem isSound_fraction : IsSound fraction IsFraction := by
  intro s a rest h
  unfold fraction at h
  split at h
  . split at h
    . cases h
    . next hvalues hdigits =>
      cases h
      obtain ⟨text, htext, rfl⟩ := exists_isDigits hvalues hdigits
      exact ⟨'.' :: text, .digits htext, rfl⟩
  . cases h
    exact ⟨[], .none, rfl⟩

theorem isSound_exponent : IsSound exponent IsExponent := by
  intro s a rest h
  unfold exponent at h
  split at h
  . cases h
    exact ⟨[], .none, rfl⟩
  . next c tail =>
    split at h
    . next hmark =>
      dsimp only at h
      split at h
      . cases h
      . next hvalues hdigits =>
        cases h
        obtain ⟨text, htext, hafter⟩ := exists_isDigits hvalues hdigits
        revert hafter
        split
        . intro hafter
          dsimp only at hafter
          rw [hafter]
          exact ⟨_, .digits hmark .minus htext, rfl⟩
        . intro hafter
          dsimp only at hafter
          rw [hafter]
          exact ⟨_, .digits hmark .plus htext, rfl⟩
        . intro hafter
          dsimp only at hafter
          rw [hafter]
          exact ⟨_, .digits hmark .none htext, rfl⟩
    . cases h
      exact ⟨[], .none, rfl⟩

theorem isSound_numeral : IsSound numeral IsNumeral := by
  intro s a rest h
  unfold numeral at h
  simp only [Option.bind_eq_bind, Option.bind_eq_some_iff] at h
  obtain ⟨⟨ws, t⟩, hwhole, ⟨fs, u⟩, hfraction, ⟨e, v⟩, hexponent, h⟩ := h
  cases h
  obtain ⟨w, hw, hs⟩ := isSound_whole _ _ _ hwhole
  obtain ⟨f, hf, rfl⟩ := isSound_fraction _ _ _ hfraction
  obtain ⟨x, hx, rfl⟩ := isSound_exponent _ _ _ hexponent
  revert hs
  split
  . intro hs
    dsimp only at hs
    refine ⟨_, .mk (n := ⟨true, ws, fs, e⟩) hw hf hx, ?_⟩
    rw [hs, if_pos rfl]
    simp only [List.append_assoc, List.cons_append, List.nil_append]
  . intro hs
    dsimp only at hs
    refine ⟨_, .mk (n := ⟨false, ws, fs, e⟩) hw hf hx, ?_⟩
    rw [hs, if_neg Bool.false_ne_true]
    simp only [List.append_assoc, List.nil_append]

theorem found_eq_some {c : Char} {r : Option (List Char × List Char)} {name rest : List Char}
    (h : found c r = some (name, rest)) : ∃ tail, r = some (tail, rest) ∧ name = c :: tail := by
  unfold found at h
  split at h
  . cases h
  . cases h
    exact ⟨_, rfl, rfl⟩

theorem exists_spellsAll {s name rest : List Char} (h : stringBody s = some (name, rest))
    : ∃ body, SpellsAll '"' body name ∧ s = body ++ '"' :: rest := by
  fun_induction stringBody s generalizing name with
  | case1 => cases h
  | case2 =>
    cases h
    exact ⟨[], .nil, rfl⟩
  | case3 => cases h
  | case4 => cases h
  | case5 _ _ _ _ _ hfirst hhigh _ _ _ _ _ _ hsecond hlow ih =>
    obtain ⟨tail, hrest, rfl⟩ := found_eq_some h
    obtain ⟨body, hbody, rfl⟩ := ih hrest
    exact ⟨_, .cons (.pair hfirst hhigh hsecond hlow) hbody, rfl⟩
  | case6 => cases h
  | case7 => cases h
  | case8 => cases h
  | case9 _ _ _ _ _ _ hunit hhigh hlow ih =>
    obtain ⟨tail, hrest, rfl⟩ := found_eq_some h
    obtain ⟨body, hbody, rfl⟩ := ih hrest
    rw [Bool.not_eq_true] at hhigh hlow
    exact ⟨_, .cons (.unit hunit hhigh hlow) hbody, rfl⟩
  | case10 => cases h
  | case11 e _ _ _ hletter ih =>
    obtain ⟨tail, hrest, rfl⟩ := found_eq_some h
    obtain ⟨body, hbody, rfl⟩ := ih hrest
    exact ⟨_, .cons (.letter (escape?_eq_some_iff.mp hletter)) hbody, rfl⟩
  | case12 => cases h
  | case13 c _ hquote _ _ hplain ih =>
    obtain ⟨tail, hrest, rfl⟩ := found_eq_some h
    obtain ⟨body, hbody, rfl⟩ := ih hrest
    rw [Bool.or_eq_true, not_or, decide_eq_true_eq, decide_eq_true_eq] at hplain
    exact ⟨_, .cons (.plain (Nat.not_lt.mp hplain.1) hplain.2 hquote) hbody, rfl⟩

variable {value : Reader Value} {form : Form Value}

/--
What a reader finds between a gap that it skips itself and the gap that is skipped after it.
-/
theorem exists_padded {s t : List Char} {v : Value} (hvalue : IsSound value (Led form))
    (h : value s = some (v, t))
    : ∃ text, Padded form text v ∧ s = text ++ skipSpace t := by
  obtain ⟨_, ⟨before, core, hbefore, hcore, rfl⟩, rfl⟩ := hvalue _ _ _ h
  obtain ⟨after, hafter, ht⟩ := exists_gap t
  refine ⟨_, ⟨before, core, after, hbefore, hcore, hafter, rfl⟩, ?_⟩
  rw [List.append_assoc, List.append_assoc, List.append_assoc, ← ht]

theorem exists_items (hvalue : IsSound value (Led form)) {fuel : Nat} {s rest : List Char}
    {vs : List Value} (h : items value fuel s = some (vs, rest))
    : ∃ body, IsSeries .strict (Padded form) body vs ∧ s = body ++ ']' :: rest := by
  induction fuel generalizing s vs with
  | zero => cases h
  | succ fuel ih =>
    unfold items at h
    split at h
    . cases h
    . next v t hv =>
      obtain ⟨text, htext, rfl⟩ := exists_padded hvalue hv
      split at h
      . next u hclose =>
        cases h
        rw [hclose]
        refine ⟨text ++ [], .last htext (.inl rfl), ?_⟩
        rw [List.append_nil]
      . next u hcomma =>
        split at h
        . cases h
        . next ws w hmore =>
          cases h
          obtain ⟨body, hbody, rfl⟩ := ih hmore
          rw [hcomma]
          exact ⟨_, .more htext hbody, (List.append_assoc _ (',' :: body) _).symm⟩
      . cases h

theorem exists_fields (hvalue : IsSound value (Led form)) {fuel : Nat} {s rest : List Char}
    {fs : Fields} (h : fields value fuel s = some (fs, rest))
    : ∃ body, IsSeries .strict (IsField .strict form) body fs ∧ s = body ++ '}' :: rest := by
  induction fuel generalizing s fs with
  | zero => cases h
  | succ fuel ih =>
    unfold fields at h
    split at h
    . next t hquote =>
      split at h
      . cases h
      . next name u hname =>
        split at h
        . next w hcolon =>
          split at h
          . cases h
          . next v x hv =>
            obtain ⟨before, hbefore, hs⟩ := exists_gap s
            obtain ⟨body, hbody, rfl⟩ := exists_spellsAll hname
            obtain ⟨after, hafter, hu⟩ := exists_gap u
            obtain ⟨text, htext, rfl⟩ := exists_padded hvalue hv
            have hfield : IsField .strict form
                (before ++ ('"' :: (body ++ ['"']) ++ after) ++ ':' :: text) (String.ofList name, v) :=
              ⟨_, text, ⟨before, _, after, hbefore, .quoted (.double hbody), hafter, rfl⟩, htext, rfl⟩
            have hsplit : s
                = before ++ ('"' :: (body ++ ['"']) ++ after) ++ ':' :: text ++ skipSpace x := by
              rw [hs, hquote, hu, hcolon]
              simp only [List.append_assoc, List.cons_append, List.nil_append]
            rw [hsplit]
            split at h
            . next y hclose =>
              cases h
              rw [hclose]
              refine ⟨_ ++ [], .last hfield (.inl rfl), ?_⟩
              rw [List.append_nil]
            . next y hcomma =>
              split at h
              . cases h
              . next ws z hmore =>
                cases h
                obtain ⟨tail, htail, rfl⟩ := ih hmore
                rw [hcomma]
                exact ⟨_, .more hfield htail, (List.append_assoc _ (',' :: tail) _).symm⟩
            . cases h
        . cases h
    . cases h

theorem valueWith_bracket {s t : List Char} (h : skipSpace s = '[' :: t)
    : valueWith Limits.strict (some value) s
        = match skipSpace t with
          | ']' :: rest => some (.list [], rest)
          | rest => (items value (rest.length + 1) rest).map fun (vs, rest) => (.list vs, rest) := by
  unfold valueWith
  rw [h]
  rfl

theorem valueWith_brace {s t : List Char} (h : skipSpace s = '{' :: t)
    : valueWith Limits.strict (some value) s
        = match skipSpace t with
          | '}' :: rest => some (.map [], rest)
          | rest =>
            (fields value (rest.length + 1) rest).map fun (vs, rest) => (.map (distinct vs), rest) := by
  unfold valueWith
  rw [h]
  rfl

theorem exists_list (hvalue : IsSound value (Led form)) {s t rest : List Char} {v : Value}
    (hs : skipSpace s = '[' :: t) (h : valueWith Limits.strict (some value) s = some (v, rest))
    : ∃ text, IsContainer .strict form text v ∧ skipSpace s = text ++ rest := by
  rw [valueWith_bracket hs] at h
  rw [hs]
  obtain ⟨gap, hgap, ht⟩ := exists_gap t
  split at h
  . next u hclose =>
    cases h
    refine ⟨_, .noItems hgap, ?_⟩
    rw [ht, hclose, List.cons_append, List.append_assoc]
    rfl
  . rw [Option.map_eq_some_iff] at h
    obtain ⟨⟨vs, w⟩, hitems, h⟩ := h
    cases h
    obtain ⟨body, hbody, hskip⟩ := exists_items hvalue hitems
    refine ⟨_, .items (hbody.prepend absorbsGaps_padded hgap), ?_⟩
    rw [ht, hskip]
    simp only [List.cons_append, List.append_assoc, List.nil_append]

theorem exists_map (hvalue : IsSound value (Led form)) {s t rest : List Char} {v : Value}
    (hs : skipSpace s = '{' :: t) (h : valueWith Limits.strict (some value) s = some (v, rest))
    : ∃ text, IsContainer .strict form text v ∧ skipSpace s = text ++ rest := by
  rw [valueWith_brace hs] at h
  rw [hs]
  obtain ⟨gap, hgap, ht⟩ := exists_gap t
  split at h
  . next u hclose =>
    cases h
    refine ⟨_, .noFields hgap, ?_⟩
    rw [ht, hclose, List.cons_append, List.append_assoc]
    rfl
  . rw [Option.map_eq_some_iff] at h
    obtain ⟨⟨fs, w⟩, hfields, h⟩ := h
    cases h
    obtain ⟨body, hbody, hskip⟩ := exists_fields hvalue hfields
    refine ⟨_, .fields (hbody.prepend absorbsGaps_isField hgap), ?_⟩
    rw [ht, hskip]
    simp only [List.cons_append, List.append_assoc, List.nil_append]

theorem isSound_valueWith {inner : Option (Reader Value)}
    (hinner : ∀ value ∈ inner, IsSound value (Led form))
    : IsSound (valueWith Limits.strict inner)
        (Led fun text v => IsScalar .strict text v ∨ inner ≠ none ∧ IsContainer .strict form text v) := by
  intro s v rest h
  obtain ⟨gap, hgap, hs⟩ := exists_gap s
  have hled {text : List Char} (hskip : skipSpace s = text ++ rest)
      (hform : IsScalar .strict text v ∨ inner ≠ none ∧ IsContainer .strict form text v)
      : ∃ text, Led (fun text v =>
          IsScalar .strict text v ∨ inner ≠ none ∧ IsContainer .strict form text v) text v
            ∧ s = text ++ rest := by
    refine ⟨gap ++ text, ⟨gap, text, hgap, hform, rfl⟩, ?_⟩
    rw [List.append_assoc, ← hskip]
    exact hs
  have hread := h
  unfold valueWith at h
  dsimp only at h
  split at h
  . next t hquote =>
    rw [Option.map_eq_some_iff] at h
    obtain ⟨⟨name, u⟩, hname, h⟩ := h
    cases h
    obtain ⟨body, hbody, rfl⟩ := exists_spellsAll hname
    apply hled _ (.inl (.text (.double hbody)))
    rw [hquote, List.cons_append, List.append_assoc]
    rfl
  . next t hbracket =>
    split at h
    . cases h
    . next value =>
      obtain ⟨text, htext, hskip⟩ := exists_list (hinner value rfl) hbracket hread
      exact hled hskip (.inr ⟨Option.some_ne_none value, htext⟩)
  . next t hbrace =>
    split at h
    . cases h
    . next value =>
      obtain ⟨text, htext, hskip⟩ := exists_map (hinner value rfl) hbrace hread
      exact hled hskip (.inr ⟨Option.some_ne_none value, htext⟩)
  . next t hword =>
    cases h
    exact hled hword (.inl .null)
  . next t hword =>
    cases h
    exact hled hword (.inl .yes)
  . next t hword =>
    cases h
    exact hled hword (.inl .no)
  . split at h
    . cases h
    . next n _ hn =>
      rw [Option.map_eq_some_iff] at h
      obtain ⟨value, hvalue, h⟩ := h
      cases h
      obtain ⟨text, htext, hskip⟩ := isSound_numeral _ _ _ hn
      exact hled hskip (.inl (.number htext hvalue))

theorem isSound_value (depth : Nat)
    : IsSound (Json.value Limits.strict depth) (Led (Renders .strict depth)) := by
  induction depth with
  | zero =>
    intro s v rest h
    have hnone : ∀ value ∈ (none : Option (Reader Value)), IsSound value (Led fun _ _ => False) := nofun
    obtain ⟨text, ⟨gap, core, hgap, hcore, rfl⟩, hs⟩ := isSound_valueWith hnone s v rest h
    refine ⟨_, ⟨gap, core, hgap, ?_, rfl⟩, hs⟩
    cases hcore with
    | inl hscalar => exact hscalar
    | inr hcontainer => exact absurd rfl hcontainer.1
  | succ depth ih =>
    intro s v rest h
    have hsome : ∀ reader ∈ some (Json.value Limits.strict depth),
        IsSound reader (Led (Renders .strict depth)) := by
      intro reader hreader
      cases hreader
      exact ih
    obtain ⟨text, ⟨gap, core, hgap, hcore, rfl⟩, hs⟩ := isSound_valueWith hsome s v rest h
    refine ⟨_, ⟨gap, core, hgap, ?_, rfl⟩, hs⟩
    cases hcore with
    | inl hscalar => exact .inl hscalar
    | inr hcontainer => exact .inr hcontainer.2

end Datebook.Json
