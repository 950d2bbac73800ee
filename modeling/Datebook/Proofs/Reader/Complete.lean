import Datebook.Proofs.Reader.Sound

/-!
This module contains the verification that the strict reader takes every written form of a value that
is nested no deeper than it goes.
-/

namespace Datebook.Json

def EndsNumber (rest : List Char) : Prop :=
  ∀ c ∈ rest.head?, ¬ ('0' ≤ c ∧ c ≤ '9') ∧ c ≠ '.' ∧ c ≠ 'e' ∧ c ≠ 'E'

def IsComplete {α : Type} (reader : Reader α) (form : Form α) : Prop :=
  ∀ text a rest, form text a → EndsNumber rest → reader (text ++ rest) = some (a, rest)

theorem skipSpace_append {gap : List Char} (hgap : IsGap gap) (s : List Char)
    : skipSpace (gap ++ s) = skipSpace s :=
  List.dropWhile_append_of_pos hgap.isSpace

theorem skipSpace_cons {c : Char} (hc : isSpace c = false) (s : List Char)
    : skipSpace (c :: s) = c :: s :=
  List.dropWhile_cons_of_neg (Bool.eq_false_iff.mp hc)

theorem digits_append {text rest : List Char} (htext : ∀ c ∈ text, '0' ≤ c ∧ c ≤ '9')
    (hrest : ∀ c ∈ rest.head?, ¬ ('0' ≤ c ∧ c ≤ '9'))
    : digits (text ++ rest) = (text.map (fun c => c.toNat - 0x30), rest) := by
  induction text with
  | nil =>
    cases rest with
    | nil => rfl
    | cons c rest => rw [List.nil_append, digits, if_neg (hrest c rfl), List.map_nil]
  | cons c text ih =>
    rw [List.forall_mem_cons] at htext
    rw [List.cons_append, digits, if_pos htext.1, ih htext.2, List.map_cons]

theorem IsDigits.digits_append {text rest : List Char} {values : List Nat} (h : IsDigits text values)
    (hrest : ∀ c ∈ rest.head?, ¬ ('0' ≤ c ∧ c ≤ '9'))
    : digits (text ++ rest) = (values, rest) ∧ values ≠ [] := by
  rw [Json.digits_append h.digit hrest, h.values]
  refine ⟨rfl, ?_⟩
  intro hempty
  have hvalues := h.values
  rw [hempty, List.map_eq_nil_iff] at hvalues
  exact h.nonempty hvalues

theorem whole_append {text rest : List Char} {values : List Nat} (h : IsWhole text values)
    (hrest : ∀ c ∈ rest.head?, ¬ ('0' ≤ c ∧ c ≤ '9'))
    : whole (text ++ rest) = some (values, rest) := by
  cases h with
  | zero => rfl
  | @digits c tail _ hc hdigits =>
    obtain ⟨hread, hvalues⟩ := hdigits.digits_append hrest
    unfold whole
    split
    . next hzero =>
      cases hzero
      exact absurd rfl hc
    . rw [hread]
      split
      . next hempty => exact absurd (congrArg Prod.fst hempty) hvalues
      . next heq =>
        cases heq
        rfl

theorem fraction_append {text rest : List Char} {values : List Nat} (h : IsFraction text values)
    (hrest : ∀ c ∈ rest.head?, ¬ ('0' ≤ c ∧ c ≤ '9') ∧ c ≠ '.')
    : fraction (text ++ rest) = some (values, rest) := by
  cases h with
  | none =>
    unfold fraction
    split
    . next hpoint =>
      rw [List.nil_append] at hpoint
      rw [hpoint] at hrest
      exact absurd rfl (hrest '.' rfl).2
    . rfl
  | digits hdigits =>
    obtain ⟨hread, hvalues⟩ := hdigits.digits_append fun c hc => (hrest c hc).1
    rw [List.cons_append, fraction, hread]
    split
    . next hempty => exact absurd (congrArg Prod.fst hempty) hvalues
    . next heq =>
      cases heq
      rfl

theorem not_sign_of_digit {c : Char} (h : '0' ≤ c ∧ c ≤ '9') : c ≠ '-' ∧ c ≠ '+' := by
  constructor
  all_goals
    intro hc
    rw [hc] at h
    revert h
    decide

theorem isComplete_exponent : IsComplete exponent IsExponent := by
  intro text e rest h hrest
  cases h with
  | none =>
    cases rest with
    | nil => rfl
    | cons c rest =>
      obtain ⟨-, -, he, hE⟩ := hrest c rfl
      unfold exponent
      exact if_neg (not_or.mpr ⟨he, hE⟩)
  | @digits mark sign text negative values hmark hsign hdigits =>
    obtain ⟨hread, hvalues⟩ := hdigits.digits_append fun c hc => (hrest c hc).1
    obtain ⟨v, vs, rfl⟩ := List.exists_cons_of_ne_nil hvalues
    rw [List.cons_append, List.append_assoc]
    cases hsign with
    | minus => simp [exponent, hmark, hread]
    | plus => simp [exponent, hmark, hread]
    | none =>
      obtain ⟨c, tail, rfl⟩ := List.exists_cons_of_ne_nil hdigits.nonempty
      obtain ⟨hminus, hplus⟩ := not_sign_of_digit (hdigits.digit c List.mem_cons_self)
      rw [List.cons_append] at hread
      simp [exponent, hmark, hminus, hplus, hread]

theorem not_digit_of_fraction {text rest : List Char} {values : List Nat} (h : IsFraction text values)
    (hrest : ∀ c ∈ rest.head?, ¬ ('0' ≤ c ∧ c ≤ '9'))
    : ∀ c ∈ (text ++ rest).head?, ¬ ('0' ≤ c ∧ c ≤ '9') := by
  cases h with
  | none => exact hrest
  | digits =>
    intro c hc
    cases hc
    decide

theorem not_point_of_exponent {text rest : List Char} {e : Option Int} (h : IsExponent text e)
    (hrest : EndsNumber rest)
    : ∀ c ∈ (text ++ rest).head?, ¬ ('0' ≤ c ∧ c ≤ '9') ∧ c ≠ '.' := by
  cases h with
  | none =>
    intro c hc
    exact ⟨(hrest c hc).1, (hrest c hc).2.1⟩
  | digits hmark =>
    intro c hc
    cases hc
    cases hmark with
    | inl hmark =>
      rw [hmark]
      decide
    | inr hmark =>
      rw [hmark]
      decide

theorem isComplete_numeral : IsComplete numeral IsNumeral := by
  intro text n rest h hrest
  obtain ⟨hwhole, hfraction, hexponent⟩ := h
  next w f x =>
  have hpoint := not_point_of_exponent hexponent hrest
  have hdigit := not_digit_of_fraction hfraction fun c hc => (hpoint c hc).1
  have hw := whole_append hwhole hdigit
  have hf := fraction_append hfraction hpoint
  have hx := isComplete_exponent _ _ _ hexponent hrest
  obtain ⟨c, tail, rfl, hc⟩ := exists_digit_of_whole hwhole
  have hminus := (not_sign_of_digit hc).1
  obtain ⟨negative, ws, fs, e⟩ := n
  rw [List.cons_append] at hw
  cases negative with
  | true => simp [numeral, hw, hf, hx]
  | false => simp [numeral, hminus, hw, hf, hx]

theorem stringBody_spells {text : List Char} {c : Char} (h : Spells '"' text c) (s : List Char)
    : stringBody (text ++ s) = found c (stringBody s) := by
  cases h with
  | plain hprintable hslash =>
    have hcontrol : ¬ c.toNat < 0x20 := Nat.not_lt.mpr hprintable
    simp [stringBody, hslash, hcontrol]
  | @letter e _ hletter =>
    rw [← escape?_eq_some_iff] at hletter
    have hu : e ≠ 'u' := by
      rintro rfl
      cases hletter
    simp [stringBody, hu, hletter]
  | apostrophe hquote => cases hquote
  | unit hunit hhigh hlow => simp [stringBody, hunit, hhigh, hlow]
  | pair hfirst hhigh hsecond hlow => simp [stringBody, hfirst, hhigh, hsecond, hlow]

theorem stringBody_append {body s : List Char} (h : SpellsAll '"' body s) (rest : List Char)
    : stringBody (body ++ '"' :: rest) = some (s, rest) := by
  induction h with
  | nil => rfl
  | cons hc _ ih => rw [List.append_assoc, stringBody_spells hc, ih, found]

theorem IsOpening.skipSpace {text : List Char} (h : IsOpening text) : skipSpace text = text := by
  obtain ⟨c, tail, rfl, hc, -⟩ := h
  exact skipSpace_cons (isSpace_of_not_isBlank hc) tail

theorem endsNumber_append {gap rest : List Char} (hgap : IsGap gap) (hrest : EndsNumber rest)
    : EndsNumber (gap ++ rest) := by
  cases gap with
  | nil => exact hrest
  | cons d gap =>
    intro e he
    cases he
    obtain hd | hd | hd | hd := hgap d List.mem_cons_self
    all_goals
      rw [hd]
      decide

theorem endsNumber_delimiter {c : Char} (hc : IsDelimiter c) (rest : List Char)
    : EndsNumber (c :: rest) := by
  intro d hd
  cases hd
  obtain hc | hc | hc := hc
  all_goals
    rw [hc]
    decide

variable {value : Reader Value} {form : Form Value}

theorem value_padded (hvalue : IsComplete value (Led form)) {text : List Char} {v : Value} {c : Char}
    (h : Padded form text v) (hc : IsDelimiter c) (rest : List Char)
    : ∃ after, value (text ++ c :: rest) = some (v, after) ∧ skipSpace after = c :: rest := by
  obtain ⟨before, core, after, hbefore, hcore, hafter, rfl⟩ := h
  refine ⟨after ++ c :: rest, ?_, ?_⟩
  . rw [← List.append_assoc, List.append_assoc]
    exact hvalue _ _ _ ⟨before, core, hbefore, hcore, rfl⟩
      (endsNumber_append hafter (endsNumber_delimiter hc rest))
  . rw [skipSpace_append hafter]
    apply skipSpace_cons
    obtain hc | hc | hc := hc
    all_goals
      rw [hc]
      decide

theorem items_append (hvalue : IsComplete value (Led form)) {body : List Char} {vs : List Value}
    (h : IsSeries .strict (Padded form) body vs) (rest : List Char) {fuel : Nat}
    (hfuel : vs.length ≤ fuel) : items value fuel (body ++ ']' :: rest) = some (vs, rest) := by
  induction h generalizing fuel with
  | last htext htail =>
    obtain ⟨fuel, rfl⟩ := Nat.exists_eq_add_of_le' hfuel
    cases htail with
    | inl htail =>
      obtain ⟨after, hread, hskip⟩ := value_padded hvalue htext (.inr (.inl rfl)) rest
      rw [htail, List.append_nil, List.length_singleton, items, hread]
      simp only [hskip]
    | inr htail => exact absurd htail.1 not_false
  | more htext _ ih =>
    obtain ⟨fuel, rfl⟩ := Nat.exists_eq_add_of_le' (Nat.le_trans (Nat.le_add_left 1 _) hfuel)
    obtain ⟨after, hread, hskip⟩ := value_padded hvalue htext (.inl rfl) (_ ++ ']' :: rest)
    rw [List.append_assoc, List.cons_append, items, hread]
    simp only [hskip, ih (Nat.le_of_succ_le_succ hfuel)]

theorem exists_key {text : List Char} {name : String} (h : Padded (IsKey .strict) text name)
    (rest : List Char)
    : ∃ body s u, skipSpace (text ++ ':' :: rest) = '"' :: body ∧ stringBody body = some (s, u)
        ∧ String.ofList s = name ∧ skipSpace u = ':' :: rest := by
  obtain ⟨before, core, after, hbefore, hcore, hafter, rfl⟩ := h
  cases hcore with
  | bare hbare => exact absurd hbare not_false
  | quoted hcore =>
    cases hcore with
    | single hsingle => exact absurd hsingle not_false
    | @double body s hbody =>
      refine ⟨body ++ '"' :: (after ++ ':' :: rest), s, after ++ ':' :: rest, ?_,
        stringBody_append hbody _, rfl, ?_⟩
      . rw [List.append_assoc, skipSpace_append hbefore, List.append_assoc, List.cons_append,
          List.append_assoc]
        exact skipSpace_cons (by decide) _
      . rw [skipSpace_append hafter]
        exact skipSpace_cons (by decide) _

theorem fields_append (hvalue : IsComplete value (Led form)) {body : List Char} {fs : Fields}
    (h : IsSeries .strict (IsField .strict form) body fs) (rest : List Char) {fuel : Nat}
    (hfuel : fs.length ≤ fuel) : fields value fuel (body ++ '}' :: rest) = some (fs, rest) := by
  induction h generalizing fuel with
  | last hfield htail =>
    obtain ⟨fuel, rfl⟩ := Nat.exists_eq_add_of_le' hfuel
    obtain ⟨key, text, hkey, htext, rfl⟩ := hfield
    cases htail with
    | inl htail =>
      obtain ⟨after, hread, hskip⟩ := value_padded hvalue htext (.inr (.inr rfl)) rest
      obtain ⟨body, s, u, hquote, hname, heq, hcolon⟩ := exists_key hkey (text ++ '}' :: rest)
      rw [htail, List.append_nil, List.length_singleton, List.append_assoc, List.cons_append, fields]
      simp only [hquote, hname, hcolon, hread, hskip, heq]
    | inr htail => exact absurd htail.1 not_false
  | @more _ tail _ _ hfield _ ih =>
    obtain ⟨fuel, rfl⟩ := Nat.exists_eq_add_of_le' (Nat.le_trans (Nat.le_add_left 1 _) hfuel)
    obtain ⟨key, text, hkey, htext, rfl⟩ := hfield
    obtain ⟨after, hread, hskip⟩ := value_padded hvalue htext (.inl rfl) (tail ++ '}' :: rest)
    obtain ⟨body, s, u, hquote, hname, heq, hcolon⟩ :=
      exists_key hkey (text ++ ',' :: (tail ++ '}' :: rest))
    rw [List.append_assoc, List.append_assoc, List.cons_append, List.cons_append, fields]
    simp only [hquote, hname, hcolon, hread, hskip, heq, ih (Nat.le_of_succ_le_succ hfuel)]

theorem IsSeries.length_le {α : Type} {d : Dialect} {item : Form α} {body : List Char} {as : List α}
    (h : IsSeries d item body as) : as.length ≤ body.length + 1 := by
  induction h with
  | last => simp
  | more _ _ ih =>
    rw [List.length_append, List.length_cons, List.length_cons]
    omega

def StartsWithToken {α : Type} (item : Form α) : Prop :=
  ∀ text a, item text a → ∃ gap core, IsGap gap ∧ text = gap ++ core ∧ item core a ∧ IsOpening core

theorem startsWithToken_padded {α : Type} {form : Form α} (hform : ∀ text a, form text a → IsOpening text)
    : StartsWithToken (Padded form) := by
  intro text a ⟨before, core, after, hbefore, hcore, hafter, htext⟩
  refine ⟨before, core ++ after, hbefore, htext, ?_, (hform core a hcore).append after⟩
  exact ⟨[], core, after, IsGap.nil, hcore, hafter, rfl⟩

theorem startsWithToken_isField {inner : Form Value} : StartsWithToken (IsField .strict inner) := by
  intro text field ⟨key, value, hkey, hvalue, htext⟩
  have hopening (text : List Char) (s : String) (h : IsKey .strict text s) : IsOpening text := by
    cases h with
    | quoted h => exact h.isOpening
    | bare hbare => exact absurd hbare not_false
  obtain ⟨gap, core, hgap, rfl, hcore, hstart⟩ := startsWithToken_padded hopening key field.1 hkey
  refine ⟨gap, core ++ ':' :: value, hgap, ?_, ⟨core, value, hcore, hvalue, rfl⟩, hstart.append _⟩
  rw [htext, List.append_assoc]

theorem startsWithToken_isSeries {α : Type} {d : Dialect} {item : Form α} (hitem : StartsWithToken item)
    : StartsWithToken (IsSeries d item) := by
  intro body as h
  cases h with
  | last hfirst htail =>
    obtain ⟨gap, core, hgap, rfl, hcore, hstart⟩ := hitem _ _ hfirst
    exact ⟨gap, _, hgap, List.append_assoc _ _ _, .last hcore htail, hstart.append _⟩
  | more hfirst hrest =>
    obtain ⟨gap, core, hgap, rfl, hcore, hstart⟩ := hitem _ _ hfirst
    exact ⟨gap, _, hgap, List.append_assoc _ _ _, .more hcore hrest, hstart.append _⟩

theorem isComplete_scalar {inner : Option (Reader Value)}
    : IsComplete (valueWith Limits.strict inner) (Led (IsScalar .strict)) := by
  intro text v rest ⟨gap, core, hgap, hcore, htext⟩ hrest
  have hskip : skipSpace (text ++ rest) = skipSpace (core ++ rest) := by
    rw [htext, List.append_assoc, skipSpace_append hgap]
  unfold valueWith
  rw [hskip]
  cases hcore with
  | null => rfl
  | yes => rfl
  | no => rfl
  | text h =>
    cases h with
    | single hsingle => exact absurd hsingle not_false
    | double hbody =>
      rw [List.cons_append, List.append_assoc, skipSpace_cons (by decide)]
      simp [stringBody_append hbody]
  | number hnumeral hvalue =>
    have hread := isComplete_numeral _ _ _ hnumeral hrest
    obtain ⟨c, tail, rfl, hc⟩ := hnumeral.exists_head
    have hspace : isSpace c = false := isSpace_of_not_isBlank (hc.isBlank)
    have hquote : c ≠ '"' := hc.ne (by decide)
    have hbracket : c ≠ '[' := hc.ne (by decide)
    have hbrace : c ≠ '{' := hc.ne (by decide)
    have hnull : c ≠ 'n' := hc.ne (by decide)
    have htrue : c ≠ 't' := hc.ne (by decide)
    have hfalse : c ≠ 'f' := hc.ne (by decide)
    rw [List.cons_append] at hread ⊢
    rw [skipSpace_cons hspace]
    simp [hquote, hbracket, hbrace, hnull, htrue, hfalse, hread, hvalue]

theorem isComplete_container (hvalue : IsComplete value (Led form))
    (hform : ∀ text v, form text v → IsOpening text)
    : IsComplete (valueWith Limits.strict (some value)) (Led (IsContainer .strict form)) := by
  intro text v rest ⟨gap, core, hgap, hcore, htext⟩ _
  have hskip : skipSpace (text ++ rest) = skipSpace (core ++ rest) := by
    rw [htext, List.append_assoc, skipSpace_append hgap]
  cases hcore with
  | noItems hempty =>
    rw [List.cons_append, List.append_assoc, skipSpace_cons (by decide)] at hskip
    rw [valueWith_bracket hskip, skipSpace_append hempty]
    rfl
  | noFields hempty =>
    rw [List.cons_append, List.append_assoc, skipSpace_cons (by decide)] at hskip
    rw [valueWith_brace hskip, skipSpace_append hempty]
    rfl
  | @items _ vs hbody =>
    obtain ⟨front, core, hfront, rfl, hcore, hstart⟩ :=
      startsWithToken_isSeries (startsWithToken_padded hform) _ _ hbody
    have hbegin := hstart.append (']' :: rest)
    have hfuel : vs.length ≤ (core ++ ']' :: rest).length + 1 := by
      have hlength := hcore.length_le
      rw [List.length_append]
      omega
    have hitems := items_append hvalue hcore rest hfuel
    rw [List.cons_append, List.append_assoc, skipSpace_cons (by decide), List.append_assoc] at hskip
    rw [valueWith_bracket hskip, skipSpace_append hfront, List.singleton_append, hbegin.skipSpace]
    obtain ⟨c, tail, hshape, -, hc, -⟩ := hbegin
    rw [hshape, List.length_cons] at hitems
    rw [hshape]
    simp [hc, hitems]
  | @fields _ fs hbody =>
    obtain ⟨front, core, hfront, rfl, hcore, hstart⟩ :=
      startsWithToken_isSeries startsWithToken_isField _ _ hbody
    have hbegin := hstart.append ('}' :: rest)
    have hfuel : fs.length ≤ (core ++ '}' :: rest).length + 1 := by
      have hlength := hcore.length_le
      rw [List.length_append]
      omega
    have hfields := fields_append hvalue hcore rest hfuel
    rw [List.cons_append, List.append_assoc, skipSpace_cons (by decide), List.append_assoc] at hskip
    rw [valueWith_brace hskip, skipSpace_append hfront, List.singleton_append, hbegin.skipSpace]
    obtain ⟨c, tail, hshape, -, -, hc⟩ := hbegin
    rw [hshape, List.length_cons] at hfields
    rw [hshape]
    simp [hc, hfields]

theorem isComplete_value (depth : Nat)
    : IsComplete (Json.value Limits.strict depth) (Led (Renders .strict depth)) := by
  induction depth with
  | zero => exact isComplete_scalar
  | succ depth ih =>
    intro text v rest ⟨gap, core, hgap, hcore, htext⟩ hrest
    cases hcore with
    | inl hscalar => exact isComplete_scalar _ _ _ ⟨gap, core, hgap, hscalar, htext⟩ hrest
    | inr hcontainer =>
      exact isComplete_container ih (fun _ _ => Renders.isOpening) _ _ _
        ⟨gap, core, hgap, hcontainer, htext⟩ hrest

end Datebook.Json
