import Datebook.Proofs.Calendar

/-!
This module contains the verification of the reading of the line that announces a calendar, a name and
an identifier in parentheses: which names are read whole, and what makes a name be read short or not at
all.
-/

namespace Datebook.Calendar

def IsLabelled (s : List Char) : Prop :=
  ∃ before value, s = before ++ ':' :: value ∧ Listing.isLabel (Text.trim before) = true

def IsNumbered (s : List Char) : Prop :=
  ∃ digits gap rest, s = digits ++ '.' :: gap :: rest ∧ digits ≠ []
    ∧ (∀ d ∈ digits, Text.isDigit d = true) ∧ Text.isBlank gap = true

def Encloses (s : List Char) : Prop :=
  ∃ before inside rest, s = before ++ '(' :: (inside ++ ')' :: rest) ∧ before ≠ [] ∧ inside ≠ []
    ∧ ∀ d ∈ inside, d ≠ '(' ∧ d ≠ ')'

section

variable {s before rest name id : List Char} {d : Char}

def isPlain (c : Char) : Bool :=
  c ≠ '(' && c ≠ ')'

theorem isPlain_iff : isPlain d = true ↔ d ≠ '(' ∧ d ≠ ')' := by
  simp [isPlain]

def identifier? (s : List Char) : Option (List Char) :=
  match s.dropWhile isPlain with
  | ')' :: _ => if (s.takeWhile isPlain).isEmpty then none else some (s.takeWhile isPlain)
  | _ => none

theorem identifier?_eq_some_iff
    : identifier? s = some id
      ↔ (∃ rest, s = id ++ ')' :: rest) ∧ id ≠ [] ∧ ∀ d ∈ id, isPlain d = true := by
  have hclose : isPlain ')' = false := rfl
  constructor
  . intro h
    unfold identifier? at h
    split at h
    . next rest hrest =>
      split at h
      . cases h
      . next hne =>
        cases h
        refine ⟨⟨rest, ?_⟩, by simpa using hne, List.all_eq_true.mp List.all_takeWhile⟩
        rw [← hrest, List.takeWhile_append_dropWhile]
    . cases h
  . rintro ⟨⟨rest, rfl⟩, hne, hall⟩
    unfold identifier?
    rw [List.dropWhile_append_of_pos hall, List.takeWhile_append_of_pos hall,
      List.dropWhile_cons_of_neg (by simp [hclose]), List.takeWhile_cons_of_neg (by simp [hclose])]
    simp [hne]

theorem exists_of_append_eq {c : Char} (hspace : c ≠ ' ') (hopen : c ≠ '(') (hnone : '(' ∉ before)
    {after : List Char} (heq : s ++ ' ' :: '(' :: rest = before ++ c :: after)
    : ∃ middle, s = before ++ c :: middle ∧ after = middle ++ ' ' :: '(' :: rest := by
  rw [List.append_eq_append_iff] at heq
  obtain ⟨middle, rfl, heq⟩ | ⟨middle, rfl, heq⟩ := heq
  . match middle with
    | [] => exact absurd (List.cons.inj heq).1 (Ne.symm hspace)
    | [_] =>
      rw [List.singleton_append, List.cons.injEq, List.cons.injEq] at heq
      exact absurd heq.2.1 (Ne.symm hopen)
    | _ :: d :: _ =>
      rw [List.cons_append, List.cons.injEq, List.cons_append, List.cons.injEq] at heq
      exact absurd (by simp [← heq.2.1]) hnone
  . cases middle with
    | nil => exact absurd (List.cons.inj heq).1 hspace
    | cons d middle =>
      rw [List.cons_append, List.cons.injEq] at heq
      exact ⟨middle, by rw [heq.1], heq.2⟩

theorem identifier?_append (s rest : List Char)
    : identifier? (s ++ ' ' :: '(' :: rest) = identifier? s := by
  apply Option.ext
  intro id
  rw [identifier?_eq_some_iff, identifier?_eq_some_iff]
  constructor
  . rintro ⟨⟨tail, heq⟩, hne, hall⟩
    have hnone : '(' ∉ id := fun hmem => absurd (hall '(' hmem) (by decide)
    obtain ⟨middle, hmiddle, -⟩ := exists_of_append_eq (by decide) (by decide) hnone heq
    exact ⟨⟨middle, hmiddle⟩, hne, hall⟩
  . rintro ⟨⟨tail, rfl⟩, hne, hall⟩
    exact ⟨⟨tail ++ ' ' :: '(' :: rest, by simp⟩, hne, hall⟩

theorem parenthesised?_eq (s : List Char)
    : parenthesised? s = match Text.trimStart s with
      | '(' :: rest => identifier? rest
      | _ => none := rfl

theorem parenthesised?_eq_some_iff
    : parenthesised? s = some id
      ↔ (∃ gap rest, s = gap ++ '(' :: (id ++ ')' :: rest) ∧ ∀ d ∈ gap, Text.isBlank d = true)
        ∧ id ≠ [] ∧ ∀ d ∈ id, isPlain d = true := by
  rw [parenthesised?_eq]
  constructor
  . intro h
    split at h
    . next rest hrest =>
      obtain ⟨⟨tail, rfl⟩, hid⟩ := identifier?_eq_some_iff.mp h
      refine ⟨⟨s.takeWhile Text.isBlank, tail, ?_, List.all_eq_true.mp List.all_takeWhile⟩, hid⟩
      rw [← hrest]
      exact List.takeWhile_append_dropWhile.symm
    . cases h
  . rintro ⟨⟨gap, rest, rfl, hgap⟩, hid⟩
    have hopen : Text.trimStart (gap ++ '(' :: (id ++ ')' :: rest)) = '(' :: (id ++ ')' :: rest) := by
      unfold Text.trimStart
      rw [List.dropWhile_append_of_pos hgap]
      rfl
    rw [hopen]
    exact identifier?_eq_some_iff.mpr ⟨⟨rest, rfl⟩, hid⟩

theorem parenthesised?_id (hid : id ≠ []) (hplain : ∀ d ∈ id, isPlain d = true) (mark : List Char)
    : parenthesised? (' ' :: '(' :: (id ++ ')' :: mark)) = some id := by
  have hgap : ∀ d ∈ [' '], Text.isBlank d = true := List.forall_mem_singleton.mpr rfl
  exact parenthesised?_eq_some_iff.mpr ⟨⟨[' '], mark, rfl, hgap⟩, hid, hplain⟩

theorem parenthesised?_append (h : Text.HasInk s) (rest : List Char)
    : parenthesised? (s ++ ' ' :: '(' :: rest) = parenthesised? s := by
  rw [parenthesised?_eq, parenthesised?_eq, Text.trimStart_append h]
  obtain ⟨c, inner, hinner⟩ := List.exists_cons_of_ne_nil (Text.trimStart_ne_nil h)
  rw [hinner]
  by_cases hc : c = '('
  . rw [hc]
    exact identifier?_append inner rest
  . simp [hc]

theorem exists_nameAndId? (hne : before ≠ []) (h : parenthesised? rest = some id)
    : ∃ name id, nameAndId? (before ++ rest) = some (name, id) ∧ name.length ≤ before.length := by
  induction before with
  | nil => exact absurd rfl hne
  | cons c before ih =>
    rw [List.cons_append, nameAndId?]
    cases hfirst : parenthesised? (before ++ rest) with
    | some id => exact ⟨[c], id, rfl, by simp⟩
    | none =>
      have hbefore : before ≠ [] := by
        rintro rfl
        rw [List.nil_append, h] at hfirst
        cases hfirst
      obtain ⟨name, id, heq, hlength⟩ := ih hbefore
      exact ⟨c :: name, id, by rw [heq]; rfl, by simpa using hlength⟩

theorem nameAndId?_eq (hne : before ≠ []) (h : parenthesised? rest = some id)
    (hnone : ∀ start later, before = start ++ later → start ≠ [] → later ≠ []
      → parenthesised? (later ++ rest) = none)
    : nameAndId? (before ++ rest) = some (before, id) := by
  induction before with
  | nil => exact absurd rfl hne
  | cons c before ih =>
    rw [List.cons_append, nameAndId?]
    cases before with
    | nil => rw [List.nil_append, h]
    | cons d before =>
      rw [hnone [c] (d :: before) rfl nofun nofun]
      have hrest := ih nofun fun start later heq _ => hnone (c :: start) later (by rw [heq]; rfl) nofun
      dsimp only
      rw [hrest]
      rfl

theorem nameAndId?_of_not_mem (c : Char) (h : '(' ∉ s) : nameAndId? (c :: s) = none := by
  induction s generalizing c with
  | nil => rfl
  | cons d s ih =>
    have hnone : parenthesised? (d :: s) = none := by
      rw [Option.eq_none_iff_forall_not_mem]
      intro id hid
      obtain ⟨⟨gap, rest, heq, -⟩, -⟩ := parenthesised?_eq_some_iff.mp hid
      rw [heq] at h
      exact h (by simp)
    rw [nameAndId?, hnone]
    dsimp only
    rw [ih d fun hmem => h (List.mem_cons_of_mem d hmem)]
    rfl

/-! Names that begin with a label, and names that begin with a number -/

theorem mem_of_isLabel (h : Listing.isLabel s = true) (hmem : d ∈ s)
    : LongDate.isLetter d = true ∨ d = ' ' := by
  cases s with
  | nil => cases hmem
  | cons c s =>
    rw [Listing.isLabel, Bool.and_eq_true, List.all_eq_true] at h
    rw [List.mem_cons] at hmem
    cases hmem with
    | inl hmem => exact .inl (hmem ▸ h.1)
    | inr hmem => simpa using h.2 d hmem

theorem not_mem_of_isLabel_trim (hletter : LongDate.isLetter d = false)
    (hblank : Text.isBlank d = false) (h : Listing.isLabel (Text.trim s) = true) : d ∉ s := by
  intro hmem
  cases mem_of_isLabel h (Text.mem_trim hblank hmem) with
  | inl heq =>
    rw [heq] at hletter
    cases hletter
  | inr heq =>
    rw [heq] at hblank
    cases hblank

theorem labelled?_eq_none_iff : Listing.labelled? s = none ↔ ¬ IsLabelled s := by
  constructor
  . rintro hnone ⟨before, value, rfl, hlabel⟩
    have hcolon : ':' ∉ before := not_mem_of_isLabel_trim (by decide) (by decide) hlabel
    have hall : ∀ c ∈ before, decide (c ≠ ':') = true := by
      intro c hc
      simpa using fun heq : c = ':' => hcolon (heq ▸ hc)
    unfold Listing.labelled? at hnone
    rw [List.dropWhile_append_of_pos hall, List.takeWhile_append_of_pos hall,
      List.dropWhile_cons_of_neg (by simp), List.takeWhile_cons_of_neg (by simp),
      List.append_nil] at hnone
    dsimp only at hnone
    rw [if_pos hlabel] at hnone
    cases hnone
  . intro h
    unfold Listing.labelled?
    dsimp only
    split
    . rfl
    . next c value hvalue =>
      rw [if_neg]
      intro hlabel
      apply h
      refine ⟨s.takeWhile (· ≠ ':'), value, ?_, hlabel⟩
      have hc := List.head?_dropWhile_not (· ≠ ':') s
      rw [hvalue] at hc
      have hc : c = ':' := by simpa using hc
      rw [hc] at hvalue
      rw [← hvalue, List.takeWhile_append_dropWhile]

theorem isLabelled_append : IsLabelled (s ++ ' ' :: '(' :: rest) ↔ IsLabelled s := by
  constructor
  . rintro ⟨before, value, heq, hlabel⟩
    have hnone : '(' ∉ before := not_mem_of_isLabel_trim (by decide) (by decide) hlabel
    obtain ⟨middle, hmiddle, -⟩ := exists_of_append_eq (by decide) (by decide) hnone heq
    exact ⟨before, middle, hmiddle, hlabel⟩
  . rintro ⟨before, value, rfl, hlabel⟩
    exact ⟨before, value ++ ' ' :: '(' :: rest, by simp, hlabel⟩

theorem exists_withoutBlanks (s : List Char)
    : ∃ others, withoutBlanks s = Text.trimStart s :: others := by
  induction s with
  | nil => exact ⟨[], rfl⟩
  | cons c s ih =>
    obtain ⟨others, hothers⟩ := ih
    unfold withoutBlanks Text.trimStart
    cases hc : Text.isBlank c with
    | true =>
      rw [if_pos rfl, hothers, List.dropWhile_cons_of_pos hc]
      exact ⟨_, rfl⟩
    | false =>
      rw [List.dropWhile_cons_of_neg (by simp [hc])]
      exact ⟨[], rfl⟩

theorem withoutBlanks_of_trimmed (h : Text.trimStart s = s) : withoutBlanks s = [s] := by
  cases s with
  | nil => rfl
  | cons c s =>
    unfold Text.trimStart at h
    cases hc : Text.isBlank c with
    | true =>
      have hlength := (List.dropWhile_suffix Text.isBlank (l := s)).length_le
      rw [List.dropWhile_cons_of_pos hc] at h
      rw [h, List.length_cons] at hlength
      omega
    | false => simp [withoutBlanks, hc]

theorem afterNumber_of_digits {digits : List Char} {gap : Char} (hne : digits ≠ [])
    (hdigits : ∀ d ∈ digits, Text.isDigit d = true) (hgap : Text.isBlank gap = true)
    (rest : List Char)
    : afterNumber (digits ++ '.' :: gap :: rest) = withoutBlanks rest := by
  have hpoint : Text.isDigit '.' = false := rfl
  unfold afterNumber
  rw [List.dropWhile_append_of_pos hdigits, List.takeWhile_append_of_pos hdigits,
    List.dropWhile_cons_of_neg (by simp [hpoint]), List.takeWhile_cons_of_neg (by simp [hpoint])]
  simp [hne, hgap]

theorem afterNumber_eq_nil (h : ¬ IsNumbered s) : afterNumber s = [] := by
  unfold afterNumber
  split
  . rfl
  . next hne =>
    split
    . next gap rest hrest =>
      rw [if_neg]
      intro hgap
      apply h
      refine ⟨s.takeWhile Text.isDigit, gap, rest, ?_, by simpa using hne,
        List.all_eq_true.mp List.all_takeWhile, hgap⟩
      rw [← hrest, List.takeWhile_append_dropWhile]
    . rfl

/-! The title of a calendar -/

section

variable {mark : List Char} (hname : Text.trim name = name) (hne : name ≠ []) (hid : id ≠ [])
  (hplain : ∀ d ∈ id, isPlain d = true) (hmark : '(' ∉ mark)

include hname hne

theorem nameStarts_title (rest : List Char)
    : nameStarts (name ++ ' ' :: '(' :: rest)
        = afterNumber (name ++ ' ' :: '(' :: rest) ++ [name ++ ' ' :: '(' :: rest] := by
  have hstart : Text.trimStart (name ++ ' ' :: '(' :: rest) = name ++ ' ' :: '(' :: rest := by
    rw [Text.trimStart_append (Text.hasInk_of_trim [] hname hne), Text.trimStart_of_trim hname]
  unfold nameStarts
  rw [hstart, withoutBlanks_of_trimmed hstart]

include hid hplain in
theorem exists_title_of_isNumbered (h : IsNumbered name)
    : ∃ shorter other, (nameStarts (name ++ ' ' :: '(' :: (id ++ ')' :: mark))).findSome? nameAndId?
        = some (shorter, other) ∧ shorter.length < name.length := by
  have hparen := parenthesised?_id hid hplain mark
  rw [nameStarts_title hname hne]
  obtain ⟨digits, gap, rest, rfl, hdigits, hall, hgap⟩ := h
  have hink : Text.HasInk rest := by
    obtain ⟨c, hmem, hc⟩ := Text.hasInk_of_trim (digits ++ ['.']) (by simpa using hname)
      (List.cons_ne_nil gap rest)
    rw [List.mem_cons] at hmem
    cases hmem with
    | inl hmem =>
      rw [hmem, hgap] at hc
      cases hc
    | inr hmem => exact ⟨c, hmem, hc⟩
  obtain ⟨others, hothers⟩ := exists_withoutBlanks (rest ++ ' ' :: '(' :: (id ++ ')' :: mark))
  obtain ⟨shorter, other, heq, hlength⟩ := exists_nameAndId? (Text.trimStart_ne_nil hink) hparen
  refine ⟨shorter, other, ?_, ?_⟩
  . rw [List.append_assoc, List.cons_append, List.cons_append, afterNumber_of_digits hdigits hall hgap,
      hothers, Text.trimStart_append hink, List.cons_append, List.findSome?_cons, heq]
  . have hshorter := (List.dropWhile_suffix Text.isBlank (l := rest)).length_le
    unfold Text.trimStart at hlength
    rw [List.length_append, List.length_cons, List.length_cons]
    omega

include hplain hmark in
theorem findSome?_title (h : ¬ IsNumbered name)
    : (nameStarts (name ++ ' ' :: '(' :: (id ++ ')' :: mark))).findSome? nameAndId?
        = nameAndId? (name ++ ' ' :: '(' :: (id ++ ')' :: mark)) := by
  have hnone : (afterNumber (name ++ ' ' :: '(' :: (id ++ ')' :: mark))).findSome? nameAndId?
      = none := by
    by_cases hnumber : IsNumbered (name ++ ' ' :: '(' :: (id ++ ')' :: mark))
    . obtain ⟨digits, gap, rest, heq, hdigits, hall, hgap⟩ := hnumber
      have hparen : '(' ∉ digits := fun hmem => absurd (hall '(' hmem) (by decide)
      obtain ⟨middle, rfl, hrest⟩ := exists_of_append_eq (by decide) (by decide) hparen heq
      rw [heq, afterNumber_of_digits hdigits hall hgap]
      cases middle with
      | nil =>
        rw [List.nil_append, List.cons.injEq] at hrest
        rw [hrest.2, withoutBlanks_of_trimmed rfl, List.findSome?_cons, nameAndId?_of_not_mem]
        . rfl
        . rw [List.mem_append, List.mem_cons]
          rintro (hmem | hmem | hmem)
          . exact absurd (hplain '(' hmem) (by decide)
          . cases hmem
          . exact hmark hmem
      | cons c middle =>
        rw [List.cons_append, List.cons.injEq] at hrest
        exact absurd ⟨digits, gap, middle, by rw [hrest.1], hdigits, hall, hgap⟩ h
    . rw [afterNumber_eq_nil hnumber]
      rfl
  rw [nameStarts_title hname hne, List.findSome?_append, hnone, List.findSome?_singleton]
  rfl

include hplain hmark in
theorem exists_title_of_encloses (hnumber : ¬ IsNumbered name) (h : Encloses name)
    : ∃ shorter other, (nameStarts (name ++ ' ' :: '(' :: (id ++ ')' :: mark))).findSome? nameAndId?
        = some (shorter, other) ∧ shorter.length < name.length := by
  rw [findSome?_title hname hne hplain hmark hnumber]
  obtain ⟨before, inside, rest, rfl, hbefore, hinside, hall⟩ := h
  have hparen : parenthesised? ('(' :: (inside ++ ')' :: rest)
      ++ ' ' :: '(' :: (id ++ ')' :: mark)) = some inside :=
    parenthesised?_eq_some_iff.mpr ⟨⟨[], rest ++ ' ' :: '(' :: (id ++ ')' :: mark), by simp, nofun⟩,
      hinside, fun d hd => isPlain_iff.mpr (hall d hd)⟩
  obtain ⟨shorter, other, heq, hlength⟩ := exists_nameAndId? hbefore hparen
  refine ⟨shorter, other, by rw [List.append_assoc, heq], ?_⟩
  rw [List.length_append, List.length_cons]
  omega

include hid hplain hmark in
theorem exists_shorter_title (h : IsNumbered name ∨ Encloses name)
    : ∃ shorter other, (nameStarts (name ++ ' ' :: '(' :: (id ++ ')' :: mark))).findSome? nameAndId?
        = some (shorter, other) ∧ shorter.length < name.length := by
  by_cases hnumber : IsNumbered name
  . exact exists_title_of_isNumbered hname hne hid hplain hnumber
  . exact exists_title_of_encloses hname hne hplain hmark hnumber (h.resolve_left hnumber)

include hid hplain hmark in
theorem findSome?_title_eq (hnumber : ¬ IsNumbered name) (h : ¬ Encloses name)
    : (nameStarts (name ++ ' ' :: '(' :: (id ++ ')' :: mark))).findSome? nameAndId?
        = some (name, id) := by
  rw [findSome?_title hname hne hplain hmark hnumber]
  apply nameAndId?_eq hne
  . exact parenthesised?_id hid hplain mark
  . rintro start later rfl hstart hlater
    rw [parenthesised?_append (Text.hasInk_of_trim start hname hlater), Option.eq_none_iff_forall_not_mem]
    intro inside hinside
    obtain ⟨⟨gap, rest, rfl, -⟩, hinside, hall⟩ := parenthesised?_eq_some_iff.mp hinside
    apply h
    exact ⟨start ++ gap, inside, rest, by simp, by simp [hstart], hinside,
      fun d hd => isPlain_iff.mp (hall d hd)⟩

end

end

theorem announced?_eq_some {line : List Char} {c : Calendar} (h : announced? line = some c)
    : Listing.labelled? line = none
        ∧ ∃ name id, (nameStarts line).findSome? nameAndId? = some (name, id) ∧ Text.trim id ≠ []
          ∧ c
            = { id := String.ofList (Text.trim id)
                summary := String.ofList (Text.trim name)
                primary := containsText "PRIMARY".toList line } := by
  unfold announced? at h
  split at h
  . cases h
  . next hunlabelled =>
    refine ⟨hunlabelled, ?_⟩
    unfold ofLine? at h
    split at h
    . cases h
    . next name id hfind =>
      dsimp only at h
      split at h
      . cases h
      . next hread =>
        cases h
        rw [not_or, List.isEmpty_iff] at hread
        exact ⟨name, id, hfind, hread.1, rfl⟩

end Datebook.Calendar
