import Datebook.Proofs.Text
import Datebook.Text.Line

/-!
This module contains the verification of the cutting of texts into lines: what a line feed between two
texts does to their lines, and which lines are left when the blank ones are passed over.
-/

namespace Datebook

section

variable {α : Type} {p : α → Bool} {a : α}

theorem List.takeWhile_append_cons (h : p a = false) (s t : List α)
    : (s ++ a :: t).takeWhile p = s.takeWhile p := by
  rw [List.takeWhile_append, List.takeWhile_cons_of_neg (by simp [h]), List.append_nil]
  split
  . next hall => rw [(List.takeWhile_prefix p).eq_of_length hall]
  . rfl

theorem List.dropWhile_append_cons (h : p a = false) (s t : List α)
    : (s ++ a :: t).dropWhile p = s.dropWhile p ++ a :: t := by
  rw [List.dropWhile_append, List.dropWhile_cons_of_neg (by simp [h])]
  split
  . next hnone => rw [List.isEmpty_iff.mp hnone, List.nil_append]
  . rfl

end

namespace Text

def inkedLines (s : List Char) : List (List Char) :=
  (lines s).filter fun line => !line.all isBlank

theorem isBlank_of_isLineBreak {c : Char} (h : isLineBreak c = true) : isBlank c = true := by
  unfold isLineBreak at h
  unfold isBlank
  simp only [Bool.or_eq_true, Bool.and_eq_true, decide_eq_true_eq, beq_iff_eq] at h ⊢
  omega

theorem lines_newline (s : List Char) : lines ('\n' :: s) = [] :: lines s := by
  rw [lines]
  . rfl
  . simp

theorem lines_of_isLineBreak {c : Char} (h : isLineBreak c = true) (hc : c ≠ '\r')
    (rest : List Char) : lines (c :: rest) = [] :: lines rest := by
  rw [lines]
  . rw [if_pos h]
  . simp [hc]

theorem lines_cons {c : Char} (h : isLineBreak c = false) (rest : List Char)
    : lines (c :: rest) = consFirst c (lines rest) := by
  rw [lines]
  . rw [h]
    rfl
  . rintro _ rfl
    cases h

theorem lines_ne_nil {s : List Char} (h : s ≠ []) : lines s ≠ [] := by
  fun_cases lines s with
  | case1 => exact absurd rfl h
  | case2 rest => simp
  | case3 c rest => simp
  | case4 c rest =>
    unfold consFirst
    split
    . simp
    . simp

theorem lines_append_newline (s rest : List Char)
    : lines (s ++ '\n' :: rest) = lines s ++ lines rest
        ∨ lines (s ++ '\n' :: rest) = lines s ++ [] :: lines rest := by
  fun_induction lines s with
  | case1 => exact .inr (lines_newline rest)
  | case2 s ih =>
    rw [List.cons_append, List.cons_append, lines]
    simpa using ih
  | case3 c s hc hbreak ih =>
    cases s with
    | nil =>
      by_cases hreturn : c = '\r'
      . rw [hreturn, List.singleton_append, lines]
        exact .inl rfl
      . rw [List.singleton_append, lines_of_isLineBreak hbreak hreturn, lines_newline]
        exact .inr rfl
    | cons d s =>
      rw [List.cons_append, lines]
      . rw [if_pos hbreak]
        simpa using ih
      . rintro _ hreturn heq
        rw [List.cons_append, List.cons.injEq] at heq
        exact hc s hreturn (by rw [heq.1])
  | case4 c s hc hbreak ih =>
    rw [Bool.not_eq_true] at hbreak
    rw [List.cons_append, lines_cons hbreak]
    cases s with
    | nil =>
      rw [List.nil_append, lines_newline]
      exact .inl rfl
    | cons d s =>
      -- The rest has a first line already, which the character joins.
      obtain ⟨first, others, hlines⟩ := List.exists_cons_of_ne_nil (lines_ne_nil (s := d :: s) nofun)
      rw [hlines] at ih ⊢
      cases ih with
      | inl ih =>
        rw [ih]
        exact .inl rfl
      | inr ih =>
        rw [ih]
        exact .inr rfl

theorem inkedLines_append_newline (s rest : List Char)
    : inkedLines (s ++ '\n' :: rest) = inkedLines s ++ inkedLines rest := by
  unfold inkedLines
  cases lines_append_newline s rest with
  | inl h => rw [h, List.filter_append]
  | inr h =>
    rw [h, List.filter_append]
    simp

theorem mem_of_mem_lines (s : List Char) : ∀ line ∈ lines s, ∀ c ∈ line, c ∈ s := by
  fun_induction lines s with
  | case1 => nofun
  | case2 s ih =>
    rw [List.forall_mem_cons]
    exact ⟨nofun, fun line hline c hc => by simp [ih line hline c hc]⟩
  | case3 d s _ _ ih =>
    rw [List.forall_mem_cons]
    exact ⟨nofun, fun line hline c hc => by simp [ih line hline c hc]⟩
  | case4 d s _ _ ih =>
    unfold consFirst
    split
    . simp
    . next first others heq =>
      rw [heq, List.forall_mem_cons] at ih
      rw [List.forall_mem_cons, List.forall_mem_cons]
      exact ⟨⟨List.mem_cons_self, fun c hc => List.mem_cons_of_mem _ (ih.1 c hc)⟩,
        fun line hline c hc => List.mem_cons_of_mem _ (ih.2 line hline c hc)⟩

theorem not_isLineBreak_of_mem_lines (s : List Char)
    : ∀ line ∈ lines s, ∀ c ∈ line, isLineBreak c = false := by
  fun_induction lines s with
  | case1 => nofun
  | case2 s ih =>
    rw [List.forall_mem_cons]
    exact ⟨nofun, ih⟩
  | case3 d s _ _ ih =>
    rw [List.forall_mem_cons]
    exact ⟨nofun, ih⟩
  | case4 d s _ hbreak ih =>
    rw [Bool.not_eq_true] at hbreak
    unfold consFirst
    split
    . simpa using hbreak
    . next first others heq =>
      rw [heq, List.forall_mem_cons] at ih
      rw [List.forall_mem_cons, List.forall_mem_cons]
      exact ⟨⟨hbreak, ih.1⟩, ih.2⟩

theorem inkedLines_of_blank {s : List Char} (h : ∀ c ∈ s, isBlank c = true) : inkedLines s = [] := by
  unfold inkedLines
  rw [List.filter_eq_nil_iff]
  intro line hline
  rw [Bool.not_eq_true', Bool.not_eq_false, List.all_eq_true]
  exact fun c hc => h c (mem_of_mem_lines s line hline c hc)

theorem lines_of_single {s : List Char} (hne : s ≠ []) (h : ∀ c ∈ s, isLineBreak c = false)
    : lines s = [s] := by
  induction s with
  | nil => exact absurd rfl hne
  | cons c s ih =>
    rw [List.forall_mem_cons] at h
    rw [lines_cons h.1]
    cases s with
    | nil => rfl
    | cons d s =>
      rw [ih nofun h.2]
      rfl

def IsSingle (s : String) : Prop :=
  ∀ c ∈ s.toList, isLineBreak c = false

instance (s : String) : Decidable (IsSingle s) :=
  decidable_of_iff ((s.toList.all fun c => !isLineBreak c) = true) (by simp [IsSingle])

theorem isSingle_append {label : String} (hlabel : IsSingle label) {detail : String}
    (hdetail : IsSingle detail) : IsSingle (label ++ detail) := by
  intro d hd
  rw [String.toList_append, List.mem_append] at hd
  cases hd with
  | inl hd => exact hlabel d hd
  | inr hd => exact hdetail d hd

theorem not_blank_append {label : String} (hlabel : label.toList.all isBlank = false)
    {detail : String} : (label ++ detail).toList.all isBlank = false := by
  rw [String.toList_append, List.all_append, hlabel, Bool.false_and]

theorem exists_joined_cons (separator s : String) (rest : List String)
    : ∃ tail, (joined separator (s :: rest)).toList = s.toList ++ tail := by
  cases rest with
  | nil => exact ⟨[], (List.append_nil _).symm⟩
  | cons t rest => exact ⟨_, by rw [joined, String.append_assoc, String.toList_append]; simp⟩

theorem isSingle_joined {separator : String} (hseparator : IsSingle separator) {items : List String}
    (h : ∀ s ∈ items, IsSingle s) : IsSingle (joined separator items) := by
  fun_induction joined separator items with
  | case1 => nofun
  | case2 s => exact h s List.mem_cons_self
  | case3 s rest _ ih =>
    rw [List.forall_mem_cons] at h
    exact isSingle_append (isSingle_append h.1 hseparator) (ih h.2)

theorem inkedLines_of_single {s : String} (hsingle : IsSingle s)
    (hink : s.toList.all isBlank = false) : inkedLines s.toList = [s.toList] := by
  have hne : s.toList ≠ [] := by
    intro hnil
    rw [hnil] at hink
    cases hink
  rw [inkedLines, lines_of_single hne hsingle]
  simp [hink]

theorem inkedLines_joined {ls : List String}
    (h : ∀ s ∈ ls, IsSingle s ∧ s.toList.all isBlank = false)
    : inkedLines (joined "\n" ls).toList = ls.map String.toList := by
  induction ls with
  | nil => rfl
  | cons s ls ih =>
    rw [List.forall_mem_cons] at h
    cases ls with
    | nil => exact inkedLines_of_single h.1.1 h.1.2
    | cons t ls =>
      have hsplit : (joined "\n" (s :: t :: ls)).toList
          = s.toList ++ '\n' :: (joined "\n" (t :: ls)).toList := by
        simp [joined]
      rw [hsplit, inkedLines_append_newline, inkedLines_of_single h.1.1 h.1.2, ih h.2]
      rfl

theorem ends_joined (separator : String) {as : List String} (hsome : as ≠ [])
    (h : ∀ a ∈ as, IsTrimmed a ∧ a ≠ "")
    : (∃ c rest, (joined separator as).toList = c :: rest ∧ isBlank c = false)
      ∧ EndsWithInk (joined separator as).toList := by
  induction as with
  | nil => exact absurd rfl hsome
  | cons a as ih =>
    rw [List.forall_mem_cons] at h
    obtain ⟨⟨htrimmed, hne⟩, hall⟩ := h
    have hends := ends_of_trim (htrimmed.trim_eq)
      fun hnil => hne (String.toList_eq_nil_iff.mp hnil)
    cases as with
    | nil => exact hends
    | cons b as =>
      obtain ⟨⟨c, rest, htoList, hc⟩, -⟩ := hends
      have hjoined : joined separator (a :: b :: as)
          = a ++ separator ++ joined separator (b :: as) :=
        rfl
      rw [hjoined, String.toList_append]
      refine ⟨?_, (ih nofun hall).2.append _⟩
      rw [String.toList_append, htoList]
      exact ⟨c, _, rfl, hc⟩

theorem isTrimmed_joined {separator : String} {as : List String} (h : ∀ a ∈ as, IsTrimmed a ∧ a ≠ "")
    : IsTrimmed (joined separator as) := by
  by_cases hsome : as = []
  . rw [hsome]
    rfl
  . obtain ⟨⟨c, rest, htoList, hc⟩, hlast⟩ := ends_joined separator hsome h
    have htrim : trim (joined separator as).toList = (joined separator as).toList := by
      rw [htoList] at hlast ⊢
      exact trim_of_ends hc hlast
    rw [IsTrimmed, strip, htrim, String.ofList_toList]

theorem parts_of_not_mem {separator : Char} {s : List Char} (h : separator ∉ s)
    : parts separator s = [s] := by
  induction s with
  | nil => rfl
  | cons c s ih =>
    rw [List.mem_cons, not_or] at h
    rw [parts, if_neg (Ne.symm h.1), ih h.2]
    rfl

theorem parts_append_cons {separator : Char} {s : List Char} (h : separator ∉ s) (t : List Char)
    : parts separator (s ++ separator :: t) = s :: parts separator t := by
  induction s with
  | nil => rw [List.nil_append, parts, if_pos rfl]
  | cons c s ih =>
    rw [List.mem_cons, not_or] at h
    rw [List.cons_append, parts, if_neg (Ne.symm h.1), ih h.2]
    rfl

theorem mem_of_mem_parts {separator c : Char} {s part : List Char} (hpart : part ∈ parts separator s)
    (hc : c ∈ part) : c ∈ s := by
  induction s generalizing part with
  | nil =>
    rw [parts, List.mem_singleton] at hpart
    rwa [hpart] at hc
  | cons d s ih =>
    rw [parts] at hpart
    split at hpart
    . rw [List.mem_cons] at hpart
      obtain rfl | hpart := hpart
      . cases hc
      . exact List.mem_cons_of_mem d (ih hpart hc)
    . unfold consFirst at hpart
      split at hpart
      . rw [List.mem_singleton] at hpart
        rw [hpart, List.mem_singleton] at hc
        simp [hc]
      . next first others heq =>
        rw [heq] at ih
        rw [List.mem_cons] at hpart
        obtain rfl | hpart := hpart
        . rw [List.mem_cons] at hc ⊢
          exact hc.imp_right (ih List.mem_cons_self)
        . exact List.mem_cons_of_mem d (ih (List.mem_cons_of_mem first hpart) hc)

/--
Whether a text stands between two others so that at least one blank line is between them.
-/
def SetsApart (gap : String) : Prop :=
  ∃ blank, isBlankText blank = true ∧ gap = "\n" ++ blank ++ "\n"

theorem inkedLines_apart {gap : String} (h : SetsApart gap) (s t : String)
    : inkedLines (s ++ gap ++ t).toList = inkedLines s.toList ++ inkedLines t.toList := by
  obtain ⟨blank, hblank, rfl⟩ := h
  have hsplit : (s ++ ("\n" ++ blank ++ "\n") ++ t).toList
      = s.toList ++ '\n' :: (blank.toList ++ '\n' :: t.toList) := by
    simp
  rw [hsplit, inkedLines_append_newline, inkedLines_append_newline,
    inkedLines_of_blank (List.all_eq_true.mp hblank), List.nil_append]

theorem setsApart_newlines : SetsApart "\n\n" :=
  ⟨"", rfl, rfl⟩

end Text

end Datebook
