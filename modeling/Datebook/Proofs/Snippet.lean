import Datebook.Command.Snippet

/-!
This module contains the verification of the search for an object in running text against a grammar
of balanced text, in which quoted runs and the characters after a backslash stand for themselves.
-/

namespace Datebook.Snippet

def IsPlain (c : Char) : Prop :=
  c ≠ '\\' ∧ c ≠ '"' ∧ c ≠ '{' ∧ c ≠ '}'

instance (c : Char) : Decidable (IsPlain c) :=
  inferInstanceAs (Decidable (c ≠ '\\' ∧ c ≠ '"' ∧ c ≠ '{' ∧ c ≠ '}'))

inductive IsQuoted : List Char → Prop
  | nil : IsQuoted []
  | escape (c : Char) {body : List Char} : IsQuoted body → IsQuoted ('\\' :: c :: body)
  | char {c : Char} {body : List Char} : c ≠ '\\' → c ≠ '"' → IsQuoted body → IsQuoted (c :: body)

inductive IsBalanced : List Char → Prop
  | nil : IsBalanced []
  | escape (c : Char) {text : List Char} : IsBalanced text → IsBalanced ('\\' :: c :: text)
  | quoted {body text : List Char}
    : IsQuoted body → IsBalanced text → IsBalanced ('"' :: (body ++ '"' :: text))
  | braced {inner text : List Char}
    : IsBalanced inner → IsBalanced text → IsBalanced ('{' :: (inner ++ '}' :: text))
  | plain {c : Char} {text : List Char} : IsPlain c → IsBalanced text → IsBalanced (c :: text)

theorem IsBalanced.append {s t : List Char} (hs : IsBalanced s) (ht : IsBalanced t)
    : IsBalanced (s ++ t) := by
  induction hs with
  | nil => exact ht
  | escape c _ ih => exact .escape c ih
  | quoted hbody _ ih =>
    rw [List.cons_append, List.append_assoc, List.cons_append]
    exact .quoted hbody ih
  | braced hinner _ _ ih =>
    rw [List.cons_append, List.append_assoc, List.cons_append]
    exact .braced hinner ih
  | plain hc _ ih => exact .plain hc ih

theorem IsBalanced.of_plain {s : List Char} (h : ∀ c ∈ s, IsPlain c) : IsBalanced s := by
  induction s with
  | nil => exact .nil
  | cons c s ih =>
    rw [List.forall_mem_cons] at h
    exact .plain h.1 (ih h.2)

/--
A scan in the first state goes over the text without an end and stands in the second state after it.
-/
def Passes (before : Scan) (text : List Char) (after : Scan) : Prop :=
  ∀ rest, scan before (text ++ rest) = (scan after rest).map (text ++ ·)

namespace Passes

variable {a b c : Scan} {s t : List Char}

theorem nil : Passes a [] a := by
  intro rest
  rw [List.nil_append]
  cases scan a rest with
  | none => rfl
  | some text => rfl

theorem cons {x : Char} (hopen : a.closes x = false) (h : Passes (a.step x) s b)
    : Passes a (x :: s) b := by
  intro rest
  rw [List.cons_append, scan, hopen, if_neg Bool.false_ne_true, h rest, Option.map_map]
  rfl

theorem append (hs : Passes a s b) (ht : Passes b t c) : Passes a (s ++ t) c := by
  intro rest
  rw [List.append_assoc, hs, ht, Option.map_map]
  congr 1
  funext text
  rw [List.append_assoc]
  rfl

end Passes

theorem passes_quoted {body : List Char} (h : IsQuoted body) (depth : Nat)
    : Passes ⟨depth, true, false⟩ (body ++ ['"']) ⟨depth, false, false⟩ := by
  induction h with
  | nil =>
    apply Passes.cons
    . rfl
    . exact Passes.nil
  | escape c _ ih =>
    apply Passes.cons
    . rfl
    . apply Passes.cons
      . simp [Scan.closes, Scan.step]
      . exact ih
  | char hslash hquote _ ih =>
    apply Passes.cons
    . simp [Scan.closes]
    . simp only [Scan.step, hslash, hquote, if_false, if_true, Bool.false_eq_true]
      exact ih

theorem passes_balanced {text : List Char} (h : IsBalanced text) (depth : Nat)
    : Passes ⟨depth + 1, false, false⟩ text ⟨depth + 1, false, false⟩ := by
  induction h generalizing depth with
  | nil => exact Passes.nil
  | escape c _ ih =>
    apply Passes.cons
    . rfl
    . apply Passes.cons
      . simp [Scan.closes, Scan.step]
      . exact ih depth
  | @quoted body text hbody _ ih =>
    apply Passes.cons
    . rfl
    . rw [← List.singleton_append, ← List.append_assoc]
      apply Passes.append
      . exact passes_quoted hbody (depth + 1)
      . exact ih depth
  | @braced inner text _ _ ihInner ihText =>
    apply Passes.cons
    . rfl
    . apply Passes.append
      . exact ihInner (depth + 1)
      . -- Two braces are open here at least, so the closing one does not end the scan.
        apply Passes.cons
        . simp [Scan.closes]
        . exact ihText depth
  | plain hc _ ih =>
    obtain ⟨hslash, hquote, hopen, hclose⟩ := hc
    apply Passes.cons
    . simp [Scan.closes, hclose]
    . simp only [Scan.step, hslash, hquote, hopen, hclose, if_false, Bool.false_eq_true]
      exact ih depth

theorem object?_eq_some {before inner : List Char} (hbefore : '{' ∉ before) (hinner : IsBalanced inner)
    (after : List Char)
    : object? (before ++ '{' :: (inner ++ '}' :: after)) = some ('{' :: (inner ++ ['}'])) := by
  have hskip : (before ++ '{' :: (inner ++ '}' :: after)).dropWhile (· ≠ '{')
      = '{' :: (inner ++ '}' :: after) := by
    rw [List.dropWhile_append_of_pos]
    . rfl
    . intro c hc
      rw [decide_eq_true_eq]
      intro hbrace
      rw [hbrace] at hc
      exact hbefore hc
  unfold object?
  rw [hskip]
  dsimp only
  rw [passes_balanced hinner 0]
  rfl

def IsObject (text : List Char) : Prop :=
  ∃ inner, text = '{' :: (inner ++ ['}']) ∧ IsBalanced inner

inductive Closes : Nat → List Char → Prop
  | last {inner : List Char} : IsBalanced inner → Closes 0 (inner ++ ['}'])
  | next {depth : Nat} {inner text : List Char}
    : IsBalanced inner → Closes depth text → Closes (depth + 1) (inner ++ '}' :: text)

namespace Closes

variable {depth : Nat} {front text : List Char}

theorem prepend (hfront : IsBalanced front) (h : Closes depth text) : Closes depth (front ++ text) := by
  cases h with
  | last hinner =>
    rw [← List.append_assoc]
    exact .last (hfront.append hinner)
  | next hinner htext =>
    rw [← List.append_assoc]
    exact .next (hfront.append hinner) htext

theorem close (h : Closes depth text) : Closes (depth + 1) ('}' :: text) :=
  .next .nil h

theorem opened (h : Closes (depth + 1) text) : Closes depth ('{' :: text) := by
  cases h with
  | @next _ inner _ hinner htext =>
    have hitem : IsBalanced ('{' :: (inner ++ ['}'])) := .braced hinner .nil
    have hprepended := prepend hitem htext
    rwa [List.cons_append, List.append_assoc, List.singleton_append] at hprepended

theorem plain {c : Char} (hc : IsPlain c) (h : Closes depth text) : Closes depth (c :: text) :=
  prepend (.plain hc .nil) h

end Closes

/--
What may follow where a scan stands, up to the end of the object: the rest of a quoted run first if
the scan is inside one, and any character before that if a backslash stands in front of it.
-/
def Awaits : Scan → List Char → Prop
  | ⟨0, _, _⟩, _ => False
  | ⟨depth + 1, false, false⟩, text => Closes depth text
  | ⟨depth + 1, true, false⟩, text =>
    ∃ body rest, text = body ++ '"' :: rest ∧ IsQuoted body ∧ Closes depth rest
  | ⟨depth + 1, false, true⟩, text => ∃ c rest, text = c :: rest ∧ Closes depth rest
  | ⟨depth + 1, true, true⟩, text =>
    ∃ c body rest, text = c :: (body ++ '"' :: rest) ∧ IsQuoted body ∧ Closes depth rest

theorem awaits_outside {depth : Nat} {c : Char} {text : List Char}
    (hopen : Scan.closes ⟨depth + 1, false, false⟩ c = false)
    (h : Awaits (Scan.step ⟨depth + 1, false, false⟩ c) text) : Closes depth (c :: text) := by
  simp only [Scan.step, Bool.false_eq_true, if_false] at h
  split at h
  . next hslash =>
    obtain ⟨d, rest, rfl, hrest⟩ := h
    rw [hslash]
    exact hrest.prepend (.escape d .nil)
  split at h
  . next hquote =>
    obtain ⟨body, rest, rfl, hbody, hrest⟩ := h
    have hprepended := hrest.prepend (.quoted hbody .nil)
    rw [hquote]
    rwa [List.cons_append, List.append_assoc, List.singleton_append] at hprepended
  split at h
  . next hbrace =>
    rw [hbrace]
    exact Closes.opened h
  split at h
  . next hbrace =>
    cases depth with
    | zero => simp [Scan.closes, hbrace] at hopen
    | succ depth =>
      rw [hbrace]
      exact Closes.close h
  . next hslash hquote hopened hclosed => exact Closes.plain ⟨hslash, hquote, hopened, hclosed⟩ h

theorem awaits_quoted {depth : Nat} {c : Char} {text : List Char}
    (h : Awaits (Scan.step ⟨depth + 1, true, false⟩ c) text)
    : Awaits ⟨depth + 1, true, false⟩ (c :: text) := by
  simp only [Scan.step, Bool.false_eq_true, if_false, if_true] at h
  split at h
  . next hslash =>
    obtain ⟨d, body, rest, rfl, hbody, hrest⟩ := h
    rw [hslash]
    exact ⟨'\\' :: d :: body, rest, rfl, .escape d hbody, hrest⟩
  split at h
  . next hquote =>
    rw [hquote]
    exact ⟨[], text, rfl, .nil, h⟩
  . next hslash hquote =>
    obtain ⟨body, rest, rfl, hbody, hrest⟩ := h
    exact ⟨c :: body, rest, rfl, .char hslash hquote hbody, hrest⟩

theorem awaits_cons {state : Scan} {c : Char} {text : List Char} (hdepth : 0 < state.depth)
    (hopen : state.closes c = false) (h : Awaits (state.step c) text) : Awaits state (c :: text) := by
  match state, hdepth with
  | ⟨depth + 1, false, false⟩, _ => exact awaits_outside hopen h
  | ⟨depth + 1, true, false⟩, _ => exact awaits_quoted h
  | ⟨depth + 1, false, true⟩, _ => exact ⟨c, text, rfl, h⟩
  | ⟨depth + 1, true, true⟩, _ =>
    obtain ⟨body, rest, rfl, hbody, hrest⟩ := h
    exact ⟨c, body, rest, rfl, hbody, hrest⟩

theorem depth_step_pos {state : Scan} {c : Char} (hdepth : 0 < state.depth)
    (hopen : state.closes c = false) : 0 < (state.step c).depth := by
  obtain ⟨depth, inString, escaped⟩ := state
  unfold Scan.step
  repeat' split
  all_goals try exact hdepth
  . exact Nat.succ_pos depth
  . next hescaped _ _ hquoted _ hclosed =>
    rw [Bool.not_eq_true] at hescaped hquoted
    dsimp only at *
    rw [hclosed, hescaped, hquoted] at hopen
    have hne : depth ≠ 1 := by
      intro hone
      rw [hone] at hopen
      cases hopen
    exact Nat.sub_pos_of_lt (Nat.lt_of_le_of_ne hdepth (Ne.symm hne))

theorem awaits_of_scan {state : Scan} {s text : List Char} (hdepth : 0 < state.depth)
    (h : scan state s = some text) : Awaits state text := by
  induction s generalizing state text with
  | nil => cases h
  | cons c rest ih =>
    rw [scan] at h
    split at h
    . next hclosed =>
      cases h
      obtain ⟨depth, inString, escaped⟩ := state
      simp only [Scan.closes, Bool.and_eq_true, decide_eq_true_eq, Bool.not_eq_true'] at hclosed
      obtain ⟨⟨⟨rfl, rfl⟩, rfl⟩, rfl⟩ := hclosed
      exact Closes.last .nil
    . next hopen =>
      rw [Bool.not_eq_true] at hopen
      rw [Option.map_eq_some_iff] at h
      obtain ⟨tail, htail, rfl⟩ := h
      exact awaits_cons hdepth hopen (ih (depth_step_pos hdepth hopen) htail)

theorem isPrefix_of_scan {state : Scan} {s text : List Char} (h : scan state s = some text)
    : text <+: s := by
  induction s generalizing state text with
  | nil => cases h
  | cons c rest ih =>
    rw [scan] at h
    split at h
    . cases h
      exact ⟨rest, rfl⟩
    . rw [Option.map_eq_some_iff] at h
      obtain ⟨tail, htail, rfl⟩ := h
      exact List.prefix_cons_inj c |>.mpr (ih htail)

def IsFirstObject (s text : List Char) : Prop :=
  ∃ before rest, s = before ++ '{' :: rest ∧ '{' ∉ before ∧ text <+: '{' :: rest ∧ IsObject text

theorem object?_of_isFirstObject {s text : List Char} (h : IsFirstObject s text)
    : object? s = some text := by
  obtain ⟨before, rest, rfl, hbefore, ⟨after, hrest⟩, inner, rfl, hinner⟩ := h
  rw [← hrest, List.cons_append, List.append_assoc, List.singleton_append]
  exact object?_eq_some hbefore hinner after

theorem isFirstObject_of_object? {s text : List Char} (h : object? s = some text)
    : IsFirstObject s text := by
  unfold object? at h
  split at h
  . cases h
  . next c rest hrest =>
    rw [Option.map_eq_some_iff] at h
    obtain ⟨tail, htail, rfl⟩ := h
    have hbrace : c = '{' := by
      have hhead := List.head?_dropWhile_not (· ≠ '{') s
      rw [hrest] at hhead
      simpa using hhead
    have hawaits := awaits_of_scan (by decide) htail
    cases hawaits with
    | @last inner hinner =>
      have hsplit : s = s.takeWhile (· ≠ '{') ++ s.dropWhile (· ≠ '{') :=
        List.takeWhile_append_dropWhile.symm
      rw [hrest, hbrace] at hsplit
      refine ⟨_, rest, hsplit, ?_, ?_, inner, ?_, hinner⟩
      . intro hmem
        have hbefore := List.all_takeWhile (p := (· ≠ '{')) (l := s)
        rw [List.all_eq_true] at hbefore
        exact of_decide_eq_true (hbefore '{' hmem) rfl
      . rw [hbrace]
        exact (List.prefix_cons_inj '{').mpr (isPrefix_of_scan htail)
      . rw [hbrace]

theorem object?_eq_some_iff {s text : List Char} : object? s = some text ↔ IsFirstObject s text :=
  ⟨isFirstObject_of_object?, object?_of_isFirstObject⟩

theorem object?_append_iff {text : List Char} (after : List Char)
    : object? (text ++ after) = some text ↔ IsObject text := by
  constructor
  . intro h
    obtain ⟨_, _, _, _, _, hobject⟩ := isFirstObject_of_object? h
    exact hobject
  . intro ⟨inner, htext, hinner⟩
    have hbefore : '{' ∉ ([] : List Char) := List.not_mem_nil
    have hfound := object?_eq_some hbefore hinner after
    rw [htext, List.cons_append, List.append_assoc, List.singleton_append]
    exact hfound

/--
The search accepts its grammar and nothing else: it finds the one object at the first opening brace,
and none exactly if there is no brace or no object at it. More text after the object changes nothing.
-/
theorem object?_accepts_grammar (s : List Char)
    : (∀ text, object? s = some text ↔ IsFirstObject s text)
        ∧ (∀ text text', IsFirstObject s text ∧ IsFirstObject s text' → text = text')
        ∧ (object? s = none ↔ '{' ∉ s ∨ ∀ text, ¬ IsFirstObject s text)
        ∧ ∀ text more, object? s = some text → object? (s ++ more) = some text := by
  refine ⟨fun text => object?_eq_some_iff, ?_, ?_, ?_⟩
  . intro text text' ⟨h, h'⟩
    rw [← object?_eq_some_iff] at h h'
    rw [h] at h'
    exact Option.some.inj h'
  . rw [Option.eq_none_iff_forall_ne_some]
    constructor
    . intro h
      right
      intro text htext
      exact h text (object?_of_isFirstObject htext)
    . intro h text htext
      have hfirst := isFirstObject_of_object? htext
      cases h with
      | inl hnone =>
        obtain ⟨before, rest, rfl, -⟩ := hfirst
        exact hnone (List.mem_append_right before List.mem_cons_self)
      | inr hnone => exact hnone text hfirst
  . intro text more h
    obtain ⟨before, rest, rfl, hbefore, hprefix, hobject⟩ := isFirstObject_of_object? h
    apply object?_of_isFirstObject
    refine ⟨before, rest ++ more, ?_, hbefore, ?_, hobject⟩
    . rw [List.append_assoc, List.cons_append]
    . exact hprefix.trans (List.prefix_append ('{' :: rest) more)

end Datebook.Snippet
