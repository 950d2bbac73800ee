import Datebook.Proofs.Mend
import Datebook.Proofs.Text

/-!
This module contains the verification that the repair never touches the contents of strings. It goes by
a relation between a text and its segments: a segment outside strings is a run without quotes, and a
segment that is a string is a literal, unless the text ends before its closing quote. From this it
follows where in the text each segment stands, and that a literal of the text stays as it is.
-/

namespace Datebook.Relaxed

section Slashes

def slashes (s : List Char) : Nat :=
  (s.reverse.takeWhile (· = '\\')).length

theorem slashes_le_length (s : List Char) : slashes s ≤ s.length := by
  have hle := (List.takeWhile_prefix (· = '\\') (l := s.reverse)).length_le
  rwa [List.length_reverse] at hle

theorem slashes_cons (c : Char) (s : List Char)
    : slashes (c :: s) = if c = '\\' ∧ slashes s = s.length then s.length + 1 else slashes s := by
  unfold slashes
  rw [List.reverse_cons, List.takeWhile_append, List.length_reverse]
  by_cases hall : (s.reverse.takeWhile (· = '\\')).length = s.length
  . by_cases hc : c = '\\'
    . rw [if_pos hall, if_pos ⟨hc, hall⟩, List.takeWhile_cons_of_pos (by simp [hc])]
      simp
    . rw [if_pos hall, if_neg (hc ·.1), List.takeWhile_cons_of_neg (by simp [hc])]
      simp [hall]
  . rw [if_neg hall, if_neg (hall ·.2)]

theorem slashes_cons_of_ne {c : Char} (hc : c ≠ '\\') (s : List Char)
    : slashes (c :: s) = slashes s := by
  rw [slashes_cons, if_neg (hc ·.1)]

theorem slashes_pair (c : Char) (s : List Char) : slashes ('\\' :: c :: s) % 2 = slashes s % 2 := by
  by_cases hall : c = '\\' ∧ slashes s = s.length
  . have hinner : slashes (c :: s) = (c :: s).length := by
      rw [slashes_cons, if_pos hall, List.length_cons]
    rw [slashes_cons, if_pos ⟨rfl, hinner⟩, List.length_cons, hall.2]
    omega
  . have hinner : slashes (c :: s) = slashes s := by
      rw [slashes_cons, if_neg hall]
    rw [slashes_cons, if_neg, hinner]
    rintro ⟨-, hlength⟩
    have hle := slashes_le_length s
    rw [hinner, List.length_cons] at hlength
    omega

inductive IsBetween (q : Char) : List Char → Prop
  | nil : IsBetween q []
  | pair (c : Char) {body : List Char} : IsBetween q body → IsBetween q ('\\' :: c :: body)
  | char {c : Char} {body : List Char}
    : c ≠ '\\' → c ≠ q → IsBetween q body → IsBetween q (c :: body)

variable {q : Char} {body : List Char}

theorem IsBetween.slashes_even (h : IsBetween q body) : slashes body % 2 = 0 := by
  induction h with
  | nil => rfl
  | pair c _ ih => rw [slashes_pair, ih]
  | char hslash _ _ ih => rw [slashes_cons_of_ne hslash, ih]

theorem IsBetween.slashes_odd (h : IsBetween q body) (hq : q ≠ '\\') {before after : List Char}
    (hbody : body = before ++ q :: after) : slashes before % 2 = 1 := by
  induction h generalizing before with
  | nil => simp at hbody
  | pair c _ ih =>
    cases before with
    | nil =>
      injection hbody with hhead
      exact absurd hhead.symm hq
    | cons d before =>
      injection hbody with hd hbody
      cases before with
      | nil =>
        rw [← hd]
        rfl
      | cons e before =>
        injection hbody with _ hbody
        rw [← hd, slashes_pair, ih hbody]
  | char hslash hquote _ ih =>
    cases before with
    | nil =>
      injection hbody with hhead
      exact absurd hhead hquote
    | cons d before =>
      injection hbody with hd hbody
      rw [← hd, slashes_cons_of_ne hslash, ih hbody]

/--
A literal: two double quotes, between which any other one has an odd number of backslashes before it,
and the closing one an even number.
-/
def IsLiteral (chars : List Char) : Prop :=
  ∃ body, chars = '"' :: (body ++ ['"'])
    ∧ (∀ before after, body = before ++ '"' :: after → slashes before % 2 = 1)
    ∧ slashes body % 2 = 0

theorem IsBetween.isLiteral (h : IsBetween '"' body) : IsLiteral ('"' :: (body ++ ['"'])) :=
  ⟨body, rfl, fun _ _ => h.slashes_odd (by decide), h.slashes_even⟩

end Slashes

section Strings

/--
What stands between a quote `q` and the end of the text, if the quote is never closed. A backslash at
the end takes nothing with it.
-/
inductive IsTorn (q : Char) : List Char → Prop
  | whole {body : List Char} : IsBetween q body → IsTorn q body
  | slash {body : List Char} : IsBetween q body → IsTorn q (body ++ ['\\'])

def IsUnterminated (s : List Char) : Prop :=
  ∃ q tail, s = q :: tail ∧ isQuote q = true ∧ IsTorn q tail

/--
A text in which every quote that opens a string has its closing one: after it nothing is inside a
string.
-/
inductive IsClosed : List Char → Prop
  | nil : IsClosed []
  | plain {c : Char} {rest : List Char} : isQuote c = false → IsClosed rest → IsClosed (c :: rest)
  | string {q : Char} {body rest : List Char}
    : isQuote q = true → IsBetween q body → IsClosed rest → IsClosed (q :: (body ++ q :: rest))

variable {q : Char} {body body' tail s : List Char}

theorem IsTorn.pair (h : IsTorn q tail) (c : Char) : IsTorn q ('\\' :: c :: tail) := by
  cases h with
  | whole h => exact .whole (.pair c h)
  | slash h => exact .slash (.pair c h)

theorem IsTorn.char {c : Char} (hslash : c ≠ '\\') (hquote : c ≠ q) (h : IsTorn q tail)
    : IsTorn q (c :: tail) := by
  cases h with
  | whole h => exact .whole (.char hslash hquote h)
  | slash h => exact .slash (.char hslash hquote h)

theorem IsClosed.bare {chars : List Char} (hchars : ∀ c ∈ chars, isQuote c = false)
    (h : IsClosed s) : IsClosed (chars ++ s) := by
  induction chars with
  | nil => exact h
  | cons c chars ih =>
    rw [List.forall_mem_cons] at hchars
    exact .plain hchars.1 (ih hchars.2)

theorem closes_or_isTorn (q : Char)
    : (s : List Char) → (∃ body rest, IsBetween q body ∧ s = body ++ q :: rest) ∨ IsTorn q s
  | [] => .inr (.whole .nil)
  | [c] => by
    by_cases hquote : c = q
    . exact .inl ⟨[], [], .nil, congrArg (List.cons · []) hquote⟩
    . by_cases hslash : c = '\\'
      . rw [hslash]
        exact .inr (.slash .nil)
      . exact .inr (.whole (.char hslash hquote .nil))
  | c :: d :: s => by
    by_cases hquote : c = q
    . exact .inl ⟨[], d :: s, .nil, congrArg (List.cons · (d :: s)) hquote⟩
    . by_cases hslash : c = '\\'
      . rw [hslash]
        obtain ⟨body, rest, hbody, rfl⟩ | htorn := closes_or_isTorn q s
        . exact .inl ⟨_, rest, .pair d hbody, rfl⟩
        . exact .inr (htorn.pair d)
      . obtain ⟨body, rest, hbody, hs⟩ | htorn := closes_or_isTorn q (d :: s)
        . rw [hs]
          exact .inl ⟨_, rest, .char hslash hquote hbody, rfl⟩
        . exact .inr (htorn.char hslash hquote)

/--
Between the quotes `q` the first text becomes the second, which may stand between double quotes. If
`q` is one, nothing changes.
-/
structure Requotes (q : Char) (body body' : List Char) : Prop where
  isBetween : IsBetween '"' body'
  same : q = '"' → body' = body
  rewrites : Rewrites q body body'

theorem IsBetween.exists_requotes (h : IsBetween q body) : ∃ body', Requotes q body body' := by
  induction h with
  | nil => exact ⟨[], .nil, fun _ => rfl, .nil⟩
  | pair c _ ih =>
    obtain ⟨body', ih⟩ := ih
    by_cases hdropped : q = '\'' ∧ c = '\''
    . obtain ⟨rfl, rfl⟩ := hdropped
      exact ⟨'\'' :: body', .char (by decide) (by decide) ih.isBetween, nofun,
        Rewrites.apostrophe.append ih.rewrites⟩
    . refine ⟨'\\' :: c :: body', .pair c ih.isBetween, ?_,
        (Rewrites.escape hdropped).append ih.rewrites⟩
      intro hq
      rw [ih.same hq]
  | @char c _ hslash hquote _ ih =>
    obtain ⟨body', ih⟩ := ih
    by_cases hdouble : c = '"'
    . rw [hdouble] at hquote ⊢
      exact ⟨'\\' :: '"' :: body', .pair '"' ih.isBetween, fun hq => absurd hq.symm hquote,
        (Rewrites.double hquote.symm).append ih.rewrites⟩
    . refine ⟨c :: body', .char hslash hdouble ih.isBetween, ?_,
        (Rewrites.plain hslash hquote hdouble).append ih.rewrites⟩
      intro hq
      rw [ih.same hq]

end Strings

section Segments

variable {q : Char} {body body' chars rest tail s : List Char} {segment : Segment}
  {more earlier later : List Segment}

theorem plain_append (chars : List Char) (more later : List Segment)
    : plain chars more ++ later = plain chars (more ++ later) := by
  unfold plain
  split
  . rfl
  . rfl

theorem exists_bare {c : Char} (hc : isQuote c = false) (s : List Char)
    : ∃ chars rest, c :: s = chars ++ rest ∧ chars ≠ [] ∧ (∀ x ∈ chars, isQuote x = false)
      ∧ (∀ x ∈ rest.head?, isQuote x = true) ∧ rest.length ≤ s.length := by
  refine ⟨c :: s.takeWhile (!isQuote ·), s.dropWhile (!isQuote ·), ?_, List.cons_ne_nil _ _, ?_, ?_,
    (List.dropWhile_suffix _).length_le⟩
  . rw [List.cons_append, List.takeWhile_append_dropWhile]
  . rw [List.forall_mem_cons]
    refine ⟨hc, fun x hx => ?_⟩
    simpa using List.mem_takeWhile_imp hx
  . intro x hx
    have hnot := List.head?_dropWhile_not (!isQuote ·) s
    rw [hx] at hnot
    simpa using hnot

theorem segments_bare (hne : chars ≠ []) (hchars : ∀ c ∈ chars, isQuote c = false)
    (hrest : ∀ c ∈ rest.head?, isQuote c = true)
    : segments (chars ++ rest) = ⟨false, chars⟩ :: segments rest := by
  have hnone : (cut none rest).1 = [] := by
    rw [fst_cut_none]
    cases rest with
    | nil => rfl
    | cons c rest => rw [List.takeWhile_cons_of_neg (by simp [hrest c rfl])]
  unfold segments
  rw [cut_none_append hchars, hnone, List.append_nil]
  simp [plain, hne, hnone]

theorem cut_quote (hq : isQuote q = true) (s : List Char)
    : cut none (q :: s) = ([], segments (q :: s)) := by
  rw [segments, cut, if_pos hq]
  rfl

theorem segments_string (hq : isQuote q = true) (h : Requotes q body body') (rest : List Char)
    : segments (q :: (body ++ q :: rest)) = ⟨true, '"' :: (body' ++ ['"'])⟩ :: segments rest := by
  rw [segments, cut, if_pos hq, h.rewrites, cut_closing hq]
  rfl

theorem IsTorn.exists_segments (h : IsTorn q tail) (hq : isQuote q = true)
    : ∃ tail', (q = '"' → tail' = tail) ∧ segments (q :: tail) = [⟨true, '"' :: tail'⟩] := by
  unfold segments
  rw [cut, if_pos hq]
  cases h with
  | whole h =>
    obtain ⟨body', hbody'⟩ := h.exists_requotes
    have hcut := hbody'.rewrites []
    rw [List.append_nil] at hcut
    refine ⟨body', hbody'.same, ?_⟩
    rw [hcut]
    simp [cut, plain]
  | slash h =>
    obtain ⟨body', hbody'⟩ := h.exists_requotes
    have hslash : q ≠ '\\' := ne_slash_of_isQuote hq
    refine ⟨body' ++ ['\\'], ?_, ?_⟩
    . intro hdouble
      rw [hbody'.same hdouble]
    . rw [hbody'.rewrites]
      simp [cut, plain, hslash.symm]

inductive Cuts : List Char → List Segment → Prop
  | nil : Cuts [] []
  | bare {chars rest : List Char} {more : List Segment}
    : chars ≠ [] → (∀ c ∈ chars, isQuote c = false) → (∀ c ∈ rest.head?, isQuote c = true)
      → Cuts rest more → Cuts (chars ++ rest) (⟨false, chars⟩ :: more)
  | string {q : Char} {body body' rest : List Char} {more : List Segment}
    : isQuote q = true → IsBetween q body → Requotes q body body' → Cuts rest more
      → Cuts (q :: (body ++ q :: rest)) (⟨true, '"' :: (body' ++ ['"'])⟩ :: more)
  | torn {q : Char} {tail tail' : List Char}
    : isQuote q = true → IsTorn q tail → (q = '"' → tail' = tail)
      → Cuts (q :: tail) [⟨true, '"' :: tail'⟩]

theorem cuts_of_length_le {n : Nat} (h : s.length ≤ n) : Cuts s (segments s) := by
  -- A string or a run without quotes is taken off the front, so the rest is shorter.
  induction n generalizing s with
  | zero =>
    rw [List.eq_nil_of_length_eq_zero (Nat.le_zero.mp h)]
    exact .nil
  | succ n ih =>
    cases s with
    | nil => exact .nil
    | cons q s =>
      have hlength : s.length ≤ n := Nat.le_of_succ_le_succ h
      cases hq : isQuote q with
      | true =>
        obtain ⟨body, rest, hbody, rfl⟩ | htorn := closes_or_isTorn q s
        . obtain ⟨body', hbody'⟩ := hbody.exists_requotes
          rw [segments_string hq hbody']
          apply Cuts.string hq hbody hbody'
          apply ih
          rw [List.length_append, List.length_cons] at hlength
          omega
        . obtain ⟨tail', hsame, hsegments⟩ := htorn.exists_segments hq
          rw [hsegments]
          exact .torn hq htorn hsame
      | false =>
        obtain ⟨chars, rest, hs, hne, hchars, hrest, hle⟩ := exists_bare hq s
        rw [hs, segments_bare hne hchars hrest]
        apply Cuts.bare hne hchars hrest
        apply ih
        exact Nat.le_trans hle hlength

theorem cuts_segments (s : List Char) : Cuts s (segments s) :=
  cuts_of_length_le (Nat.le_refl _)

theorem Cuts.exists_split (h : Cuts s (earlier ++ segment :: later))
    : ∃ before rest, s = before ++ rest ∧ IsClosed before ∧ segments before = earlier
        ∧ Cuts rest (segment :: later) := by
  induction earlier generalizing s with
  | nil => exact ⟨[], s, rfl, .nil, rfl, h⟩
  | cons first earlier ih =>
    rw [List.cons_append] at h
    generalize hmore : earlier ++ segment :: later = more at h
    cases h with
    | @bare chars _ _ hne hchars hrest h =>
      rw [← hmore] at h
      obtain ⟨before, rest, rfl, hbefore, rfl, hcuts⟩ := ih h
      refine ⟨chars ++ before, rest, (List.append_assoc _ _ _).symm, hbefore.bare hchars, ?_, hcuts⟩
      -- The run ends where it does also in the shorter text: at a quote or at the end.
      apply segments_bare hne hchars
      intro c hc
      apply hrest
      rw [List.head?_append, hc]
      rfl
    | @string q body body' _ _ hq hbody hbody' h =>
      rw [← hmore] at h
      obtain ⟨before, rest, rfl, hbefore, rfl, hcuts⟩ := ih h
      refine ⟨q :: (body ++ q :: before), rest, ?_, .string hq hbody hbefore,
        segments_string hq hbody' before, hcuts⟩
      simp only [List.cons_append, List.append_assoc]
    | torn => simp at hmore

theorem Cuts.flatMap_chars (h : Cuts s more) (hs : '\'' ∉ s) : more.flatMap Segment.chars = s := by
  have hdouble {q : Char} (hq : isQuote q = true) (hne : '\'' ≠ q) : q = '"' :=
    (eq_of_isQuote hq).resolve_right hne.symm
  induction h with
  | nil => rfl
  | bare _ _ _ _ ih =>
    rw [List.mem_append, not_or] at hs
    rw [List.flatMap_cons, ih hs.2]
  | string hq _ hbody' _ ih =>
    simp only [List.mem_cons, List.mem_append, not_or] at hs
    obtain rfl := hdouble hq hs.1
    rw [List.flatMap_cons, ih hs.2.2.2, hbody'.same rfl]
    simp only [List.cons_append, List.append_assoc, List.nil_append]
  | torn hq _ hsame =>
    rw [List.mem_cons, not_or] at hs
    obtain rfl := hdouble hq hs.1
    rw [hsame rfl]
    exact List.append_nil _

end Segments

section Literals

variable {before body : List Char}

theorem mend_eq_flatMap (s : List Char) : mend s = (segments s).flatMap Segment.repaired :=
  (flatMap_plain _ _).symm

/--
A text without an open string has no effect on the segments after it, if these start with a string.
-/
theorem IsClosed.cut_append (h : IsClosed before) {q : Char} (hq : isQuote q = true)
    (s : List Char)
    : cut none (before ++ q :: s) = ((cut none before).1, (cut none before).2 ++ segments (q :: s)) := by
  induction h with
  | nil => exact cut_quote hq s
  | plain hc _ ih =>
    rw [List.cons_append, cut, hc, if_neg Bool.false_ne_true, ih, cut, hc, if_neg Bool.false_ne_true]
  | @string q' body rest hq' hbody _ ih =>
    obtain ⟨body', hbody'⟩ := hbody.exists_requotes
    have hsegments : segments (rest ++ q :: s) = segments rest ++ segments (q :: s) := by
      rw [segments, ih]
      exact (plain_append _ _ _).symm
    rw [List.cons_append, List.append_assoc, List.cons_append, cut_quote hq', cut_quote hq',
      segments_string hq' hbody', segments_string hq' hbody', hsegments, List.cons_append]

theorem IsClosed.segments_append (h : IsClosed before) {q : Char} (hq : isQuote q = true)
    (s : List Char) : segments (before ++ q :: s) = segments before ++ segments (q :: s) := by
  rw [segments, h.cut_append hq]
  exact (plain_append _ _ _).symm

theorem IsClosed.mend_literal (h : IsClosed before) (hbody : IsBetween '"' body)
    (after : List Char)
    : mend (before ++ '"' :: (body ++ '"' :: after))
        = mend before ++ '"' :: (body ++ '"' :: mend after) := by
  obtain ⟨body', hbody'⟩ := hbody.exists_requotes
  rw [mend_eq_flatMap, h.segments_append rfl, segments_string rfl hbody', hbody'.same rfl,
    List.flatMap_append, List.flatMap_cons, ← mend_eq_flatMap, ← mend_eq_flatMap]
  simp only [Segment.repaired, if_true, List.cons_append, List.append_assoc, List.nil_append]

theorem IsClosed.trimStart (h : IsClosed before) : IsClosed (Text.trimStart before) := by
  induction h with
  | nil => exact .nil
  | @plain c rest hc hrest ih =>
    unfold Text.trimStart at ih ⊢
    cases hblank : Text.isBlank c with
    | true =>
      rw [List.dropWhile_cons_of_pos hblank]
      exact ih
    | false =>
      rw [List.dropWhile_cons_of_neg (by simp [hblank])]
      exact .plain hc hrest
  | @string q body rest hq hbody hrest _ =>
    have hink : Text.isBlank q = false := by
      obtain rfl | rfl := eq_of_isQuote hq
      . rfl
      . rfl
    unfold Text.trimStart
    rw [List.dropWhile_cons_of_neg (by simp [hink])]
    exact .string hq hbody hrest

theorem trim_around_literal (before body after : List Char)
    : Text.trim (before ++ '"' :: (body ++ '"' :: after))
        = Text.trimStart before ++ '"' :: (body ++ '"' :: Text.trimEnd after) := by
  have hquote (s : List Char) : '"' :: (body ++ '"' :: s) = ('"' :: body) ++ '"' :: s := rfl
  rw [Text.trim, Text.trimStart_append_of_ink rfl, Text.trimEnd_append_of_ink rfl, hquote,
    Text.trimEnd_append_of_ink rfl, List.cons_append]

end Literals

/--
A segment that is a string is a literal, unless it is the last one and has no end in the text. A
segment outside strings stands in the text where no string is open, and has no quotes. Without
apostrophes the text is the concatenation of its segments. The edits are made in the segments outside
strings only, so a closed literal of the text stands unchanged in the result, between the repaired
forms of what is before and after it.
-/
theorem repair_spares_strings (s : List Char)
    : (∀ earlier segment later, segments s = earlier ++ segment :: later →
        ∃ before rest, s = before ++ rest ∧ IsClosed before ∧ segments before = earlier
          ∧ (segment.isString = true → IsLiteral segment.chars ∨ later = [] ∧ IsUnterminated rest)
          ∧ (segment.isString = false →
            segment.chars <+: rest ∧ '"' ∉ segment.chars ∧ '\'' ∉ segment.chars))
      ∧ ('\'' ∉ s → (segments s).flatMap Segment.chars = s)
      ∧ (repair s = (segments (Text.trim s)).flatMap fun segment =>
        if segment.isString then segment.chars else dropCommas (quoteKeys .outside segment.chars))
      ∧ ∀ before body after, s = before ++ '"' :: (body ++ '"' :: after) → IsClosed before →
        IsBetween '"' body →
          repair s = mend (Text.trimStart before) ++ '"' :: (body ++ '"' :: mend (Text.trimEnd after)) := by
  refine ⟨?_, (cuts_segments s).flatMap_chars, rfl, ?_⟩
  . intro earlier segment later hsegments
    have hcuts := cuts_segments s
    rw [hsegments] at hcuts
    obtain ⟨before, rest, hs, hbefore, hearlier, hrest⟩ := hcuts.exists_split
    refine ⟨before, rest, hs, hbefore, hearlier, ?_⟩
    cases hrest with
    | bare _ hchars =>
      refine ⟨nofun, fun _ => ⟨List.prefix_append _ _, ?_, ?_⟩⟩
      . intro hmem
        cases hchars _ hmem
      . intro hmem
        cases hchars _ hmem
    | string _ _ hbody' => exact ⟨fun _ => .inl hbody'.isBetween.isLiteral, nofun⟩
    | torn hq htorn => exact ⟨fun _ => .inr ⟨rfl, _, _, rfl, hq, htorn⟩, nofun⟩
  . rintro before body after rfl hbefore hbody
    rw [repair_eq_mend, trim_around_literal, hbefore.trimStart.mend_literal hbody]

/--
A comma, a brace and an escaped quote inside a string stay; the key before it gets its quotes and the
comma after it is dropped.
-/
theorem repair_spares_strings_between_edits
    : IsLiteral "\",\x7d\\\"\"".toList
      ∧ (segments "\x7ba: \",\x7d\\\"\", \x7d".toList).flatMap Segment.chars
        = "\x7ba: \",\x7d\\\"\", \x7d".toList
      ∧ repair "\x7ba: \",\x7d\\\"\", \x7d".toList = "\x7b\"a\": \",\x7d\\\"\" \x7d".toList := by
  have hspares := repair_spares_strings "\x7ba: \",\x7d\\\"\", \x7d".toList
  have hsegments : segments "\x7ba: \",\x7d\\\"\", \x7d".toList
      = [⟨false, "\x7ba: ".toList⟩] ++ ⟨true, "\",\x7d\\\"\"".toList⟩
        :: [⟨false, ", \x7d".toList⟩] := by
    decide
  have hbefore : IsClosed "\x7ba: ".toList :=
    .plain rfl (.plain rfl (.plain rfl (.plain rfl .nil)))
  have hbody : IsBetween '"' ",\x7d\\\"".toList :=
    .char (by decide) (by decide) (.char (by decide) (by decide) (.pair '"' .nil))
  refine ⟨?_, hspares.2.1 (by decide), ?_⟩
  . obtain ⟨_, _, _, _, _, hstring, _⟩ := hspares.1 _ _ _ hsegments
    exact (hstring rfl).resolve_right fun hlast => List.cons_ne_nil _ _ hlast.1
  . rw [hspares.2.2.2 "\x7ba: ".toList ",\x7d\\\"".toList ", \x7d".toList rfl hbefore hbody]
    decide

end Datebook.Relaxed
