import Datebook.Proofs.Grammar

/-!
This module contains the rules of the repair: what it does with the token at which a text starts, and
how little of the text after that token it depends on. From these a repair can be followed token by
token, without the cut into runs.
-/

namespace Datebook.Relaxed

open Text (isBlank)

def mend (s : List Char) : List Char :=
  dropCommas (quoteKeys .outside (cut none s).1) ++ (cut none s).2.flatMap Segment.repaired

theorem flatMap_plain (chars : List Char) (more : List Segment)
    : (plain chars more).flatMap Segment.repaired
        = dropCommas (quoteKeys .outside chars) ++ more.flatMap Segment.repaired := by
  unfold plain
  split
  . next hempty =>
    rw [List.isEmpty_iff.mp hempty]
    rfl
  . rfl

theorem repair_eq_mend (s : List Char) : repair s = mend (Text.trim s) :=
  flatMap_plain _ _

section LookAhead

/-!
The run in which a comma or a brace stands ends at the next quote, and the keys after it are edited
before the commas are. Neither changes what the edits see ahead.
-/

theorem fst_cut_none (s : List Char) : (cut none s).1 = s.takeWhile (!isQuote ·) := by
  induction s with
  | nil => rfl
  | cons c s ih =>
    rw [cut]
    split
    . next hquote => rw [List.takeWhile_cons_of_neg (by simp [hquote])]
    . next hquote =>
      rw [List.takeWhile_cons_of_pos (by simp [hquote])]
      exact congrArg (c :: ·) ih

theorem eq_of_isQuote {c : Char} (h : isQuote c = true) : c = '"' ∨ c = '\'' := by
  simpa [isQuote] using h

theorem ne_slash_of_isQuote {q : Char} (hq : isQuote q = true) : q ≠ '\\' := by
  rintro rfl
  cases hq

theorem cut_closing {q : Char} (hq : isQuote q = true) (s : List Char)
    : cut (some q) (q :: s) = (['"'], segments s) := by
  simp [cut, segments, ne_slash_of_isQuote hq]

section

variable {q : Char → Bool} (hdouble : q '"' = false) (hsingle : q '\'' = false)

include hdouble hsingle

theorem not_isQuote_of {c : Char} (h : q c = true) : isQuote c = false := by
  rw [Bool.eq_false_iff]
  intro hquote
  obtain rfl | rfl := eq_of_isQuote hquote
  . rw [hdouble] at h
    cases h
  . rw [hsingle] at h
    cases h

theorem dropWhile_takeWhile (s : List Char)
    : (s.takeWhile (!isQuote ·)).dropWhile q = (s.dropWhile q).takeWhile (!isQuote ·) := by
  induction s with
  | nil => rfl
  | cons c s ih =>
    cases hq : q c with
    | true =>
      have hquote := not_isQuote_of hdouble hsingle hq
      rw [List.takeWhile_cons_of_pos (by simp [hquote]), List.dropWhile_cons_of_pos hq,
        List.dropWhile_cons_of_pos hq, ih]
    | false =>
      rw [List.dropWhile_cons_of_neg (by simp [hq])]
      cases hquote : isQuote c with
      | true =>
        rw [List.takeWhile_cons_of_neg (by simp [hquote])]
        rfl
      | false =>
        rw [List.takeWhile_cons_of_pos (by simp [hquote]), List.dropWhile_cons_of_neg (by simp [hq])]

end

theorem startsBareKey_cut (s : List Char) : startsBareKey (cut none s).1 = startsBareKey s := by
  rw [fst_cut_none]
  unfold startsBareKey
  rw [dropWhile_takeWhile (q := isBlank) rfl rfl]
  cases s.dropWhile isBlank with
  | nil => rfl
  | cons c rest =>
    cases hquote : isQuote c with
    | true =>
      rw [List.takeWhile_cons_of_neg (by simp [hquote])]
      obtain rfl | rfl := eq_of_isQuote hquote
      . rfl
      . rfl
    | false =>
      rw [List.takeWhile_cons_of_pos (by simp [hquote])]
      dsimp only
      rw [dropWhile_takeWhile (q := isKeyChar) rfl rfl, dropWhile_takeWhile (q := isBlank) rfl rfl,
        List.head?_takeWhile]
      cases hhead : ((rest.dropWhile isKeyChar).dropWhile isBlank).head? with
      | none => rfl
      | some d =>
        cases hd : isQuote d with
        | false => simp [Option.filter, hd]
        | true =>
          obtain rfl | rfl := eq_of_isQuote hd
          . rfl
          . rfl

theorem startsClosing_cut (s : List Char) : startsClosing (cut none s).1 = startsClosing s := by
  rw [fst_cut_none]
  unfold startsClosing
  rw [dropWhile_takeWhile (q := isBlank) rfl rfl]
  cases s.dropWhile isBlank with
  | nil => rfl
  | cons c rest =>
    cases hquote : isQuote c with
    | true =>
      rw [List.takeWhile_cons_of_neg (by simp [hquote])]
      obtain rfl | rfl := eq_of_isQuote hquote
      . rfl
      . rfl
    | false => rw [List.takeWhile_cons_of_pos (by simp [hquote])]

theorem ne_of_isBlank {c x : Char} (h : isBlank c = true) (hx : isBlank x = false) : c ≠ x := by
  rintro rfl
  rw [h] at hx
  cases hx

theorem quoteKeys_cons {c : Char} (hopen : c ≠ '{') (hcomma : c ≠ ',') (s : List Char)
    : quoteKeys .outside (c :: s) = c :: quoteKeys .outside s := by
  rw [quoteKeys, if_neg]
  rintro ⟨hc | hc, -⟩
  . exact hopen hc
  . exact hcomma hc

theorem startsClosing_quoteKeys (s : List Char)
    : startsClosing (quoteKeys .outside s) = startsClosing s := by
  induction s with
  | nil => rfl
  | cons c s ih =>
    cases hblank : isBlank c with
    | true =>
      rw [quoteKeys_cons (ne_of_isBlank hblank (by decide)) (ne_of_isBlank hblank (by decide))]
      unfold startsClosing at ih ⊢
      rw [List.dropWhile_cons_of_pos hblank, List.dropWhile_cons_of_pos hblank]
      exact ih
    | false =>
      have hneg : ¬ isBlank c = true := by
        rw [hblank]
        exact Bool.false_ne_true
      obtain ⟨out, hout⟩ : ∃ out, quoteKeys .outside (c :: s) = c :: out := by
        rw [quoteKeys]
        split
        . exact ⟨_, rfl⟩
        . exact ⟨_, rfl⟩
      unfold startsClosing
      rw [hout, List.dropWhile_cons_of_neg hneg, List.dropWhile_cons_of_neg hneg]

end LookAhead

section Rules

variable {c : Char}

theorem mend_cons {s : List Char} (hquote : isQuote c = false) (hcomma : c ≠ ',')
    (hkeys : quoteKeys .outside (c :: (cut none s).1) = c :: quoteKeys .outside (cut none s).1)
    : mend (c :: s) = c :: mend s := by
  unfold mend
  rw [cut, hquote, if_neg Bool.false_ne_true]
  dsimp only
  rw [hkeys, dropCommas, if_neg, List.cons_append]
  intro hdropped
  exact hcomma hdropped.1

theorem mend_plain (hquote : isQuote c = false) (hopen : c ≠ '{') (hcomma : c ≠ ',') (s : List Char)
    : mend (c :: s) = c :: mend s :=
  mend_cons hquote hcomma (quoteKeys_cons hopen hcomma _)

theorem mend_plains {text : List Char}
    (htext : ∀ c ∈ text, isQuote c = false ∧ c ≠ '{' ∧ c ≠ ',') (s : List Char)
    : mend (text ++ s) = text ++ mend s := by
  induction text with
  | nil => rfl
  | cons c text ih =>
    rw [List.forall_mem_cons] at htext
    obtain ⟨⟨hquote, hopen, hcomma⟩, htext⟩ := htext
    rw [List.cons_append, mend_plain hquote hopen hcomma, ih htext, List.cons_append]

theorem mend_brace {s : List Char} (hkey : startsBareKey s = false)
    : mend ('{' :: s) = '{' :: mend s := by
  apply mend_cons rfl (by decide)
  rw [quoteKeys, startsBareKey_cut, hkey, if_neg nofun]

theorem exists_mend_brace (s : List Char) : ∃ t, mend ('{' :: s) = '{' :: t := by
  unfold mend
  rw [cut, if_neg (by decide), quoteKeys]
  split
  . rw [dropCommas, if_neg (by simp), List.cons_append]
    exact ⟨_, rfl⟩
  . rw [dropCommas, if_neg (by simp), List.cons_append]
    exact ⟨_, rfl⟩

theorem exists_repair_brace (s : List Char) : ∃ t, repair ('{' :: s) = '{' :: t := by
  have htrim : Text.trim ('{' :: s) = '{' :: Text.trimEnd s := Text.trimEnd_cons_of_not_blank rfl s
  rw [repair_eq_mend, htrim]
  exact exists_mend_brace _

theorem mend_comma {s : List Char} (hkey : startsBareKey s = false) (hclosing : startsClosing s = false)
    : mend (',' :: s) = ',' :: mend s := by
  unfold mend
  rw [cut, if_neg (by decide)]
  dsimp only
  rw [quoteKeys, startsBareKey_cut, hkey, if_neg nofun, dropCommas, startsClosing_quoteKeys,
    startsClosing_cut, hclosing, if_neg nofun]
  rfl

theorem startsBareKey_of_startsClosing {s : List Char} (h : startsClosing s = true)
    : startsBareKey s = false := by
  unfold startsClosing at h
  unfold startsBareKey
  cases hs : s.dropWhile isBlank with
  | nil => rfl
  | cons d rest =>
    rw [hs] at h
    simp only [Bool.or_eq_true, decide_eq_true_eq] at h
    obtain rfl | rfl := h
    . rfl
    . rfl

theorem mend_trailing {s : List Char} (hclosing : startsClosing s = true)
    : mend (',' :: s) = mend s := by
  unfold mend
  rw [cut, if_neg (by decide)]
  dsimp only
  rw [quoteKeys, startsBareKey_cut, startsBareKey_of_startsClosing hclosing, if_neg nofun, dropCommas,
    startsClosing_quoteKeys, startsClosing_cut, hclosing, if_pos ⟨rfl, rfl⟩]

end Rules

section Keys

theorem dropCommas_append {out : List Char} (hout : ',' ∉ out) (s : List Char)
    : dropCommas (out ++ s) = out ++ dropCommas s := by
  induction out with
  | nil => rfl
  | cons c out ih =>
    rw [List.mem_cons, not_or] at hout
    rw [List.cons_append, dropCommas, if_neg, ih hout.2, List.cons_append]
    intro hcomma
    exact hout.1 hcomma.1.symm

theorem cut_none_append {text : List Char} (htext : ∀ c ∈ text, isQuote c = false) (s : List Char)
    : cut none (text ++ s) = (text ++ (cut none s).1, (cut none s).2) := by
  induction text with
  | nil => rfl
  | cons c text ih =>
    rw [List.forall_mem_cons] at htext
    rw [List.cons_append, cut, htext.1, if_neg Bool.false_ne_true, ih htext.2]
    rfl

theorem quoteKeys_append {text : List Char} (htext : ∀ c ∈ text, c ≠ '{' ∧ c ≠ ',') (s : List Char)
    : quoteKeys .outside (text ++ s) = text ++ quoteKeys .outside s := by
  induction text with
  | nil => rfl
  | cons c text ih =>
    rw [List.forall_mem_cons] at htext
    rw [List.cons_append, quoteKeys_cons htext.1.1 htext.1.2, ih htext.2, List.cons_append]

theorem quoteKeys_before {gap : List Char} {k : Char} (hgap : ∀ c ∈ gap, isBlank c = true)
    (hk : isBlank k = false) (s : List Char)
    : quoteKeys .before (gap ++ k :: s) = gap ++ '"' :: k :: quoteKeys .inside s := by
  induction gap with
  | nil => rw [List.nil_append, quoteKeys, hk, if_neg Bool.false_ne_true, List.nil_append]
  | cons c gap ih =>
    rw [List.forall_mem_cons] at hgap
    rw [List.cons_append, quoteKeys, if_pos hgap.1, ih hgap.2, List.cons_append]

theorem quoteKeys_inside {key : List Char} {d : Char} (hkey : ∀ c ∈ key, isKeyChar c = true)
    (hd : isKeyChar d = false) (s : List Char)
    : quoteKeys .inside (key ++ d :: s) = key ++ '"' :: d :: quoteKeys .outside s := by
  induction key with
  | nil => rw [List.nil_append, quoteKeys, hd, if_neg Bool.false_ne_true, List.nil_append]
  | cons c key ih =>
    rw [List.forall_mem_cons] at hkey
    rw [List.cons_append, quoteKeys, if_pos hkey.1, ih hkey.2, List.cons_append]

theorem range_of_isKeyChar {c : Char} (h : isKeyChar c = true) : 0x21 ≤ c.toNat ∧ c.toNat ≤ 0x7a := by
  simp only [isKeyChar, isKeyStart, Bool.or_eq_true, Bool.and_eq_true, decide_eq_true_eq] at h
  obtain ((((h | h) | rfl) | rfl) | h) | rfl := h
  . exact ⟨Nat.le_trans (by decide) h.1, Nat.le_trans h.2 (by decide)⟩
  . exact ⟨Nat.le_trans (by decide) h.1, h.2⟩
  . decide
  . decide
  . exact ⟨Nat.le_trans (by decide) h.1, Nat.le_trans h.2 (by decide)⟩
  . decide

theorem isBlank_of_isKeyChar {c : Char} (h : isKeyChar c = true) : isBlank c = false := by
  have hrange := range_of_isKeyChar h
  simp only [isBlank, Bool.or_eq_false_iff, Bool.and_eq_false_iff, decide_eq_false_iff_not,
    beq_eq_false_iff_ne]
  omega

/--
A key without quotes, its first character apart, between two runs of blanks and up to the colon.
-/
structure IsBareKey (before : List Char) (first : Char) (key after : List Char) : Prop where
  before : ∀ c ∈ before, isBlank c = true
  first : isKeyStart first = true
  key : ∀ c ∈ key, isKeyChar c = true
  after : ∀ c ∈ after, isBlank c = true

namespace IsBareKey

variable {before key after : List Char} {first : Char} (h : IsBareKey before first key after)

include h

theorem isKeyChar_first : isKeyChar first = true := by
  rw [isKeyChar, h.first]
  rfl

theorem exists_end (s : List Char)
    : ∃ d t, after ++ ':' :: s = d :: t ∧ isKeyChar d = false ∧ d ≠ '{' ∧ d ≠ ',' := by
  cases hafter : after with
  | nil => exact ⟨':', s, rfl, by decide⟩
  | cons d rest =>
    have hblank := h.after d (by rw [hafter]; exact List.mem_cons_self)
    refine ⟨d, rest ++ ':' :: s, rfl, ?_, ne_of_isBlank hblank (by decide),
      ne_of_isBlank hblank (by decide)⟩
    cases hkey : isKeyChar d with
    | false => rfl
    | true => rw [← hblank, isBlank_of_isKeyChar hkey]

theorem startsBareKey (s : List Char)
    : startsBareKey (before ++ first :: (key ++ (after ++ ':' :: s))) = true := by
  obtain ⟨d, t, hend, hd, -⟩ := h.exists_end s
  have hfirst := isBlank_of_isKeyChar h.isKeyChar_first
  have hcolon : (after ++ ':' :: s).dropWhile isBlank = ':' :: s := by
    rw [List.dropWhile_append_of_pos h.after]
    rfl
  rw [Relaxed.startsBareKey, List.dropWhile_append_of_pos h.before,
    List.dropWhile_cons_of_neg (by simp [hfirst])]
  dsimp only
  rw [List.dropWhile_append_of_pos h.key, hend, List.dropWhile_cons_of_neg (by simp [hd]), ← hend,
    hcolon, h.first]
  rfl

theorem quoteKeys_before (s : List Char)
    : quoteKeys .before (before ++ first :: (key ++ (after ++ ':' :: s)))
        = before ++ '"' :: first :: (key ++ '"' :: (after ++ ':' :: quoteKeys .outside s)) := by
  obtain ⟨d, t, hend, hd, hopen, hcomma⟩ := h.exists_end s
  have hcopied : quoteKeys .outside (after ++ ':' :: s) = after ++ ':' :: quoteKeys .outside s := by
    rw [quoteKeys_append, quoteKeys_cons (by decide) (by decide)]
    intro c hc
    exact ⟨ne_of_isBlank (h.after c hc) (by decide), ne_of_isBlank (h.after c hc) (by decide)⟩
  rw [Relaxed.quoteKeys_before h.before (isBlank_of_isKeyChar h.isKeyChar_first), hend,
    quoteKeys_inside h.key hd, ← quoteKeys_cons hopen hcomma, ← hend, hcopied]

theorem forall_mem {P : Char → Prop} (hblank : ∀ c, isBlank c = true → P c)
    (hkey : ∀ c, isKeyChar c = true → P c) (hcolon : P ':')
    : ∀ c ∈ before ++ first :: (key ++ (after ++ [':'])), P c := by
  intro c hc
  rw [List.mem_append, List.mem_cons, List.mem_append, List.mem_append, List.mem_singleton] at hc
  obtain hc | rfl | hc | hc | rfl := hc
  . exact hblank c (h.before c hc)
  . exact hkey c h.isKeyChar_first
  . exact hkey c (h.key c hc)
  . exact hblank c (h.after c hc)
  . exact hcolon

theorem cut_none (s : List Char)
    : cut none (before ++ first :: (key ++ (after ++ ':' :: s)))
        = (before ++ first :: (key ++ (after ++ ':' :: (cut none s).1)), (cut none s).2) := by
  have hsplit (t : List Char) : before ++ first :: (key ++ (after ++ ':' :: t))
      = (before ++ first :: (key ++ (after ++ [':']))) ++ t := by
    simp only [List.append_assoc, List.cons_append, List.nil_append]
  have hquote : ∀ c ∈ before ++ first :: (key ++ (after ++ [':'])), isQuote c = false := by
    apply h.forall_mem (P := fun c => isQuote c = false)
    . intro c hc
      exact not_isQuote_of (q := isBlank) rfl rfl hc
    . intro c hc
      exact not_isQuote_of (q := isKeyChar) rfl rfl hc
    . decide
  rw [hsplit, cut_none_append hquote, ← hsplit]

theorem dropCommas_append (s : List Char)
    : dropCommas (before ++ '"' :: first :: (key ++ '"' :: (after ++ ':' :: s)))
        = before ++ '"' :: first :: (key ++ '"' :: (after ++ ':' :: dropCommas s)) := by
  have hsplit (t : List Char) : before ++ '"' :: first :: (key ++ '"' :: (after ++ ':' :: t))
      = (before ++ '"' :: first :: (key ++ '"' :: (after ++ [':']))) ++ t := by
    simp only [List.append_assoc, List.cons_append, List.nil_append]
  have hcomma : ∀ c ∈ before ++ first :: (key ++ (after ++ [':'])), c ≠ ',' := by
    apply h.forall_mem (P := fun c => c ≠ ',')
    . intro c hc
      exact ne_of_isBlank hc (by decide)
    . rintro c hc rfl
      cases hc
    . decide
  rw [hsplit, Relaxed.dropCommas_append, ← hsplit]
  intro hmem
  apply hcomma ',' _ rfl
  simpa using hmem

theorem mend {o : Char} (ho : o = '{' ∨ o = ',') (s : List Char)
    : Relaxed.mend (o :: (before ++ first :: (key ++ (after ++ ':' :: s))))
        = o :: (before ++ '"' :: first :: (key ++ '"' :: (after ++ ':' :: Relaxed.mend s))) := by
  have hquote : isQuote o = false := by
    obtain rfl | rfl := ho
    . rfl
    . rfl
  -- After the edit of keys a quote stands after the comma, so the comma stays.
  have hclosing (t : List Char) : startsClosing (before ++ '"' :: t) = false := by
    rw [startsClosing, List.dropWhile_append_of_pos h.before]
    rfl
  unfold Relaxed.mend
  rw [cut, hquote, if_neg Bool.false_ne_true]
  dsimp only
  rw [quoteKeys, startsBareKey_cut, h.startsBareKey, if_pos ⟨ho, rfl⟩, h.cut_none]
  dsimp only
  rw [h.quoteKeys_before, dropCommas, hclosing, if_neg nofun, h.dropCommas_append]
  simp only [List.append_assoc, List.cons_append]

end IsBareKey

end Keys

def Rewrites (q : Char) (text text' : List Char) : Prop :=
  ∀ s, cut (some q) (text ++ s) = (text' ++ (cut (some q) s).1, (cut (some q) s).2)

namespace Rewrites

variable {q : Char} {text text' more more' : List Char}

theorem nil : Rewrites q [] [] := fun _ => rfl

theorem append (h : Rewrites q text text') (hmore : Rewrites q more more')
    : Rewrites q (text ++ more) (text' ++ more') := by
  intro s
  rw [List.append_assoc, h, hmore, List.append_assoc]

theorem plain {c : Char} (hslash : c ≠ '\\') (hquote : c ≠ q) (hdouble : c ≠ '"')
    : Rewrites q [c] [c] := by
  intro s
  simp [cut, hslash, hquote, hdouble]

theorem double (hq : q ≠ '"') : Rewrites q ['"'] ['\\', '"'] := by
  intro s
  simp [cut, hq.symm]

theorem escape {e : Char} (he : ¬ (q = '\'' ∧ e = '\'')) : Rewrites q ['\\', e] ['\\', e] := by
  intro s
  simp [cut, he]

theorem apostrophe : Rewrites '\'' ['\\', '\''] ['\''] := fun _ => rfl

theorem hex {c : Char} {n : Nat} (hq : isQuote q = true) (h : Json.hex? c = some n)
    : Rewrites q [c] [c] := by
  apply plain
  . rintro rfl
    cases h
  . rintro rfl
    obtain rfl | rfl := eq_of_isQuote hq
    . cases h
    . cases h
  . rintro rfl
    cases h

theorem unit {a b c d : Char} {u : Nat} (hq : isQuote q = true) (h : Json.unit? a b c d = some u)
    : Rewrites q ['\\', 'u', a, b, c, d] ['\\', 'u', a, b, c, d] := by
  simp only [Json.unit?, Option.bind_eq_bind, Option.bind_eq_some_iff] at h
  obtain ⟨_, ha, _, hb, _, hc, _, hd, -⟩ := h
  have hslash : Rewrites q ['\\', 'u'] ['\\', 'u'] := escape (by simp)
  exact hslash.append ((hex hq ha).append ((hex hq hb).append ((hex hq hc).append (hex hq hd))))

end Rewrites

theorem exists_rewrites_spells {q c : Char} (hq : isQuote q = true) {text : List Char}
    (h : Json.Spells q text c)
    : ∃ text', Json.Spells '"' text' c ∧ (q = '"' → text' = text) ∧ Rewrites q text text' := by
  cases h with
  | plain hprintable hslash hquote =>
    by_cases hdouble : c = '"'
    . rw [hdouble] at hquote ⊢
      exact ⟨['\\', '"'], .letter (by decide), fun hq => absurd hq.symm hquote, .double hquote.symm⟩
    . exact ⟨[c], .plain hprintable hslash hdouble, fun _ => rfl, .plain hslash hquote hdouble⟩
  | @letter e _ he =>
    refine ⟨['\\', e], .letter he, fun _ => rfl, .escape ?_⟩
    rintro ⟨-, rfl⟩
    rw [← Json.escape?_eq_some_iff] at he
    cases he
  | apostrophe hsingle =>
    rw [hsingle]
    exact ⟨['\''], .plain (by decide) (by decide) (by decide), nofun, .apostrophe⟩
  | unit hunit hhigh hlow =>
    exact ⟨_, .unit hunit hhigh hlow, fun _ => rfl, .unit hq hunit⟩
  | pair hfirst hhigh hsecond hlow =>
    refine ⟨_, .pair hfirst hhigh hsecond hlow, fun _ => rfl, ?_⟩
    exact Rewrites.append (.unit hq hfirst) (.unit hq hsecond)

theorem exists_rewrites {q : Char} (hq : isQuote q = true) {body s : List Char}
    (h : Json.SpellsAll q body s)
    : ∃ body', Json.SpellsAll '"' body' s ∧ (q = '"' → body' = body) ∧ Rewrites q body body' := by
  induction h with
  | nil => exact ⟨[], .nil, fun _ => rfl, .nil⟩
  | cons hc _ ih =>
    obtain ⟨text', htext, hsame, hrewrites⟩ := exists_rewrites_spells hq hc
    obtain ⟨body', hbody, hsames, hmore⟩ := ih
    refine ⟨text' ++ body', .cons htext hbody, ?_, hrewrites.append hmore⟩
    intro hdouble
    rw [hsame hdouble, hsames hdouble]

theorem exists_mend_string {q : Char} (hq : isQuote q = true) {body s : List Char}
    (h : Json.SpellsAll q body s)
    : ∃ body', Json.SpellsAll '"' body' s ∧ (q = '"' → body' = body)
        ∧ ∀ t, mend (q :: (body ++ q :: t)) = '"' :: (body' ++ '"' :: mend t) := by
  obtain ⟨body', hbody, hsame, hrewrites⟩ := exists_rewrites hq h
  refine ⟨body', hbody, hsame, ?_⟩
  intro t
  unfold mend
  rw [cut, if_pos hq, hrewrites, cut_closing hq]
  simp [quoteKeys, dropCommas, Segment.repaired, segments, flatMap_plain]

end Datebook.Relaxed
