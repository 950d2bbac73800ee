import Datebook.Proofs.Mend
import Datebook.Proofs.Reader

/-!
This module contains the verification of the repair against the grammar: a text with any of the
liberties becomes a text in the format with the same value, and a text in the format stays as it is.
-/

namespace Datebook.Relaxed

open Json

def Mends (text text' : List Char) : Prop :=
  ∀ s, mend (text ++ s) = text' ++ mend s

def MendsBetween (opener : Char → Prop) (text text' : List Char) : Prop :=
  ∀ o c s, opener o → IsDelimiter c →
    mend (o :: (text ++ c :: s)) = o :: (text' ++ mend (c :: s))

namespace Mends

variable {text text' more more' : List Char}

theorem append (h : Mends text text') (hmore : Mends more more')
    : Mends (text ++ more) (text' ++ more') := by
  intro s
  rw [List.append_assoc, h, hmore, List.append_assoc]

theorem gap (h : IsGap text) : Mends text text := by
  apply mend_plains
  intro c hc
  have hblank := h.isBlank c hc
  refine ⟨?_, ne_of_isBlank hblank (by decide), ne_of_isBlank hblank (by decide)⟩
  exact not_isQuote_of (q := Text.isBlank) rfl rfl hblank

theorem numeral {n : Numeral} (h : IsNumeral text n) : Mends text text := by
  apply mend_plains
  apply h.forall_mem (P := fun c => isQuote c = false ∧ c ≠ '{' ∧ c ≠ ',')
  . intro c hc
    have hstarts : StartsNumeral c := .inr hc
    refine ⟨?_, hstarts.ne (by decide), hstarts.ne (by decide)⟩
    rw [Bool.eq_false_iff]
    intro hquote
    cases eq_of_isQuote hquote with
    | inl hquote => exact hstarts.ne (by decide) hquote
    | inr hquote => exact hstarts.ne (by decide) hquote
  . exact forall_mem_of_all (by decide)

end Mends

/--
Every text of a form becomes a text of another form, with the same meaning; in the format itself it
stays as it is.
-/
def IsMended {α : Type} (d : Dialect) (mends : List Char → List Char → Prop) (form form' : Form α)
    : Prop :=
  ∀ text a, form text a → ∃ text', form' text' a ∧ (d = .strict → text' = text) ∧ mends text text'

variable {d : Dialect}

theorem isMended_padded {α : Type} {form form' : Form α} (hform : IsMended d Mends form form')
    : IsMended d Mends (Padded form) (Padded form') := by
  intro text a ⟨before, core, after, hbefore, hcore, hafter, htext⟩
  obtain ⟨core', hcore', hsame, hmends⟩ := hform core a hcore
  refine ⟨_, ⟨before, core', after, hbefore, hcore', hafter, rfl⟩, ?_, ?_⟩
  . intro hd
    rw [htext, hsame hd]
  . rw [htext]
    exact (Mends.gap hbefore).append (hmends.append (.gap hafter))

theorem isMended_isString : IsMended d Mends (IsString d) (IsString .strict) := by
  have hquoted {q : Char} (hq : isQuote q = true) {body s : List Char} (h : SpellsAll q body s)
      : ∃ text', IsString .strict text' (String.ofList s)
          ∧ (q = '"' → text' = q :: (body ++ [q])) ∧ Mends (q :: (body ++ [q])) text' := by
    obtain ⟨body', hbody, hsame, hmends⟩ := exists_mend_string hq h
    refine ⟨_, .double hbody, ?_, ?_⟩
    . intro hdouble
      rw [hsame hdouble, hdouble]
    . intro t
      rw [List.cons_append, List.append_assoc, List.singleton_append, hmends]
      simp only [List.cons_append, List.append_assoc, List.nil_append]
  intro text s h
  cases h with
  | double h =>
    obtain ⟨text', htext, hsame, hmends⟩ := hquoted rfl h
    exact ⟨text', htext, fun _ => hsame rfl, hmends⟩
  | single hd h =>
    obtain ⟨text', htext, -, hmends⟩ := hquoted rfl h
    refine ⟨text', htext, ?_, hmends⟩
    rintro rfl
    exact absurd hd not_false

theorem isMended_isScalar : IsMended d Mends (IsScalar d) (IsScalar .strict) := by
  intro text v h
  cases h with
  | null => exact ⟨_, .null, fun _ => rfl, mend_plains (forall_mem_of_all (by decide))⟩
  | yes => exact ⟨_, .yes, fun _ => rfl, mend_plains (forall_mem_of_all (by decide))⟩
  | no => exact ⟨_, .no, fun _ => rfl, mend_plains (forall_mem_of_all (by decide))⟩
  | number hnumeral hvalue => exact ⟨_, .number hnumeral hvalue, fun _ => rfl, .numeral hnumeral⟩
  | text h =>
    obtain ⟨text', htext, hsame, hmends⟩ := isMended_isString text _ h
    exact ⟨text', .text htext, hsame, hmends⟩

section LookAhead

variable {gap text : List Char}

theorem startsClosing_gap (hgap : IsGap gap) (s : List Char)
    : startsClosing (gap ++ s) = startsClosing s := by
  unfold startsClosing
  rw [List.dropWhile_append_of_pos hgap.isBlank]

theorem startsBareKey_gap (hgap : IsGap gap) (s : List Char)
    : startsBareKey (gap ++ s) = startsBareKey s := by
  unfold startsBareKey
  rw [List.dropWhile_append_of_pos hgap.isBlank]

theorem startsClosing_opening (h : IsOpening text) (s : List Char)
    : startsClosing (text ++ s) = false := by
  obtain ⟨c, rest, rfl, hblank, hbracket, hbrace⟩ := h
  rw [startsClosing, List.cons_append, List.dropWhile_cons_of_neg (by simp [hblank])]
  simp [hbracket, hbrace]

theorem startsBareKey_cons {c : Char} (hblank : Text.isBlank c = false) (hc : isKeyStart c = false)
    (s : List Char) : startsBareKey (c :: s) = false := by
  rw [startsBareKey, List.dropWhile_cons_of_neg (by simp [hblank])]
  simp [hc]

def IsKeyless (text : List Char) : Prop :=
  ∀ gap c s, IsGap gap → IsDelimiter c → startsBareKey (text ++ (gap ++ c :: s)) = false

theorem isKeyless_cons {c : Char} (hblank : Text.isBlank c = false) (hc : isKeyStart c = false)
    (rest : List Char) : IsKeyless (c :: rest) :=
  fun _ _ _ _ _ => startsBareKey_cons hblank hc _

theorem not_isKeyChar_of_isBlank {c : Char} (h : Text.isBlank c = true) : isKeyChar c = false := by
  rw [Bool.eq_false_iff]
  intro hkey
  rw [isBlank_of_isKeyChar hkey] at h
  cases h

theorem isKeyless_word {c : Char} {rest : List Char} (hblank : Text.isBlank c = false)
    (hrest : ∀ x ∈ rest, isKeyChar x = true) : IsKeyless (c :: rest) := by
  intro gap x s hgap hx
  have hdelimiter : Text.isBlank x = false ∧ isKeyChar x = false ∧ x ≠ ':' := by
    obtain rfl | rfl | rfl := hx
    all_goals decide
  have hend : (gap ++ x :: s).dropWhile isKeyChar = gap ++ x :: s := by
    cases gap with
    | nil => exact List.dropWhile_cons_of_neg (by simp [hdelimiter.2.1])
    | cons g gap =>
      have hg := not_isKeyChar_of_isBlank (hgap.isBlank g List.mem_cons_self)
      exact List.dropWhile_cons_of_neg (by simp [hg])
  rw [startsBareKey, List.cons_append, List.dropWhile_cons_of_neg (by simp [hblank])]
  dsimp only
  rw [List.dropWhile_append_of_pos hrest, hend, List.dropWhile_append_of_pos hgap.isBlank,
    List.dropWhile_cons_of_neg (by simp [hdelimiter.1])]
  simp [hdelimiter.2.2]

theorem not_isKeyStart_of_startsNumeral {c : Char} (h : StartsNumeral c) : isKeyStart c = false := by
  rw [Bool.eq_false_iff]
  intro hstart
  simp only [isKeyStart, Bool.or_eq_true, Bool.and_eq_true, decide_eq_true_eq] at hstart
  have hsmall : c.toNat ≤ 57 := by
    cases h with
    | inl h => rw [h]; decide
    | inr h => exact h.2
  obtain ((hstart | hstart) | hstart) | hstart := hstart
  . have hlarge : 65 ≤ c.toNat := hstart.1
    omega
  . have hlarge : 97 ≤ c.toNat := hstart.1
    omega
  . exact h.ne (by decide) hstart
  . rw [hstart] at h
    revert h
    unfold StartsNumeral
    decide

theorem startsBareKey_string {s : String} (h : IsString d text s) (t : List Char)
    : startsBareKey (text ++ t) = false := by
  cases h with
  | double => exact startsBareKey_cons (by decide) (by decide) _
  | single => exact startsBareKey_cons (by decide) (by decide) _

theorem IsScalar.isKeyless {v : Value} (h : IsScalar d text v) : IsKeyless text := by
  cases h with
  | null => exact isKeyless_word (by decide) (forall_mem_of_all (by decide))
  | yes => exact isKeyless_word (by decide) (forall_mem_of_all (by decide))
  | no => exact isKeyless_word (by decide) (forall_mem_of_all (by decide))
  | number h =>
    obtain ⟨c, rest, rfl, hc⟩ := h.exists_head
    exact isKeyless_cons hc.isBlank (not_isKeyStart_of_startsNumeral hc) rest
  | text h =>
    cases h with
    | double => exact isKeyless_cons (by decide) (by decide) _
    | single => exact isKeyless_cons (by decide) (by decide) _

theorem IsContainer.isKeyless {inner : Form Value} {v : Value} (h : IsContainer d inner text v)
    : IsKeyless text := by
  cases h with
  | noItems => exact isKeyless_cons (by decide) (by decide) _
  | items => exact isKeyless_cons (by decide) (by decide) _
  | noFields => exact isKeyless_cons (by decide) (by decide) _
  | fields => exact isKeyless_cons (by decide) (by decide) _

theorem Renders.isKeyless {depth : Nat} {v : Value} (h : Renders d depth text v) : IsKeyless text := by
  cases depth with
  | zero => exact IsScalar.isKeyless h
  | succ depth =>
    cases h with
    | inl h => exact IsScalar.isKeyless h
    | inr h => exact IsContainer.isKeyless h

end LookAhead

theorem mend_delimiter {c : Char} (hc : c = ']' ∨ c = '}') (s : List Char)
    : mend (c :: s) = c :: mend s := by
  obtain rfl | rfl := hc
  . exact mend_plain rfl (by decide) (by decide) s
  . exact mend_plain rfl (by decide) (by decide) s

def OpensItem (o : Char) : Prop := o = '[' ∨ o = ','

def OpensField (o : Char) : Prop := o = '{' ∨ o = ','

theorem mend_opener {o : Char} (ho : OpensItem o ∨ OpensField o) {s : List Char}
    (hkey : startsBareKey s = false) (hclosing : startsClosing s = false)
    : mend (o :: s) = o :: mend s := by
  obtain (rfl | rfl) | rfl | rfl := ho
  . exact mend_plain rfl (by decide) (by decide) s
  . exact mend_comma hkey hclosing
  . exact mend_brace hkey
  . exact mend_comma hkey hclosing

section Containers

variable {inner inner' : Form Value}

theorem isMended_item (hinner : IsMended d Mends inner inner')
    (hopening : ∀ text v, inner text v → IsOpening text ∧ IsKeyless text)
    : IsMended d (MendsBetween OpensItem) (Padded inner) (Padded inner') := by
  intro text v h
  obtain ⟨text', htext', hsame, hmends⟩ := isMended_padded hinner text v h
  obtain ⟨before, core, after, hbefore, hcore, hafter, htext⟩ := h
  obtain ⟨hopen, hkeyless⟩ := hopening core v hcore
  refine ⟨text', htext', hsame, ?_⟩
  intro o c s ho hc
  have hsplit : text ++ c :: s = before ++ (core ++ (after ++ c :: s)) := by
    rw [htext, List.append_assoc, List.append_assoc]
  rw [mend_opener (.inl ho), hmends]
  . rw [hsplit, startsBareKey_gap hbefore, hkeyless after c s hafter hc]
  . rw [hsplit, startsClosing_gap hbefore, startsClosing_opening hopen]

theorem spellsAll_of_isKeyChar {key : List Char} (h : ∀ c ∈ key, isKeyChar c = true)
    : SpellsAll '"' key key := by
  apply SpellsAll.of_plain
  intro c hc
  refine ⟨Nat.le_trans (by decide) (range_of_isKeyChar (h c hc)).1, ?_, ?_⟩
  . rintro rfl
    cases h _ hc
  . rintro rfl
    cases h _ hc

theorem mend_colon (s : List Char) : mend (':' :: s) = ':' :: mend s :=
  mend_plain rfl (by decide) (by decide) s

theorem exists_mend_key {key : List Char} {name : String} (h : Padded (IsKey d) key name)
    : ∃ key', Padded (IsKey .strict) key' name ∧ (d = .strict → key' = key)
        ∧ ∀ o s, OpensField o → mend (o :: (key ++ ':' :: s)) = o :: (key' ++ ':' :: mend s) := by
  obtain ⟨before, core, after, hbefore, hcore, hafter, hkey⟩ := h
  cases hcore with
  | quoted hstring =>
    have hpadded : Padded (IsString d) key name := ⟨before, core, after, hbefore, hstring, hafter, hkey⟩
    obtain ⟨key', hkey', hsame, hmends⟩ := isMended_padded isMended_isString key name hpadded
    refine ⟨key', hkey'.mono fun _ _ => .quoted, hsame, ?_⟩
    intro o s ho
    have hsplit : key ++ ':' :: s = before ++ (core ++ (after ++ ':' :: s)) := by
      rw [hkey, List.append_assoc, List.append_assoc]
    rw [mend_opener (.inr ho), hmends, mend_colon]
    . rw [hsplit, startsBareKey_gap hbefore, startsBareKey_string hstring]
    . rw [hsplit, startsClosing_gap hbefore, startsClosing_opening hstring.isOpening]
  | @bare k rest hd hstart hrest =>
    have hbare : IsBareKey before k rest after :=
      ⟨hbefore.isBlank, isKeyStart_iff.mpr hstart, fun c hc => isKeyChar_iff.mpr (hrest c hc),
        hafter.isBlank⟩
    have hspells : SpellsAll '"' (k :: rest) (k :: rest) :=
      spellsAll_of_isKeyChar (List.forall_mem_cons.mpr ⟨hbare.isKeyChar_first, hbare.key⟩)
    refine ⟨_, ⟨before, _, after, hbefore, .quoted (.double hspells), hafter, rfl⟩, ?_, ?_⟩
    . rintro rfl
      exact absurd hd not_false
    . intro o s ho
      have hmend := hbare.mend ho s
      rw [hkey]
      simp only [List.append_assoc, List.cons_append, List.nil_append] at hmend ⊢
      exact hmend

theorem isMended_field (hinner : IsMended d Mends inner inner')
    : IsMended d (MendsBetween OpensField) (IsField d inner) (IsField .strict inner') := by
  intro text field ⟨key, value, hkey, hvalue, htext⟩
  obtain ⟨key', hkey', hsameKey, hmendKey⟩ := exists_mend_key hkey
  obtain ⟨value', hvalue', hsame, hmends⟩ := isMended_padded hinner value field.2 hvalue
  refine ⟨key' ++ ':' :: value', ⟨key', value', hkey', hvalue', rfl⟩, ?_, ?_⟩
  . intro hd
    rw [htext, hsameKey hd, hsame hd]
  . intro o c s ho _
    rw [htext, List.append_assoc, List.cons_append, hmendKey o (value ++ c :: s) ho, hmends,
      List.append_assoc, List.cons_append]

theorem exists_mend_series {α : Type} {item item' : Form α} {opener : Char → Prop} {close : Char}
    (hitem : IsMended d (MendsBetween opener) item item') (habsorbs : AbsorbsGaps item')
    (hcomma : opener ',') (hclose : close = ']' ∨ close = '}') {body : List Char} {as : List α}
    (h : IsSeries d item body as)
    : ∃ body', IsSeries .strict item' body' as ∧ (d = .strict → body' = body)
        ∧ ∀ o s, opener o →
          mend (o :: (body ++ close :: s)) = o :: (body' ++ close :: mend s) := by
  induction h with
  | @last text tail a hlast htail =>
    obtain ⟨text', htext, hsame, hmends⟩ := hitem text a hlast
    cases htail with
    | inl htail =>
      rw [htail]
      refine ⟨text' ++ [], .last htext (.inl rfl), ?_, ?_⟩
      . intro hd
        rw [hsame hd]
      . intro o s ho
        rw [List.append_nil, List.append_nil, hmends o close s ho (.inr hclose),
          mend_delimiter hclose]
    | inr htail =>
      obtain ⟨hd, gap, hgap, rfl⟩ := htail
      refine ⟨text' ++ gap ++ [], .last (habsorbs.after hgap htext) (.inl rfl), ?_, ?_⟩
      . rintro rfl
        exact absurd hd not_false
      . intro o s ho
        have hclosing : startsClosing (gap ++ close :: s) = true := by
          rw [startsClosing_gap hgap]
          obtain rfl | rfl := hclose
          . rfl
          . rfl
        rw [List.append_nil, List.append_assoc, List.cons_append, hmends o ',' _ ho (.inl rfl),
          mend_trailing hclosing, Mends.gap hgap, mend_delimiter hclose, List.append_assoc]
  | @more text body a as hfirst _ ih =>
    obtain ⟨text', htext, hsame, hmends⟩ := hitem text a hfirst
    obtain ⟨body', hbody, hsames, hrest⟩ := ih
    refine ⟨text' ++ ',' :: body', .more htext hbody, ?_, ?_⟩
    . intro hd
      rw [hsame hd, hsames hd]
    . intro o s ho
      rw [List.append_assoc, List.cons_append, hmends o ',' _ ho (.inl rfl), hrest ',' s hcomma,
        List.append_assoc, List.cons_append]

theorem isMended_isContainer (hinner : IsMended d Mends inner inner')
    (hopening : ∀ text v, inner text v → IsOpening text ∧ IsKeyless text)
    : IsMended d Mends (IsContainer d inner) (IsContainer .strict inner') := by
  intro text v h
  cases h with
  | noItems hgap =>
    refine ⟨_, .noItems hgap, fun _ => rfl, ?_⟩
    intro s
    rw [List.cons_append, List.append_assoc, mend_plain rfl (by decide) (by decide),
      Mends.gap hgap, List.singleton_append, mend_delimiter (.inl rfl)]
    simp only [List.cons_append, List.append_assoc, List.nil_append]
  | items hbody =>
    obtain ⟨body', hbody', hsame, hmend⟩ := exists_mend_series (isMended_item hinner hopening)
      absorbsGaps_padded (.inr rfl) (.inl rfl) hbody
    refine ⟨_, .items hbody', ?_, ?_⟩
    . intro hd
      rw [hsame hd]
    . intro s
      rw [List.cons_append, List.append_assoc, List.singleton_append, hmend '[' s (.inl rfl)]
      simp only [List.cons_append, List.append_assoc, List.nil_append]
  | @noFields gap hgap =>
    refine ⟨_, .noFields hgap, fun _ => rfl, ?_⟩
    intro s
    have hclosing : startsClosing (gap ++ '}' :: s) = true := by
      rw [startsClosing_gap hgap]
      rfl
    rw [List.cons_append, List.append_assoc, List.singleton_append,
      mend_brace (startsBareKey_of_startsClosing hclosing), Mends.gap hgap,
      mend_delimiter (.inr rfl)]
    simp only [List.cons_append, List.append_assoc, List.nil_append]
  | fields hbody =>
    obtain ⟨body', hbody', hsame, hmend⟩ := exists_mend_series (isMended_field hinner)
      absorbsGaps_isField (.inr rfl) (.inr rfl) hbody
    refine ⟨_, .fields hbody', ?_, ?_⟩
    . intro hd
      rw [hsame hd]
    . intro s
      rw [List.cons_append, List.append_assoc, List.singleton_append, hmend '{' s (.inl rfl)]
      simp only [List.cons_append, List.append_assoc, List.nil_append]

end Containers

theorem isMended_renders (depth : Nat)
    : IsMended d Mends (Renders d depth) (Renders .strict depth) := by
  induction depth with
  | zero => exact isMended_isScalar
  | succ depth ih =>
    intro text v h
    cases h with
    | inl h =>
      obtain ⟨text', htext, hrest⟩ := isMended_isScalar text v h
      exact ⟨text', .inl htext, hrest⟩
    | inr h =>
      have hopening (text : List Char) (v : Value) (h : Renders d depth text v)
          : IsOpening text ∧ IsKeyless text := ⟨h.isOpening, Renders.isKeyless h⟩
      obtain ⟨text', htext, hrest⟩ := isMended_isContainer ih hopening text v h
      exact ⟨text', .inr htext, hrest⟩

/--
The repair of a written map is a written form of it in the format, and is the text itself, but for the
gaps around it, if this was in the format.
-/
theorem renders_repair {depth : Nat} {text : List Char} {fields : Fields}
    (h : Padded (Renders d depth) text (.map fields))
    : Renders .strict depth (repair text) (.map fields)
        ∧ (d = .strict → repair text = Text.trim text) := by
  obtain ⟨before, core, after, hbefore, hcore, hafter, htext⟩ := h
  have htrim : Text.trim text = core := by
    obtain ⟨inner, rfl⟩ := hcore.exists_braces
    rw [htext]
    exact Text.trim_framed hbefore.isBlank hafter.isBlank rfl rfl inner
  obtain ⟨core', hcore', hsame, hmends⟩ := isMended_renders depth core _ hcore
  have hrepair : repair text = core' := by
    have hend := hmends []
    rw [List.append_nil] at hend
    rw [repair_eq_mend, htrim, hend]
    exact List.append_nil core'
  rw [hrepair, htrim]
  exact ⟨hcore', hsame⟩

theorem strict?_repair {text : List Char} {fields : Fields}
    (h : Padded (Renders d Limits.strict.depth) text (.map fields))
    : strict? (repair text) = some (.map fields) := by
  rw [strict?_eq_some_iff]
  exact .of_core (renders_repair h).1

/--
A map that is written with any of the liberties, in any way and with any gaps, has its value after the
repair. A map in the format stays as it is, but for the gaps around it.
-/
theorem repair_inverts_renderings
    : (∀ text fields, Padded (Renders .relaxed Limits.strict.depth) text (.map fields)
          → strict? (repair text) = some (.map fields))
        ∧ ∀ text fields, strict? text = some (.map fields) → repair text = Text.trim text := by
  constructor
  . intro text fields h
    exact strict?_repair h
  . intro text fields h
    rw [strict?_eq_some_iff] at h
    exact (renders_repair h).2 rfl

def sample : String := "\x7bkind : 'list', \"q-1\": ['\"\\'\"', null , ],\x7d"

def sampleFields : Fields := [("kind", .text "list"), ("q-1", .list [.text "\"'\"", .null])]

theorem renders_sample (hfirst : d.apostrophes ['l', 'i', 's', 't'])
    (hsecond : d.apostrophes ['"', '\\', '\'', '"']) (hbare : d.bareKeys) (htrailing : d.trailingCommas)
    : Renders d Limits.strict.depth sample.toList (.map sampleFields) := by
  have hspace : IsGap [' '] := forall_mem_of_all (by decide)
  have htail : IsTail d [',', ' '] := .inr ⟨htrailing, [' '], hspace, rfl⟩
  have hlist : IsString d "'list'".toList "list" := .single_of_plain hfirst (forall_mem_of_all (by decide))
  have hquoted : IsString d "'\"\\'\"'".toList "\"'\"" :=
    .single hsecond (.cons (.plain (by decide) (by decide) (by decide)) (.cons (.apostrophe rfl)
      (.cons (.plain (by decide) (by decide) (by decide)) .nil)))
  have hkey : IsString d "\"q-1\"".toList "q-1" :=
    .double_of_plain (s := ['q', '-', '1']) (forall_mem_of_all (by decide))
  have hkind : IsField d (Renders d 1023) "kind : 'list'".toList ("kind", .text "list") :=
    ⟨_, _, ⟨[], _, [' '], .nil, .bare hbare (by decide) (forall_mem_of_all (by decide)), hspace, rfl⟩,
      ⟨[' '], _, [], hspace, .inl (.text hlist), .nil, rfl⟩, by decide⟩
  have hnull : Padded (Renders d 1022) " null ".toList .null :=
    ⟨[' '], _, [' '], hspace, .inl .null, hspace, rfl⟩
  have hitems : IsSeries d (Padded (Renders d 1022)) "'\"\\'\"', null , ".toList
      [.text "\"'\"", .null] :=
    .more (.of_core (.inl (.text hquoted))) (.last hnull htail)
  have hfield : IsField d (Renders d 1023) " \"q-1\": ['\"\\'\"', null , ]".toList
      ("q-1", .list [.text "\"'\"", .null]) :=
    .spaced hspace (.quoted hkey) (.inr (.items hitems)) (by decide)
  have hbody : IsSeries d (IsField d (Renders d 1023))
      "kind : 'list', \"q-1\": ['\"\\'\"', null , ],".toList sampleFields :=
    .more hkind (.last hfield (.inr ⟨htrailing, [], .nil, rfl⟩))
  exact .inr (.fields hbody)

theorem repair_inverts_sample
    : (Padded (Renders .relaxed Limits.strict.depth) sample.toList (.map sampleFields)
        ∧ strict? (repair sample.toList) = some (.map sampleFields))
      ∧ repair (repair sample.toList) = Text.trim (repair sample.toList) := by
  have hsample : Padded (Renders .relaxed Limits.strict.depth) sample.toList (.map sampleFields) :=
    .of_core (renders_sample trivial trivial trivial trivial)
  have hstrict := repair_inverts_renderings.1 _ _ hsample
  exact ⟨⟨hsample, hstrict⟩, repair_inverts_renderings.2 _ _ hstrict⟩

end Datebook.Relaxed
