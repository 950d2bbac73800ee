import Datebook.Command.Relaxed
import Datebook.Json.Reader
import Datebook.Proofs.Text

/-!
This module contains the grammar of data interchange text, strict or with the liberties that are taken
by those who write it from memory: strings in apostrophes, keys without quotes, and commas after the
last item. It says which texts are written forms of a value, without a reader.
-/

namespace Datebook.Json

abbrev Form (α : Type) := List Char → α → Prop

structure Dialect where
  apostrophes : List Char → Prop
  bareKeys : Prop
  trailingCommas : Prop

def Dialect.strict : Dialect := ⟨fun _ => False, False, False⟩

def Dialect.relaxed : Dialect := ⟨fun _ => True, True, True⟩

def IsSpace (c : Char) : Prop :=
  c = ' ' ∨ c = '\t' ∨ c = '\n' ∨ c = '\r'

instance (c : Char) : Decidable (IsSpace c) :=
  inferInstanceAs (Decidable (c = ' ' ∨ c = '\t' ∨ c = '\n' ∨ c = '\r'))

def IsGap (text : List Char) : Prop :=
  ∀ c ∈ text, IsSpace c

def letters : List (Char × Char) :=
  [('"', '"'), ('\\', '\\'), ('/', '/'), ('b', '\x08'), ('f', '\x0c'), ('n', '\n'), ('r', '\r'),
    ('t', '\t')]

def IsKeyStart (c : Char) : Prop :=
  ('A' ≤ c ∧ c ≤ 'Z') ∨ ('a' ≤ c ∧ c ≤ 'z') ∨ c = '_' ∨ c = '$'

instance (c : Char) : Decidable (IsKeyStart c) :=
  inferInstanceAs (Decidable (('A' ≤ c ∧ c ≤ 'Z') ∨ ('a' ≤ c ∧ c ≤ 'z') ∨ c = '_' ∨ c = '$'))

def IsKeyChar (c : Char) : Prop :=
  IsKeyStart c ∨ ('0' ≤ c ∧ c ≤ '9') ∨ c = '-'

instance (c : Char) : Decidable (IsKeyChar c) :=
  inferInstanceAs (Decidable (IsKeyStart c ∨ ('0' ≤ c ∧ c ≤ '9') ∨ c = '-'))

def Padded {α : Type} (form : Form α) : Form α := fun text a =>
  ∃ before core after, IsGap before ∧ form core a ∧ IsGap after ∧ text = before ++ (core ++ after)

/--
How a character may be written inside a string that `quote` ends: as it is, as a letter after a
backslash, or by code units of four hexadecimal digits. An apostrophe between apostrophes may have a
backslash.
-/
inductive Spells (quote : Char) : Form Char
  | plain {c : Char} : 0x20 ≤ c.toNat → c ≠ '\\' → c ≠ quote → Spells quote [c] c
  | letter {e c : Char} : (e, c) ∈ letters → Spells quote ['\\', e] c
  | apostrophe : quote = '\'' → Spells quote ['\\', '\''] '\''
  | unit {a b c d : Char} {u : Nat}
    : unit? a b c d = some u → isHigh u = false → isLow u = false →
      Spells quote ['\\', 'u', a, b, c, d] (Char.ofNat u)
  | pair {a b c d a' b' c' d' : Char} {u v : Nat}
    : unit? a b c d = some u → isHigh u = true → unit? a' b' c' d' = some v → isLow v = true →
      Spells quote ['\\', 'u', a, b, c, d, '\\', 'u', a', b', c', d']
        (Char.ofNat (0x10000 + (u - 0xD800) * 0x400 + (v - 0xDC00)))

inductive SpellsAll (quote : Char) : Form (List Char)
  | nil : SpellsAll quote [] []
  | cons {text body s : List Char} {c : Char}
    : Spells quote text c → SpellsAll quote body s → SpellsAll quote (text ++ body) (c :: s)

inductive IsString (d : Dialect) : Form String
  | double {body s : List Char}
    : SpellsAll '"' body s → IsString d ('"' :: (body ++ ['"'])) (String.ofList s)
  | single {body s : List Char}
    : d.apostrophes body → SpellsAll '\'' body s →
      IsString d ('\'' :: (body ++ ['\''])) (String.ofList s)

inductive IsKey (d : Dialect) : Form String
  | quoted {text : List Char} {s : String} : IsString d text s → IsKey d text s
  | bare {c : Char} {rest : List Char}
    : d.bareKeys → IsKeyStart c → (∀ x ∈ rest, IsKeyChar x) →
      IsKey d (c :: rest) (String.ofList (c :: rest))

structure IsDigits (text : List Char) (values : List Nat) : Prop where
  nonempty : text ≠ []
  digit : ∀ c ∈ text, '0' ≤ c ∧ c ≤ '9'
  values : text.map (fun c => c.toNat - 0x30) = values

inductive IsWhole : Form (List Nat)
  | zero : IsWhole ['0'] [0]
  | digits {c : Char} {rest : List Char} {values : List Nat}
    : c ≠ '0' → IsDigits (c :: rest) values → IsWhole (c :: rest) values

inductive IsFraction : Form (List Nat)
  | none : IsFraction [] []
  | digits {text : List Char} {values : List Nat}
    : IsDigits text values → IsFraction ('.' :: text) values

inductive IsSign : Form Bool
  | none : IsSign [] false
  | plus : IsSign ['+'] false
  | minus : IsSign ['-'] true

inductive IsExponent : Form (Option Int)
  | none : IsExponent [] none
  | digits {mark : Char} {sign text : List Char} {negative : Bool} {values : List Nat}
    : mark = 'e' ∨ mark = 'E' → IsSign sign negative → IsDigits text values →
      IsExponent (mark :: (sign ++ text))
        (some (if negative then -(Text.ofDigits values : Int) else (Text.ofDigits values : Int)))

inductive IsNumeral : Form Numeral
  | mk {whole fraction exponent : List Char} {n : Numeral}
    : IsWhole whole n.whole → IsFraction fraction n.fraction → IsExponent exponent n.exponent →
      IsNumeral ((if n.negative then ['-'] else []) ++ (whole ++ (fraction ++ exponent))) n

inductive IsScalar (d : Dialect) : Form Value
  | null : IsScalar d ['n', 'u', 'l', 'l'] .null
  | yes : IsScalar d ['t', 'r', 'u', 'e'] (.bool true)
  | no : IsScalar d ['f', 'a', 'l', 's', 'e'] (.bool false)
  | number {text : List Char} {n : Numeral} {v : Value}
    : IsNumeral text n → n.value? Limits.strict = some v → IsScalar d text v
  | text {text : List Char} {s : String} : IsString d text s → IsScalar d text (.text s)

def IsField (d : Dialect) (inner : Form Value) : Form (String × Value) := fun text field =>
  ∃ key value, Padded (IsKey d) key field.1 ∧ Padded inner value field.2 ∧ text = key ++ ':' :: value

def IsTail (d : Dialect) (text : List Char) : Prop :=
  text = [] ∨ (d.trailingCommas ∧ ∃ gap, IsGap gap ∧ text = ',' :: gap)

inductive IsSeries {α : Type} (d : Dialect) (item : Form α) : Form (List α)
  | last {text tail : List Char} {a : α}
    : item text a → IsTail d tail → IsSeries d item (text ++ tail) [a]
  | more {text body : List Char} {a : α} {rest : List α}
    : item text a → IsSeries d item body rest → IsSeries d item (text ++ ',' :: body) (a :: rest)

/--
A list or a map. The last of several fields with one name counts.
-/
inductive IsContainer (d : Dialect) (inner : Form Value) : Form Value
  | noItems {gap : List Char} : IsGap gap → IsContainer d inner ('[' :: (gap ++ [']'])) (.list [])
  | items {body : List Char} {vs : List Value}
    : IsSeries d (Padded inner) body vs → IsContainer d inner ('[' :: (body ++ [']'])) (.list vs)
  | noFields {gap : List Char} : IsGap gap → IsContainer d inner ('{' :: (gap ++ ['}'])) (.map [])
  | fields {body : List Char} {fs : Fields}
    : IsSeries d (IsField d inner) body fs →
      IsContainer d inner ('{' :: (body ++ ['}'])) (.map (distinct fs))

/--
The written forms of a value in a dialect, with at most so many lists and maps inside each other.
-/
def Renders (d : Dialect) : Nat → Form Value
  | 0 => IsScalar d
  | depth + 1 => fun text v => IsScalar d text v ∨ IsContainer d (Renders d depth) text v

/--
A fact about the characters of a given text is decided one by one, not for all characters there are.
-/
theorem forall_mem_of_all {P : Char → Prop} [DecidablePred P] {s : List Char}
    (h : s.all (fun c => decide (P c)) = true) : ∀ c ∈ s, P c := by
  intro c hc
  exact of_decide_eq_true (List.all_eq_true.mp h c hc)

theorem SpellsAll.plain_append {quote : Char} {s text t : List Char}
    (hs : ∀ c ∈ s, 0x20 ≤ c.toNat ∧ c ≠ '\\' ∧ c ≠ quote) (h : SpellsAll quote text t)
    : SpellsAll quote (s ++ text) (s ++ t) := by
  induction s with
  | nil => exact h
  | cons c s ih =>
    rw [List.forall_mem_cons] at hs
    have hc : Spells quote [c] c := .plain hs.1.1 hs.1.2.1 hs.1.2.2
    have hrest : SpellsAll quote ([c] ++ (s ++ text)) (c :: (s ++ t)) := .cons hc (ih hs.2)
    exact hrest

theorem SpellsAll.of_plain {quote : Char} {s : List Char}
    (h : ∀ c ∈ s, 0x20 ≤ c.toNat ∧ c ≠ '\\' ∧ c ≠ quote) : SpellsAll quote s s := by
  have hspelt := SpellsAll.plain_append h .nil
  rwa [List.append_nil] at hspelt

theorem IsString.single_of_plain {d : Dialect} {s : List Char} (hd : d.apostrophes s)
    (h : ∀ c ∈ s, 0x20 ≤ c.toNat ∧ c ≠ '\\' ∧ c ≠ '\'')
    : IsString d ('\'' :: (s ++ ['\''])) (String.ofList s) :=
  .single hd (.of_plain h)

theorem IsString.double_of_plain {d : Dialect} {s : List Char}
    (h : ∀ c ∈ s, 0x20 ≤ c.toNat ∧ c ≠ '\\' ∧ c ≠ '"')
    : IsString d ('"' :: (s ++ ['"'])) (String.ofList s) :=
  .double (.of_plain h)

/--
A field as it is usually written: a gap, the key, a colon, a space and the value.
-/
theorem IsField.spaced {d : Dialect} {inner : Form Value} {gap key value text : List Char}
    {name : String} {v : Value} (hgap : IsGap gap) (hkey : IsKey d key name) (hvalue : inner value v)
    (htext : text = gap ++ key ++ ':' :: ' ' :: value) : IsField d inner text (name, v) := by
  have hspace : IsGap [' '] := forall_mem_of_all (by decide)
  refine ⟨gap ++ key, ' ' :: value, ⟨gap, key, [], hgap, hkey, nofun, ?_⟩,
    ⟨[' '], value, [], hspace, hvalue, nofun, ?_⟩, htext⟩
  . rw [List.append_nil]
  . rw [List.append_nil, List.singleton_append]

theorem isSpace_iff {c : Char} : isSpace c = true ↔ IsSpace c := by
  simp [isSpace, IsSpace, or_assoc]

theorem isKeyStart_iff {c : Char} : Relaxed.isKeyStart c = true ↔ IsKeyStart c := by
  simp [Relaxed.isKeyStart, IsKeyStart, or_assoc]

theorem isKeyChar_iff {c : Char} : Relaxed.isKeyChar c = true ↔ IsKeyChar c := by
  simp [Relaxed.isKeyChar, IsKeyChar, isKeyStart_iff, or_assoc]

theorem escape?_eq_some_iff {e c : Char} : escape? e = some c ↔ (e, c) ∈ letters := by
  constructor
  . intro h
    unfold escape? at h
    split at h
    all_goals cases h
    all_goals decide
  . intro h
    simp only [letters, List.mem_cons, Prod.mk.injEq, List.not_mem_nil, or_false] at h
    obtain h | h | h | h | h | h | h | h := h
    all_goals
      obtain ⟨rfl, rfl⟩ := h
      rfl

theorem IsGap.isSpace {gap : List Char} (h : IsGap gap) : ∀ c ∈ gap, isSpace c = true :=
  fun c hc => isSpace_iff.mpr (h c hc)

theorem IsGap.nil : IsGap [] := nofun

theorem IsGap.append {s t : List Char} (hs : IsGap s) (ht : IsGap t) : IsGap (s ++ t) := by
  intro c hc
  cases List.mem_append.mp hc with
  | inl hc => exact hs c hc
  | inr hc => exact ht c hc

structure AbsorbsGaps {α : Type} (item : Form α) : Prop where
  before : ∀ {gap text a}, IsGap gap → item text a → item (gap ++ text) a
  after : ∀ {gap text a}, IsGap gap → item text a → item (text ++ gap) a

theorem absorbsGaps_padded {α : Type} {form : Form α} : AbsorbsGaps (Padded form) := by
  constructor
  . intro gap text a hgap h
    obtain ⟨before, core, after, hbefore, hcore, hafter, rfl⟩ := h
    refine ⟨gap ++ before, core, after, hgap.append hbefore, hcore, hafter, ?_⟩
    rw [List.append_assoc]
  . intro gap text a hgap h
    obtain ⟨before, core, after, hbefore, hcore, hafter, rfl⟩ := h
    refine ⟨before, core, after ++ gap, hbefore, hcore, hafter.append hgap, ?_⟩
    rw [List.append_assoc, List.append_assoc]

theorem Padded.of_core {α : Type} {form : Form α} {core : List Char} {a : α} (h : form core a)
    : Padded form core a := by
  refine ⟨[], core, [], .nil, h, .nil, ?_⟩
  rw [List.nil_append, List.append_nil]

theorem Padded.mono {α : Type} {form form' : Form α} (hform : ∀ text a, form text a → form' text a)
    {text : List Char} {a : α} (h : Padded form text a) : Padded form' text a := by
  obtain ⟨before, core, after, hbefore, hcore, hafter, htext⟩ := h
  exact ⟨before, core, after, hbefore, hform core a hcore, hafter, htext⟩

theorem Padded.exists_core {α : Type} {form : Form α} {c : Char} {t : List Char} {a : α}
    (hc : isSpace c = false) (h : Padded form (c :: t) a)
    : ∃ core after, form core a ∧ IsGap after ∧ c :: t = core ++ after := by
  obtain ⟨before, core, after, hbefore, hcore, hafter, htext⟩ := h
  cases before with
  | nil => exact ⟨core, after, hcore, hafter, htext⟩
  | cons b before =>
    cases htext
    rw [hbefore.isSpace c List.mem_cons_self] at hc
    cases hc

theorem absorbsGaps_isField {d : Dialect} {inner : Form Value} : AbsorbsGaps (IsField d inner) := by
  constructor
  . intro gap text field hgap h
    obtain ⟨key, value, hkey, hvalue, rfl⟩ := h
    refine ⟨gap ++ key, value, absorbsGaps_padded.before hgap hkey, hvalue, ?_⟩
    rw [List.append_assoc]
  . intro gap text field hgap h
    obtain ⟨key, value, hkey, hvalue, rfl⟩ := h
    refine ⟨key, value ++ gap, hkey, absorbsGaps_padded.after hgap hvalue, ?_⟩
    rw [List.append_assoc, List.cons_append]

theorem IsSeries.prepend {α : Type} {d : Dialect} {item : Form α} (hitem : AbsorbsGaps item)
    {gap body : List Char} {as : List α} (hgap : IsGap gap) (h : IsSeries d item body as)
    : IsSeries d item (gap ++ body) as := by
  cases h with
  | last hfirst htail =>
    rw [← List.append_assoc]
    exact .last (hitem.before hgap hfirst) htail
  | more hfirst hrest =>
    rw [← List.append_assoc]
    exact .more (hitem.before hgap hfirst) hrest

def IsDelimiter (c : Char) : Prop :=
  c = ',' ∨ c = ']' ∨ c = '}'

theorem isBlank_of_isSpace {c : Char} (h : isSpace c = true) : Text.isBlank c = true := by
  simp only [isSpace, Bool.or_eq_true, decide_eq_true_eq] at h
  obtain ((rfl | rfl) | rfl) | rfl := h
  all_goals rfl

theorem isSpace_of_not_isBlank {c : Char} (h : Text.isBlank c = false) : isSpace c = false := by
  rw [Bool.eq_false_iff]
  intro hspace
  rw [isBlank_of_isSpace hspace] at h
  cases h

theorem IsGap.isBlank {gap : List Char} (h : IsGap gap) : ∀ c ∈ gap, Text.isBlank c = true :=
  fun c hc => isBlank_of_isSpace (h.isSpace c hc)

section Numerals

variable {text : List Char} {n : Numeral}

theorem IsNumeral.forall_mem {P : Char → Prop} (h : IsNumeral text n)
    (hdigit : ∀ c, '0' ≤ c ∧ c ≤ '9' → P c) (hmark : ∀ c ∈ ['-', '+', '.', 'e', 'E'], P c)
    : ∀ c ∈ text, P c := by
  obtain ⟨hwhole, hfraction, hexponent⟩ := h
  obtain ⟨negative, whole, fraction, exponent⟩ := n
  intro c hc
  simp only [List.mem_append] at hc
  obtain hc | hc | hc | hc := hc
  . split at hc
    . exact hmark c (List.mem_cons.mpr (.inl (List.mem_singleton.mp hc)))
    . cases hc
  . cases hwhole with
    | zero => exact hdigit c (by rw [List.mem_singleton.mp hc]; decide)
    | digits _ hdigits => exact hdigit c (hdigits.digit c hc)
  . cases hfraction with
    | none => cases hc
    | digits hdigits =>
      cases List.mem_cons.mp hc with
      | inl hc => exact hmark c (by rw [hc]; decide)
      | inr hc => exact hdigit c (hdigits.digit c hc)
  . cases hexponent with
    | none => cases hc
    | digits hletter hsign hdigits =>
      rw [List.mem_cons, List.mem_append] at hc
      obtain rfl | hc | hc := hc
      . obtain rfl | rfl := hletter
        . exact hmark _ (by decide)
        . exact hmark _ (by decide)
      . cases hsign with
        | none => cases hc
        | plus => exact hmark c (by rw [List.mem_singleton.mp hc]; decide)
        | minus => exact hmark c (by rw [List.mem_singleton.mp hc]; decide)
      . exact hdigit c (hdigits.digit c hc)

theorem exists_digit_of_whole {values : List Nat} (h : IsWhole text values)
    : ∃ c rest, text = c :: rest ∧ '0' ≤ c ∧ c ≤ '9' := by
  cases h with
  | zero => exact ⟨'0', [], rfl, by decide⟩
  | @digits c rest _ _ hdigits => exact ⟨c, rest, rfl, hdigits.digit c List.mem_cons_self⟩

def StartsNumeral (c : Char) : Prop :=
  c = '-' ∨ ('0' ≤ c ∧ c ≤ '9')

theorem IsNumeral.exists_head (h : IsNumeral text n)
    : ∃ c rest, text = c :: rest ∧ StartsNumeral c := by
  obtain ⟨hwhole, -, -⟩ := h
  obtain ⟨c, rest, rfl, hc⟩ := exists_digit_of_whole hwhole
  split
  . exact ⟨'-', _, rfl, .inl rfl⟩
  . exact ⟨c, _, rfl, .inr hc⟩

theorem StartsNumeral.ne {c x : Char} (h : StartsNumeral c) (hx : x ≠ '-' ∧ ¬ ('0' ≤ x ∧ x ≤ '9'))
    : c ≠ x := by
  rintro rfl
  cases h with
  | inl h => exact hx.1 h
  | inr h => exact hx.2 h

theorem StartsNumeral.isBlank {c : Char} (h : StartsNumeral c) : Text.isBlank c = false := by
  cases h with
  | inl h =>
    rw [h]
    rfl
  | inr h => exact Text.isBlank_of_isDigit h

end Numerals

section Openings

def IsOpening (text : List Char) : Prop :=
  ∃ c rest, text = c :: rest ∧ Text.isBlank c = false ∧ c ≠ ']' ∧ c ≠ '}'

variable {d : Dialect} {text : List Char} {v : Value}

theorem IsOpening.append (h : IsOpening text) (rest : List Char) : IsOpening (text ++ rest) := by
  obtain ⟨c, tail, rfl, hc⟩ := h
  exact ⟨c, tail ++ rest, rfl, hc⟩

theorem IsString.isOpening {s : String} (h : IsString d text s) : IsOpening text := by
  cases h with
  | double => exact ⟨'"', _, rfl, by decide⟩
  | single => exact ⟨'\'', _, rfl, by decide⟩

theorem IsScalar.isOpening (h : IsScalar d text v) : IsOpening text := by
  cases h with
  | null => exact ⟨'n', _, rfl, by decide⟩
  | yes => exact ⟨'t', _, rfl, by decide⟩
  | no => exact ⟨'f', _, rfl, by decide⟩
  | text h => exact h.isOpening
  | number h =>
    obtain ⟨c, rest, rfl, hc⟩ := h.exists_head
    exact ⟨c, rest, rfl, hc.isBlank, hc.ne (by decide), hc.ne (by decide)⟩

theorem IsContainer.isOpening {inner : Form Value} (h : IsContainer d inner text v)
    : IsOpening text := by
  cases h with
  | noItems => exact ⟨'[', _, rfl, by decide⟩
  | items => exact ⟨'[', _, rfl, by decide⟩
  | noFields => exact ⟨'{', _, rfl, by decide⟩
  | fields => exact ⟨'{', _, rfl, by decide⟩

theorem Renders.isOpening {depth : Nat} (h : Renders d depth text v) : IsOpening text := by
  cases depth with
  | zero => exact IsScalar.isOpening h
  | succ depth =>
    cases h with
    | inl h => exact h.isOpening
    | inr h => exact h.isOpening

end Openings

section Maps

variable {d : Dialect} {text : List Char}

theorem not_isScalar_map {fields : Fields} : ¬ IsScalar d text (.map fields) := by
  intro h
  cases h with
  | @number _ n _ _ hvalue =>
    simp only [Numeral.value?] at hvalue
    repeat' split at hvalue
    all_goals cases hvalue

theorem Renders.exists_braces {depth : Nat} {fields : Fields} (h : Renders d depth text (.map fields))
    : ∃ inner, text = '{' :: (inner ++ ['}']) := by
  cases depth with
  | zero => exact absurd h not_isScalar_map
  | succ depth =>
    cases h with
    | inl h => exact absurd h not_isScalar_map
    | inr h =>
      cases h with
      | noFields => exact ⟨_, rfl⟩
      | fields => exact ⟨_, rfl⟩

theorem Renders.exists_fields {depth : Nat} {t : List Char} {v : Value}
    (h : Renders d depth ('{' :: t) v) : ∃ fields, v = .map fields := by
  have hscalar : ¬ IsScalar d ('{' :: t) v := by
    intro hscalar
    cases hscalar with
    | number hnumeral =>
      obtain ⟨c, rest, htext, hc⟩ := hnumeral.exists_head
      exact hc.ne (by decide) (List.cons.inj htext).1.symm
    | text hstring => cases hstring
  cases depth with
  | zero => exact absurd h hscalar
  | succ depth =>
    cases h with
    | inl h => exact absurd h hscalar
    | inr h =>
      cases h with
      | noFields => exact ⟨[], rfl⟩
      | fields => exact ⟨_, rfl⟩

end Maps

end Datebook.Json
