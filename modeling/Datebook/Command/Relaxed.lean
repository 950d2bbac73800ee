import Datebook.Text.Blank

/-!
This module contains the repair of objects that are almost in the interchange format: strings in
apostrophes, keys without quotes, and commas before a closing bracket. A text is first cut into the
runs inside and outside strings; only the latter are edited.
-/

namespace Datebook.Relaxed

structure Segment where
  isString : Bool
  chars : List Char
  deriving DecidableEq, Repr

/--
A segment outside strings in front of others; an empty one is left out.
-/
def plain (chars : List Char) (more : List Segment) : List Segment :=
  if chars.isEmpty then more else ⟨false, chars⟩ :: more

def isQuote (c : Char) : Bool :=
  c = '"' || c = '\''

/--
The rest of the present segment, and the segments after it. `quote` is the character that closes the
present segment if it is a string. The string is written with double quotes: the apostrophe that
closes it becomes one, a double quote inside it gets a backslash, and a backslash before an
apostrophe inside apostrophes is dropped.
-/
def cut : Option Char → List Char → List Char × List Segment
  | _, [] => ([], [])
  | none, c :: rest =>
    if isQuote c then
      let (chars, more) := cut (some c) rest
      ([], ⟨true, '"' :: chars⟩ :: more)
    else
      let (chars, more) := cut none rest
      (c :: chars, more)
  | some quote, '\\' :: next :: rest =>
    let (chars, more) := cut (some quote) rest
    (if quote = '\'' ∧ next = '\'' then '\'' :: chars else '\\' :: next :: chars, more)
  | some quote, c :: rest =>
    if c = quote then
      let (chars, more) := cut none rest
      (['"'], plain chars more)
    else
      let (chars, more) := cut (some quote) rest
      (if c = '"' then '\\' :: '"' :: chars else c :: chars, more)

def segments (s : List Char) : List Segment :=
  let (chars, more) := cut none s
  plain chars more

def isKeyStart (c : Char) : Bool :=
  ('A' ≤ c && c ≤ 'Z') || ('a' ≤ c && c ≤ 'z') || c = '_' || c = '$'

def isKeyChar (c : Char) : Bool :=
  isKeyStart c || ('0' ≤ c && c ≤ '9') || c = '-'

/--
Whether a text starts, after blanks, with a key without quotes and, after more blanks, a colon.
-/
def startsBareKey (s : List Char) : Bool :=
  match s.dropWhile Text.isBlank with
  | [] => false
  | c :: rest =>
    isKeyStart c && ((rest.dropWhile isKeyChar).dropWhile Text.isBlank).head? = some ':'

inductive KeyMode where
  | outside
  | before
  | inside
  deriving DecidableEq, Repr

def quoteKeys : KeyMode → List Char → List Char
  | .outside, [] => []
  | .before, [] => []
  | .inside, [] => ['"']
  | .outside, c :: rest =>
    if (c = '{' ∨ c = ',') ∧ startsBareKey rest then c :: quoteKeys .before rest
    else c :: quoteKeys .outside rest
  | .before, c :: rest =>
    if Text.isBlank c then c :: quoteKeys .before rest else '"' :: c :: quoteKeys .inside rest
  | .inside, c :: rest =>
    if isKeyChar c then c :: quoteKeys .inside rest else '"' :: c :: quoteKeys .outside rest

def startsClosing (s : List Char) : Bool :=
  match s.dropWhile Text.isBlank with
  | [] => false
  | c :: _ => c = '}' || c = ']'

def dropCommas : List Char → List Char
  | [] => []
  | c :: rest => if c = ',' ∧ startsClosing rest then dropCommas rest else c :: dropCommas rest

def Segment.repaired (segment : Segment) : List Char :=
  if segment.isString then segment.chars else dropCommas (quoteKeys .outside segment.chars)

def repair (s : List Char) : List Char :=
  (segments (Text.trim s)).flatMap Segment.repaired

end Datebook.Relaxed
