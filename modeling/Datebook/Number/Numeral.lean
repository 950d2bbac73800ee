import Datebook.Number.Binary64
import Datebook.Text.Blank
import Datebook.Text.Digit

/-!
This module contains the reading of numbers that people and environments write: blanks around them,
a sign, digits of any script, and single underscores between two digits.
-/

namespace Datebook.Numeral

def isPlainBlank (c : Char) : Bool :=
  let n := c.toNat
  (0x9 ≤ n && n ≤ 0xD) || n == 0x20

/--
Bring a character of another script to its plain form: a blank to the space and a digit to the plain
digit. Plain characters stay as they are, and any other becomes a question mark, which no number
holds.
-/
def plain (c : Char) : Char :=
  if c.toNat < 0x7F then c
  else if Text.isBlank c then ' '
  else
    match Text.digit? c with
    | some d => Text.digitChar d
    | none => '?'

def plainText (s : String) : List Char :=
  let s := s.toList.map plain |>.dropWhile isPlainBlank
  s.reverse.dropWhile isPlainBlank |>.reverse

def isPlainDigit (c : Char) : Bool :=
  '0' ≤ c && c ≤ '9'

def withoutUnderscores (s : List Char) : Option (List Char) :=
  go none s
where
  go : Option Char → List Char → Option (List Char)
    | _, [] => some []
    | last, '_' :: rest =>
      match rest with
      | next :: _ =>
        if last.any isPlainDigit && isPlainDigit next then go (some '_') rest else none
      | [] => none
    | _, c :: rest => (go (some c) rest).map (c :: ·)

/--
Split off a sign; the flag tells whether it is a minus.
-/
def sign : List Char → Bool × List Char
  | '-' :: rest => (true, rest)
  | '+' :: rest => (false, rest)
  | s => (false, s)

def digits : List Char → List Nat × List Char
  | [] => ([], [])
  | c :: rest =>
    if isPlainDigit c then
      let (values, rest) := digits rest
      ((c.toNat - 0x30) :: values, rest)
    else ([], c :: rest)

def maxDigits : Nat := 4300

def int? (s : String) : Option Int := do
  let body ← withoutUnderscores (plainText s)
  let (negative, body) := sign body
  match digits body with
  | ([], _) => none
  | (values, []) =>
    if maxDigits < values.length then none
    else
      let n : Int := Text.ofDigits values
      some (if negative then -n else n)
  | (_, _ :: _) => none

/--
The exponent part of a number: an `e`, an optional sign and digits, up to the end of the text.
-/
def exponent? : List Char → Option Int
  | [] => some 0
  | e :: rest =>
    if e = 'e' ∨ e = 'E' then
      let (negative, rest) := sign rest
      match digits rest with
      | (values@(_ :: _), []) =>
        let n : Int := Text.ofDigits values
        some (if negative then -n else n)
      | _ => none
    else none

/--
Read a decimal number: digits with at most one point among them, at least one digit in all, and an
optional exponent.
-/
def decimal? (negative : Bool) (s : List Char) : Option Binary64 := do
  let (whole, rest) := digits s
  let (fraction, rest) :=
    match rest with
    | '.' :: rest => digits rest
    | rest => ([], rest)
  if whole.isEmpty && fraction.isEmpty then none
  else
    let e ← exponent? rest
    some (.ofDecimal negative (Text.ofDigits (whole ++ fraction)) (e - fraction.length))

def lowered (s : List Char) : String :=
  String.ofList (s.map Char.toLower)

/--
Read a number that may have a fraction, an exponent, or be infinite or not a number at all.
-/
def float? (s : String) : Option Binary64 := do
  let body ← withoutUnderscores (plainText s)
  let (negative, body) := sign body
  match lowered body with
  | "inf" | "infinity" => some (.infinite negative)
  | "nan" => some .nan
  | _ => decimal? negative body

end Datebook.Numeral
