import Datebook.Text.Printable

/-!
This module contains the quoting of text: how a text is shown inside a message so that its ends and
its invisible characters can be seen.
-/

namespace Datebook.Text

def hexChar (d : Nat) : Char :=
  if d < 10 then Char.ofNat (0x30 + d) else Char.ofNat (0x57 + d)

def hexDigits (count n : Nat) : List Char :=
  go count n []
where
  go : Nat → Nat → List Char → List Char
    | 0, _, acc => acc
    | count + 1, n, acc => go count (n / 16) (hexChar (n % 16) :: acc)

/--
An escape for a character without a picture: two, four or eight digits, the fewest that hold it.
-/
def hexEscape (c : Char) : List Char :=
  let n := c.toNat
  if n < 0x100 then '\\' :: 'x' :: hexDigits 2 n
  else if n < 0x10000 then '\\' :: 'u' :: hexDigits 4 n
  else '\\' :: 'U' :: hexDigits 8 n

def quotedChar (quote c : Char) : List Char :=
  if c = quote || c = '\\' then ['\\', c]
  else if c = '\n' then ['\\', 'n']
  else if c = '\r' then ['\\', 'r']
  else if c = '\t' then ['\\', 't']
  else if isPrintable c then [c]
  else hexEscape c

/--
The quote for a text: the apostrophe, unless the text has an apostrophe and no double quote.
-/
def quoteFor (s : List Char) : Char :=
  if s.contains '\'' && !s.contains '"' then '"' else '\''

def quoted (s : String) : String :=
  let chars := s.toList
  let quote := quoteFor chars
  String.ofList (quote :: chars.flatMap (quotedChar quote) ++ [quote])

end Datebook.Text
