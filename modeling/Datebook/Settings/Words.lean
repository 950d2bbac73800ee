/-!
This module contains the splitting of a command line into words, with quotes and backslashes.
-/

namespace Datebook.Words

inductive Place where
  | between
  | inWord
  | inQuotes (quote : Char)
  /-- After a backslash; what it was in the middle of comes back after the next character. -/
  | escaped (within : Option Char)
  deriving DecidableEq, Repr

def isGap (c : Char) : Bool :=
  c = ' ' || c = '\t' || c = '\r' || c = '\n'

def isQuote (c : Char) : Bool :=
  c = '\'' || c = '"'

def push (c : Char) : Option (List Char × List (List Char)) → Option (List Char × List (List Char))
  | none => none
  | some (word, words) => some (c :: word, words)

/--
Start a new word before others; a word that is open is complete.
-/
def cut : Option (List Char × List (List Char)) → Option (List Char × List (List Char))
  | none => none
  | some (word, words) => some ([], word :: words)

/--
The rest of the word that is being read, and the words after it. Between words the first part is
empty. Quotes that are not closed, and a backslash at the end, have no reading.
-/
def scan : Place → List Char → Option (List Char × List (List Char))
  | .between, [] => some ([], [])
  | .inWord, [] => some ([], [])
  | .inQuotes _, [] => none
  | .escaped _, [] => none
  | .between, c :: rest =>
    if isGap c then scan .between rest
    else if c = '\\' then cut (scan (.escaped none) rest)
    else if isQuote c then cut (scan (.inQuotes c) rest)
    else cut (push c (scan .inWord rest))
  | .inWord, c :: rest =>
    if isGap c then scan .between rest
    else if c = '\\' then scan (.escaped none) rest
    else if isQuote c then scan (.inQuotes c) rest
    else push c (scan .inWord rest)
  | .inQuotes quote, c :: rest =>
    if c = quote then scan .inWord rest
    else if c = '\\' ∧ quote = '"' then scan (.escaped (some quote)) rest
    else push c (scan (.inQuotes quote) rest)
  | .escaped none, c :: rest => push c (scan .inWord rest)
  | .escaped (some quote), c :: rest =>
    if c = quote ∨ c = '\\' then push c (scan (.inQuotes quote) rest)
    else push '\\' (push c (scan (.inQuotes quote) rest))

def split? (s : String) : Option (List String) :=
  match scan .between s.toList with
  | none => none
  | some (_, words) => some (words.map String.ofList)

end Datebook.Words
