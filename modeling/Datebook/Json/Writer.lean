import Datebook.Number.Shortest
import Datebook.Text.Quoted
import Datebook.Value

/-!
This module contains the writer of data interchange text, on one line or with an indent of two
spaces for each level.
-/

namespace Datebook.Json

/--
How a character is written inside a string. Control characters are escaped, all others stand for
themselves.
-/
def escaped (c : Char) : List Char :=
  match c with
  | '"' => ['\\', '"']
  | '\\' => ['\\', '\\']
  | '\x08' => ['\\', 'b']
  | '\x0c' => ['\\', 'f']
  | '\n' => ['\\', 'n']
  | '\r' => ['\\', 'r']
  | '\t' => ['\\', 't']
  | c => if c.toNat < 0x20 then '\\' :: 'u' :: Text.hexDigits 4 c.toNat else [c]

def writeText (s : String) : String :=
  String.ofList ('"' :: s.toList.flatMap escaped ++ ['"'])

inductive Style where
  | compact
  | indented
  deriving DecidableEq, Repr

def Style.lineStart (style : Style) (level : Nat) : String :=
  match style with
  | .compact => ""
  | .indented => String.ofList ('\n' :: List.replicate (2 * level) ' ')

def Style.colon : Style → String
  | .compact => ":"
  | .indented => ": "

def enclosed (style : Style) (level : Nat) (opening closing : String) (items : List String) : String :=
  match items with
  | [] => opening ++ closing
  | _ =>
    let start := style.lineStart (level + 1)
    opening ++ start ++ Text.joined ("," ++ start) items ++ style.lineStart level ++ closing

mutual

/--
A value at a level of nesting. Numbers that are not finite are written as `null`.
-/
def writeAt (style : Style) (level : Nat) : Value → String
  | .null => "null"
  | .bool b => if b then "true" else "false"
  | .int i => toString i
  | .float x =>
    match x with
    | .finite .. => x.write Binary64.inData
    | _ => "null"
  | .text s => writeText s
  | .list items => enclosed style level "[" "]" (writeItems style (level + 1) items)
  | .map fields => enclosed style level "\x7b" "\x7d" (writeFields style (level + 1) fields)
  | .date d => writeText (String.ofList (ClockReading.dateText d))
  | .moment m => writeText m.text

def writeItems (style : Style) (level : Nat) : List Value → List String
  | [] => []
  | v :: rest => writeAt style level v :: writeItems style level rest

def writeFields (style : Style) (level : Nat) : List (String × Value) → List String
  | [] => []
  | (name, v) :: rest =>
    (writeText name ++ style.colon ++ writeAt style level v) :: writeFields style level rest

end

def write (style : Style) (v : Value) : String :=
  writeAt style 0 v

def maxDepth : Nat := 254

/--
Whether a value can be written for the outside, which takes integers of 64 bits and no more than so
many lists and maps inside each other.
-/
def isWritable (v : Value) : Bool :=
  v.depth ≤ maxDepth && v.allIntegers Value.fitsIn64Bits

end Datebook.Json
