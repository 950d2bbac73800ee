import Datebook.Text.Digit
import Datebook.Value

/-!
This module contains the strict reader of data interchange text. It takes exactly the texts of the
grammar, within a limit on nesting: no comments, no trailing commas, no leading zeros, no raw control
characters inside strings, and no half of a surrogate pair.
-/

namespace Datebook.Json

structure Limits where
  depth : Nat
  /-- Keep integers of every size; otherwise those beyond 64 bits become floating-point numbers. -/
  wideIntegers : Bool
  infinities : Bool
  deriving DecidableEq, Repr

/--
The limits for text that comes from outside: 1024 levels, 64-bit integers, finite numbers.
-/
def Limits.strict : Limits := ⟨1024, false, false⟩

abbrev Reader (α : Type) := List Char → Option (α × List Char)

def isSpace (c : Char) : Bool :=
  c = ' ' || c = '\t' || c = '\n' || c = '\r'

def skipSpace (s : List Char) : List Char :=
  s.dropWhile isSpace

def hex? (c : Char) : Option Nat :=
  if '0' ≤ c ∧ c ≤ '9' then some (c.toNat - 0x30)
  else if 'a' ≤ c ∧ c ≤ 'f' then some (c.toNat - 0x57)
  else if 'A' ≤ c ∧ c ≤ 'F' then some (c.toNat - 0x37)
  else none

def unit? (a b c d : Char) : Option Nat := do
  let a ← hex? a
  let b ← hex? b
  let c ← hex? c
  let d ← hex? d
  some (((a * 16 + b) * 16 + c) * 16 + d)

def isHigh (u : Nat) : Bool := 0xD800 ≤ u && u < 0xDC00

def isLow (u : Nat) : Bool := 0xDC00 ≤ u && u < 0xE000

def escape? : Char → Option Char
  | '"' => some '"'
  | '\\' => some '\\'
  | '/' => some '/'
  | 'b' => some '\x08'
  | 'f' => some '\x0c'
  | 'n' => some '\n'
  | 'r' => some '\r'
  | 't' => some '\t'
  | _ => none

def found (c : Char) : Option (List Char × List Char) → Option (List Char × List Char)
  | none => none
  | some (s, rest) => some (c :: s, rest)

def stringBody : Reader (List Char)
  | [] => none
  | '"' :: rest => some ([], rest)
  | '\\' :: 'u' :: a :: b :: c :: d :: rest =>
    match unit? a b c d with
    | none => none
    | some u =>
      if isHigh u then
        match rest with
        | '\\' :: 'u' :: a :: b :: c :: d :: rest =>
          match unit? a b c d with
          | none => none
          | some v =>
            if isLow v then
              found (Char.ofNat (0x10000 + (u - 0xD800) * 0x400 + (v - 0xDC00))) (stringBody rest)
            else none
        | _ => none
      else if isLow u then none
      else found (Char.ofNat u) (stringBody rest)
  | '\\' :: e :: rest =>
    match escape? e with
    | none => none
    | some c => found c (stringBody rest)
  | c :: rest => if c.toNat < 0x20 || c = '\\' then none else found c (stringBody rest)

/--
The digit values at the start of a text. Only the plain digits count.
-/
def digits : List Char → List Nat × List Char
  | [] => ([], [])
  | c :: rest =>
    if '0' ≤ c ∧ c ≤ '9' then
      let (values, rest) := digits rest
      ((c.toNat - 0x30) :: values, rest)
    else ([], c :: rest)

structure Numeral where
  negative : Bool
  whole : List Nat
  fraction : List Nat
  exponent : Option Int
  deriving DecidableEq, Repr

def whole : Reader (List Nat)
  | '0' :: rest => some ([0], rest)
  | s =>
    match digits s with
    | ([], _) => none
    | (values, rest) => some (values, rest)

def fraction : Reader (List Nat)
  | '.' :: rest =>
    match digits rest with
    | ([], _) => none
    | (values, rest) => some (values, rest)
  | s => some ([], s)

/--
The exponent of a number, if one starts here: an `e`, an optional sign and at least one digit.
-/
def exponent : Reader (Option Int)
  | [] => some (none, [])
  | c :: rest =>
    if c = 'e' ∨ c = 'E' then
      let (negative, rest) :=
        match rest with
        | '-' :: rest => (true, rest)
        | '+' :: rest => (false, rest)
        | rest => (false, rest)
      match digits rest with
      | ([], _) => none
      | (values, rest) =>
        let n : Int := Text.ofDigits values
        some (some (if negative then -n else n), rest)
    else some (none, c :: rest)

def numeral (s : List Char) : Option (Numeral × List Char) := do
  let (negative, s) :=
    match s with
    | '-' :: rest => (true, rest)
    | s => (false, s)
  let (whole, s) ← whole s
  let (fraction, s) ← fraction s
  let (exponent, s) ← exponent s
  some (⟨negative, whole, fraction, exponent⟩, s)

/--
The value of a number token. A token with neither a fraction nor an exponent is an integer, as long
as the limits let it be one.
-/
def Numeral.value? (limits : Limits) (n : Numeral) : Option Value :=
  let magnitude := Text.ofDigits n.whole
  let i : Int := if n.negative then -magnitude else magnitude
  if n.fraction.isEmpty ∧ n.exponent = none
      ∧ (limits.wideIntegers ∨ Value.fitsIn64Bits i) then some (.int i)
  else
    let shift : Int := n.exponent.getD 0 - n.fraction.length
    match Binary64.ofDecimal n.negative (Text.ofDigits (n.whole ++ n.fraction)) shift with
    | .infinite negative => if limits.infinities then some (.float (.infinite negative)) else none
    | x => some (.float x)

/--
The items of a list whose opening bracket or whose last comma has been read. `fuel` bounds the count
of items.
-/
def items (value : Reader Value) : Nat → Reader (List Value)
  | 0, _ => none
  | fuel + 1, s =>
    match value s with
    | none => none
    | some (v, rest) =>
      match skipSpace rest with
      | ']' :: rest => some ([v], rest)
      | ',' :: rest =>
        match items value fuel rest with
        | none => none
        | some (vs, rest) => some (v :: vs, rest)
      | _ => none

def fields (value : Reader Value) : Nat → Reader Fields
  | 0, _ => none
  | fuel + 1, s =>
    match skipSpace s with
    | '"' :: rest =>
      match stringBody rest with
      | none => none
      | some (name, rest) =>
        match skipSpace rest with
        | ':' :: rest =>
          match value rest with
          | none => none
          | some (v, rest) =>
            match skipSpace rest with
            | '}' :: rest => some ([(String.ofList name, v)], rest)
            | ',' :: rest =>
              match fields value fuel rest with
              | none => none
              | some (vs, rest) => some ((String.ofList name, v) :: vs, rest)
            | _ => none
        | _ => none
    | _ => none

/--
Give each field name the last of its values, in the place of its first occurrence.
-/
def distinct (fields : Fields) : Fields :=
  fields.foldl (fun acc field => setNamed acc field.1 field.2) []

/--
A value. `inner` reads what stands inside a list or a map, and is absent at the deepest level, where
neither may start.
-/
def valueWith (limits : Limits) (inner : Option (Reader Value)) : Reader Value := fun s =>
  match skipSpace s with
  | '"' :: rest => (stringBody rest).map fun (s, rest) => (.text (String.ofList s), rest)
  | '[' :: rest =>
    match inner with
    | none => none
    | some value =>
      match skipSpace rest with
      | ']' :: rest => some (.list [], rest)
      | rest => (items value (rest.length + 1) rest).map fun (vs, rest) => (.list vs, rest)
  | '{' :: rest =>
    match inner with
    | none => none
    | some value =>
      match skipSpace rest with
      | '}' :: rest => some (.map [], rest)
      | rest =>
        (fields value (rest.length + 1) rest).map fun (vs, rest) => (.map (distinct vs), rest)
  | 'n' :: 'u' :: 'l' :: 'l' :: rest => some (.null, rest)
  | 't' :: 'r' :: 'u' :: 'e' :: rest => some (.bool true, rest)
  | 'f' :: 'a' :: 'l' :: 's' :: 'e' :: rest => some (.bool false, rest)
  | s =>
    match numeral s with
    | none => none
    | some (n, rest) => (n.value? limits).map fun v => (v, rest)

def value (limits : Limits) : Nat → Reader Value
  | 0 => valueWith limits none
  | depth + 1 => valueWith limits (some (value limits depth))

def read? (limits : Limits) (s : List Char) : Option Value :=
  match value limits limits.depth s with
  | some (v, rest) => if (skipSpace rest).isEmpty then some v else none
  | none => none

def strict? (s : List Char) : Option Value :=
  read? Limits.strict s

end Datebook.Json
