/-!
This module contains the search for an object in running text: the span from the first opening brace
to the closing brace that balances it.
-/

namespace Datebook.Snippet

structure Scan where
  depth : Nat
  inString : Bool
  escaped : Bool
  deriving DecidableEq, Repr

/--
The scan after one more character. A character after a backslash is passed over, and braces count
only outside quoted runs.
-/
def Scan.step (scan : Scan) (c : Char) : Scan :=
  if scan.escaped then { scan with escaped := false }
  else if c = '\\' then { scan with escaped := true }
  else if c = '"' then { scan with inString := !scan.inString }
  else if scan.inString then scan
  else if c = '{' then { scan with depth := scan.depth + 1 }
  else if c = '}' then { scan with depth := scan.depth - 1 }
  else scan

def Scan.closes (scan : Scan) (c : Char) : Bool :=
  c = '}' && !scan.escaped && !scan.inString && scan.depth = 1

def scan (state : Scan) : List Char → Option (List Char)
  | [] => none
  | c :: rest => if state.closes c then some [c] else (scan (state.step c) rest).map (c :: ·)

def object? (s : List Char) : Option (List Char) :=
  match s.dropWhile (· ≠ '{') with
  | [] => none
  | c :: rest => (scan ⟨1, false, false⟩ rest).map (c :: ·)

end Datebook.Snippet
