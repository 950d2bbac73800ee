import Datebook.Settings

/-!
This module contains the choice of the level from which on events are logged.
-/

namespace Datebook.Log

inductive Fault where
  | notALevel (name : String)
  | notANumber (name : String)
  deriving DecidableEq, Repr

/--
The capitals of a character: those of the plain letters, and of the other characters whose capitals
are plain letters. No name of a level holds any other capital.
-/
def capitals (c : Char) : List Char :=
  if c.toNat < 0x80 then [c.toUpper]
  else
    match c.toNat with
    | 0xDF => ['S', 'S']
    | 0x131 => ['I']
    | 0x17F => ['S']
    | 0xFB00 => ['F', 'F']
    | 0xFB01 => ['F', 'I']
    | 0xFB02 => ['F', 'L']
    | 0xFB03 => ['F', 'F', 'I']
    | 0xFB04 => ['F', 'F', 'L']
    | 0xFB05 => ['S', 'T']
    | 0xFB06 => ['S', 'T']
    | _ => [c]

def capitalised (s : String) : String :=
  String.ofList (s.toList.flatMap capitals)

/--
The level of detailed events. A log that starts at this level or below holds everything that is done.
-/
def detail : Nat := 10

def level (name : String) : Except Fault Nat :=
  match capitalised name with
  | "CRITICAL" | "FATAL" => .ok 50
  | "ERROR" => .ok 40
  | "WARNING" | "WARN" => .ok 30
  | "INFO" => .ok 20
  | "DEBUG" => .ok detail
  | "NOTSET" => .ok 0
  | "BASIC_FORMAT" => .error (.notALevel name)
  | "_STYLES" => .error (.notANumber name)
  | _ => .ok 20

def levelOr (env : Environment) (name : Option String) : Except Fault Nat :=
  level ((given? name).getD ((env.lookup "CALENDAR_COPILOT_LOG_LEVEL").getD "INFO"))

def handlers : List String := ["RotatingFileHandler", "StreamHandler"]

/--
The levels in force after each of several requests. Only the first request has an effect.
-/
def levels (env : Environment) (names : List (Option String)) : Except Fault (List Nat) :=
  match names with
  | [] => .ok []
  | first :: rest =>
    match levelOr env first with
    | .error e => .error e
    | .ok n => .ok (n :: rest.map fun _ => n)

end Datebook.Log
