import Datebook.CommandLine.Help
import Datebook.Number.Numeral

/-!
This module contains the reading of the arguments of the command line.
-/

namespace Datebook.CommandLine

inductive Task where
  | interpret (text : Option String)
  | chat
  | ping
  deriving DecidableEq, Repr

/--
What the arguments ask for: a task, with the level from which on events are logged, or help.
-/
inductive Invocation where
  | run (level : Option String) (task : Task)
  | help (topic : Topic)
  deriving DecidableEq, Repr

inductive Token where
  | plain
  | known (option : String) (value : Option (List Char))
  | ambiguous
  | unknown
  deriving DecidableEq, Repr

/--
Whether an argument asks for help. Letters after the short option for it are short options too, of
which there is no other.
-/
def Token.asksHelp : Token → Bool
  | known "--help" none => true
  | known "-h" none => true
  | known "-h" (some more) => !more.isEmpty && more.all (· = 'h')
  | _ => false

def skipDigits (s : List Char) : List Char := s.dropWhile Text.isDigit

def isNegativeNumber (s : List Char) : Bool :=
  let s := if s.getLast? = some '\n' then s.dropLast else s
  let isDigits (s : List Char) : Bool := !s.isEmpty && s.all Text.isDigit
  match s with
  | '-' :: rest =>
    isDigits rest ||
      (match skipDigits rest with
       | '.' :: rest => isDigits rest
       | _ => false)
  | _ => false

def cutValue (arg : List Char) : List Char × Option (List Char) :=
  match arg.dropWhile (· ≠ '=') with
  | [] => (arg, none)
  | _ :: value => (arg.takeWhile (· ≠ '='), some value)

/--
The options that an argument may abbreviate, each with the value written in the argument. A long
option may be cut short; a short one may be followed by its value.
-/
def abbreviated (options : List String) (arg : List Char) : List (String × Option (List Char)) :=
  match arg with
  | '-' :: '-' :: _ =>
    let (name, value) := cutValue arg
    (options.filter fun option => name.isPrefixOf option.toList).map fun option => (option, value)
  | _ =>
    options.filterMap fun option =>
      if option.toList = arg.take 2 then some (option, some (arg.drop 2))
      else if arg.isPrefixOf option.toList then some (option, none)
      else none

/--
What an argument is. Texts that do not start with a hyphen are values, and so are the hyphen alone,
negative numbers, and what holds a space without being an option.
-/
def classify (options : List String) (s : String) : Token :=
  let arg := s.toList
  if arg.head? ≠ some '-' then .plain
  else if options.contains s then .known s none
  else if arg.length = 1 then .plain
  else
    let (name, value) := cutValue arg
    if value.isSome ∧ options.contains (String.ofList name) then
      .known (String.ofList name) value
    else
      match abbreviated options arg with
      | [(option, value)] => .known option value
      | _ :: _ => .ambiguous
      | [] => if isNegativeNumber arg || arg.contains ' ' then .plain else .unknown

def taskOptions : List String := ["-h", "--help"]

def mainOptions : List String := ["-h", "--help", "--log-level"]

/--
The values among the arguments of a task, up to the first double hyphen and after it; `none` if there
is an option among them.
-/
def values : List String → Option (List String × Option (List String))
  | [] => some ([], none)
  | s :: rest =>
    if s = "--" then some ([], some rest)
    else
      match classify taskOptions s with
      | .plain => (values rest).map fun (before, after) => (s :: before, after)
      | _ => none

def asksHelp : List String → Bool
  | [] => false
  | s :: rest =>
    let token := classify taskOptions s
    s ≠ "--" &&
      (token.asksHelp ||
        (match token with
         | .known .. => false
         | _ => asksHelp rest))

def textOf : List String × Option (List String) → Option (Option String)
  | ([], none) => some none
  | ([s], none) => some (some s)
  | ([], some []) => some none
  | ([], some [s]) => some (some s)
  | ([s], some []) => some (some s)
  | _ => none

/--
Read a task and its arguments. `none` stands for arguments that cannot be used.
-/
def task? (level : Option String) (name : String) (args : List String) : Option Invocation :=
  let helpOr (topic : Topic) (task : Option Task) : Option Invocation :=
    if asksHelp args then some (.help topic) else task.map (.run level)
  match name with
  | "interpret" => helpOr .interpret (((values args).bind textOf).map .interpret)
  | "chat" => helpOr .chat (if args.isEmpty then some .chat else none)
  | "ping" => helpOr .ping (if args.isEmpty then some .ping else none)
  | _ => none

/--
Read the arguments before a task and the task. `level` is the level given so far. A double hyphen
before the task is taken for the task, which does not exist.
-/
def parseFrom (level : Option String) : List String → Option Invocation
  | [] => none
  | s :: rest =>
    if s = "--" then none
    else
      match classify mainOptions s with
      | .plain => task? level s rest
      | .unknown =>
        match parseFrom level rest with
        | some (.help topic) => some (.help topic)
        | _ => none
      | .known "--log-level" (some value) => parseFrom (some (String.ofList value)) rest
      | .known "--log-level" none =>
        match rest with
        | [] => none
        | value :: rest =>
          if value = "--" ∨ classify mainOptions value ≠ .plain then none
          else parseFrom (some value) rest
      | token => if token.asksHelp then some (.help .program) else none

/--
Read the arguments of the command line. `none` stands for arguments that cannot be used; an ambiguous
one makes all of them useless.
-/
def parse? (args : List String) : Option Invocation :=
  let options := args.takeWhile (· ≠ "--")
  if options.any fun s => classify mainOptions s = .ambiguous then none
  else parseFrom none args

end Datebook.CommandLine
