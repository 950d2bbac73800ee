import Datebook.Command.Reading
import Datebook.Fault

/-!
This module contains outcomes: what is reported about a text or a command once it has been dealt
with.
-/

namespace Datebook

/--
What is reported: the data of a command that was carried out, or the stage at which it failed and
why. `message` is what the command wanted the user to be told.
-/
inductive Outcome where
  | success (kind : Option Kind) (data : Value) (message : String)
  | failure (stage : Stage) (reason : String) (kind : Option Kind) (message : String)
  deriving Repr

namespace Outcome

def stage? : Outcome → Option Stage
  | success .. => none
  | failure stage .. => some stage

def isOk (o : Outcome) : Bool :=
  o.stage? = none

/--
Whether no command was found, so that the text is to be shown as it is.
-/
def isFallthrough (o : Outcome) : Bool :=
  o.stage? = some .extract || o.stage? = some .parse

def isRetryable (o : Outcome) : Bool :=
  o.stage? = some .service

def given (name : String) : Value → Fields
  | .null => []
  | v => [(name, v)]

def kindField (kind : Option Kind) : Fields :=
  given "kind" (.ofText? (kind.map Kind.name))

def toRecord : Outcome → Fields
  | success kind data message =>
    ("ok", .bool true) :: kindField kind ++ given "data" data ++ [("message", .text message)]
  | failure stage reason kind message =>
    ("ok", .bool false) :: kindField kind ++
      [("error", .map [("stage", .text stage.name), ("message", .text reason)]),
       ("message", .text message)]

def ofRefusal (r : Refusal) : Outcome :=
  failure r.stage r.message none ""

/--
The outcome of a command whose plan ended this way. A crash is no outcome.
-/
def ofResult (command : Command) : Except Fault Value → Except Crash Outcome
  | .ok data => .ok (success (some command.kind) data command.message)
  | .error fault =>
    match fault.report with
    | .error cause => .error cause
    | .ok (stage, reason) => .ok (failure stage reason (some command.kind) command.message)

end Outcome

end Datebook
