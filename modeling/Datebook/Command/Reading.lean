import Datebook.Command
import Datebook.Command.Relaxed
import Datebook.Command.Snippet
import Datebook.Host
import Datebook.Json.Reader
import Datebook.Value.Show

/-!
This module contains the reading of a command out of running text: the object is found, decoded,
repaired once if it cannot be decoded, and checked.
-/

namespace Datebook

structure Refusal where
  stage : Stage
  message : String
  text : String
  deriving DecidableEq, Repr

namespace Command

def messageKeys : List String :=
  ["message", "humanMessage", "human_message", "response"]

def messageOf (fields : Fields) : String :=
  go messageKeys
where
  go : List String → String
    | [] => ""
    | key :: rest =>
      match Fields.get fields key with
      | .text s => if Text.isBlankText s then go rest else Text.strip s
      | _ => go rest

def paramsOf (fields : Fields) : Fields :=
  match Fields.get fields "params" with
  | .map params => params
  | _ => fields.filter fun field => !("kind" :: "params" :: messageKeys).contains field.1

/--
Check a decoded object and take the command out of it. A kind that is unknown and cannot be shown
breaks the reading off.
-/
def ofValue [Host] (payload : Value) (source : String) : Except Crash (Except Refusal Command) :=
  let refused (reason : String) := .ok (.error ⟨.validate, reason, source⟩)
  match payload with
  | .map fields =>
    match Fields.get fields "kind" with
    | .null => refused "Calendar command is missing 'kind'."
    | kind =>
      match Kind.ofValue? kind with
      | none =>
        match kind.flaw? with
        | none => refused ("Unknown calendar operation: " ++ kind.quoted ++ ".")
        | some flaw => .error (.unshown flaw)
      | some kind => .ok (.ok ⟨kind, paramsOf fields, messageOf fields⟩)
  | _ => refused "Calendar command must be a JSON object."

/--
Decode an object, if need be after one repair. A text that stands for `null` counts as undecodable.
-/
def decode? (candidate : List Char) : Option Value :=
  match Json.strict? candidate with
  | some .null | none =>
    match Json.strict? (Relaxed.repair candidate) with
    | some .null | none => none
    | some v => some v
  | some v => some v

def read [Host] (source : String) : Except Crash (Except Refusal Command) :=
  match Snippet.object? source.toList with
  | none => .ok (.error ⟨.extract, "No calendar command found in text.", source⟩)
  | some candidate =>
    match decode? candidate with
    | none => .ok (.error ⟨.parse, "Calendar command is not valid JSON.", source⟩)
    | some payload => ofValue payload source

end Command

end Datebook
