import Datebook.Fault
import Datebook.Json.Reader

/-!
This module contains what a tool of the calendar service answers, and the value it amounts to.
-/

namespace Datebook

structure ToolBlock where
  kind : Option String
  text : Option String
  deriving DecidableEq, Repr

structure ToolResult where
  content : List ToolBlock := []
  isError : Bool := false
  structured : Value := .null
  deriving Repr

namespace ToolResult

def text (r : ToolResult) : String :=
  match r.content.find? fun block => block.kind = some "text" with
  | none => ""
  | some block => block.text.getD ""

/--
The value of an answer: the structured value if there is one, or what the text stands for. A text
that is not in the interchange format is a message, and a blank text is nothing.
-/
def decode (operation : String) (r : ToolResult) : Except BackendFault Value :=
  if r.isError then .error (.tool operation r.text)
  else if r.structured.isTruthy then .ok r.structured
  else if Text.isBlankText r.text then .ok .null
  else
    match Json.strict? r.text.toList with
    | some v => .ok v
    | none => .ok (.map [("message", .text r.text)])

end ToolResult

end Datebook
