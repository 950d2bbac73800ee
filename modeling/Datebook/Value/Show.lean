import Datebook.Number.Shortest
import Datebook.Value

/-!
This module contains the text that stands for a value inside messages and text fields.
-/

namespace Datebook.Value

mutual

/--
The form of a value inside a message, as far as it can be shown: texts in quotes, numbers by their
shortest digits, lists and maps in brackets.
-/
def quoted : Value → String
  | .null => "None"
  | .bool b => if b then "True" else "False"
  | .int i => toString i
  | .float x => x.write Binary64.inText
  | .text s => Text.quoted s
  | .list items => "[" ++ Text.joined ", " (quotedItems items) ++ "]"
  | .map fields => "\x7b" ++ Text.joined ", " (quotedFields fields) ++ "\x7d"
  | .date d => Moment.dateForm d
  | .moment m => m.form

def quotedItems : List Value → List String
  | [] => []
  | v :: rest => quoted v :: quotedItems rest

def quotedFields : List (String × Value) → List String
  | [] => []
  | (name, v) :: rest => (Text.quoted name ++ ": " ++ quoted v) :: quotedFields rest

end

/--
A value as text: a text is its own, a date and a moment are written out, and every other value has
its form inside messages.
-/
def shown : Value → String
  | .text s => s
  | .date d => String.ofList (ClockReading.dateText d)
  | .moment m => m.text
  | v => quoted v

def kindName : Value → String
  | .null => "NoneType"
  | .bool _ => "bool"
  | .int _ => "int"
  | .float _ => "float"
  | .text _ => "str"
  | .list _ => "list"
  | .map _ => "dict"
  | .date _ => "date"
  | .moment _ => "datetime"

end Datebook.Value
