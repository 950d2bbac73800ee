import Datebook.Text.Blank
import Datebook.Value

/-!
This module contains calendar commands: the kinds of things that can be asked of a calendar, and a
command with its parameters.
-/

namespace Datebook

inductive Kind where
  | create
  | list
  | search
  | update
  | delete
  | availability
  | listCalendars
  | listColors
  | currentTime
  | freeBusy
  deriving DecidableEq, Repr, Inhabited

namespace Kind

def all : List Kind :=
  [.create, .list, .search, .update, .delete, .availability, .listCalendars, .listColors,
   .currentTime, .freeBusy]

def name : Kind → String
  | create => "create"
  | list => "list"
  | search => "search"
  | update => "update"
  | delete => "delete"
  | availability => "availability"
  | listCalendars => "list-calendars"
  | listColors => "list-colors"
  | currentTime => "current-time"
  | freeBusy => "free-busy"

/--
One character of a loosely written name: capitals count as small letters, and an underscore and a
space as a hyphen. The names hold plain characters only, so only these have to be brought to one
form.
-/
def loose (c : Char) : Char :=
  if c = '_' ∨ c = ' ' then '-' else c.toLower

def ofText? (s : String) : Option Kind :=
  let s := String.ofList ((Text.trim s.toList).map loose)
  all.find? (·.name == s)

def ofValue? : Value → Option Kind
  | .text s => ofText? s
  | _ => none

end Kind

structure Command where
  kind : Kind
  params : Fields
  message : String
  deriving Repr

namespace Command

/--
The first parameter among `names` that is neither absent nor blank; `null` if there is none.
-/
def param (params : Fields) : List String → Value
  | [] => .null
  | name :: rest =>
    let v := Fields.get params name
    if v.isAbsent then param params rest else v

end Command

end Datebook
