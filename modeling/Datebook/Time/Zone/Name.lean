import Datebook.Host

/-!
This module contains the finding of zones by name. A name in the settings is taken as it stands; a
name in a command is trimmed, and the default stands in where there is none.
-/

namespace Datebook.Zone

/--
The steps of a relative path with one more step. Empty steps and single dots lead nowhere, and two dots
take the last step back, unless that one leads up too. The last step stands first.
-/
def addStep : List (List Char) → List Char → List (List Char)
  | steps, [] => steps
  | steps, ['.'] => steps
  | [], step => [step]
  | last :: steps, step =>
    if step ≠ ['.', '.'] ∨ last = ['.', '.'] then step :: last :: steps else steps

def stepsOf (path : List Char) : List (List Char) :=
  ((Text.parts '/' path).foldl addStep []).reverse

def pathOf (steps : List (List Char)) : List Char :=
  if steps.isEmpty then ['.'] else ['/'].intercalate steps

/--
What keeps a text from being the path of a zone below the directory of zones. The directory counts as
called `_`, so that a path which leaves it comes back to it under that name.
-/
def flaw? (name : String) : Option ZoneFlaw :=
  let path := name.toList
  let steps := stepsOf path
  if path.head? = some '/' then some .absolute
  else if (pathOf steps).length ≠ path.length then some .unnormalized
  else
    match (steps.foldl addStep [['_']]).reverse with
    | ['_'] :: _ :: _ => none
    | _ => some .outside

variable [Host]

def isKnown (name : String) : Bool :=
  (Host.zone? name).isSome

/--
The zone of a name from the settings, which is not checked before.
-/
def settled (name : String) : Except Crash Zone :=
  match Host.zone? name with
  | some zone => .ok zone
  | none =>
    match flaw? name with
    | none => .error (.unknownZone name)
    | some flaw => .error (.malformedZone flaw name)

/--
The name of a zone as given, or the default where none is given. The name has to be known.
-/
def resolve (zone : Value) (default : String) : Except Fault String :=
  let given := match zone with
    | .text s => Text.strip s
    | _ => ""
  let name := if given = "" then default else given
  if isKnown name then .ok name else .error (.field (.unknownZone name))

end Datebook.Zone
