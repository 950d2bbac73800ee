import Datebook.Event
import Datebook.Event.Listing

/-!
This module contains calendars, the records in which they are exchanged, and the reading of calendars
from a listing of lines such as `Name (identifier)` with details below them.
-/

namespace Datebook

structure Calendar where
  id : String
  summary : String
  primary : Bool := false
  timeZone : Option String := none
  accessRole : Option String := none
  deriving DecidableEq, Repr

namespace Calendar

def toRecord (c : Calendar) : Fields :=
  [("id", .text c.id), ("summary", .text c.summary), ("primary", .bool c.primary)]
    ++ Event.optionalField "timeZone" (c.timeZone.filter (· ≠ ""))
    ++ Event.optionalField "accessRole" (c.accessRole.filter (· ≠ ""))

def ofRecord [Host] (record : Fields) : Except Fault (Option Calendar) := do
  let get := Fields.get record
  match ← Field.nonemptyText? (get "id") with
  | none => .ok none
  | some id =>
    let name := ((get "summaryOverride").orElse (get "summary")).orElse (get "name")
    let summary ← Field.nonemptyText? name
    let timeZone ← Field.nonemptyText? (get "timeZone")
    let accessRole ← Field.nonemptyText? (get "accessRole")
    .ok <| some
      { id
        summary := summary.getD id
        primary := (get "primary").isTruthy
        timeZone
        accessRole }

/--
The identifier in parentheses at the start of a text, blanks before it: at least one character, none
of them a parenthesis.
-/
def parenthesised? (s : List Char) : Option (List Char) :=
  match Text.trimStart s with
  | '(' :: rest =>
    let inside := rest.takeWhile fun c => c ≠ '(' && c ≠ ')'
    match rest.dropWhile fun c => c ≠ '(' && c ≠ ')' with
    | ')' :: _ => if inside.isEmpty then none else some inside
    | _ => none
  | _ => none

/--
Split a text into the shortest name, of at least one character, and the identifier in parentheses
after it.
-/
def nameAndId? : List Char → Option (List Char × List Char)
  | [] => none
  | c :: rest =>
    match parenthesised? rest with
    | some id => some ([c], id)
    | none => (nameAndId? rest).map fun (name, id) => (c :: name, id)

/--
The texts that are left when some of the blanks at the start of a text are taken away, the one with
the fewest blanks first.
-/
def withoutBlanks (s : List Char) : List (List Char) :=
  match s with
  | [] => [[]]
  | c :: rest => if Text.isBlank c then (withoutBlanks rest) ++ [c :: rest] else [c :: rest]

/--
The texts that are left after a number, a point and one or more blanks, the one with the fewest
blanks first; none where no number starts the text.
-/
def afterNumber (s : List Char) : List (List Char) :=
  if (s.takeWhile Text.isDigit).isEmpty then []
  else
    match s.dropWhile Text.isDigit with
    | '.' :: c :: rest => if Text.isBlank c then withoutBlanks rest else []
    | _ => []

/--
The places where the name on a line may start, in the order in which they are tried: after a record
number, then at the first character that is not blank, then at the blanks before it.
-/
def nameStarts (line : List Char) : List (List Char) :=
  afterNumber (Text.trimStart line) ++ withoutBlanks line

def containsText (part : List Char) : List Char → Bool
  | [] => part.isEmpty
  | c :: rest => part.isPrefixOf (c :: rest) || containsText part rest

/--
Read the line that announces a calendar. An identifier that is blank or holds a space is refused.
-/
def ofLine? (line : List Char) : Option Calendar :=
  match (nameStarts line).findSome? nameAndId? with
  | none => none
  | some (name, id) =>
    let id := Text.trim id
    if id.isEmpty ∨ id.contains ' ' then none
    else
      some
        { id := String.ofList id
          summary := String.ofList (Text.trim name)
          primary := containsText "PRIMARY".toList line }

def addDetail (label value : String) (calendar : Calendar) : Calendar :=
  match label with
  | "timezone" | "time zone" => { calendar with timeZone := Listing.nonempty? value }
  | "access role" | "access" => { calendar with accessRole := Listing.nonempty? value }
  | _ => calendar

def updateLast (f : Calendar → Calendar) : List Calendar → List Calendar
  | [] => []
  | [c] => [f c]
  | c :: rest => c :: updateLast f rest

/--
The calendars known after one more line: a labelled line adds a detail to the last calendar, and any
other may announce a calendar.
-/
def addLine (calendars : List Calendar) (line : List Char) : List Calendar :=
  if line.all Text.isBlank then calendars
  else
    match Listing.labelled? line with
    | some l => updateLast (addDetail l.label l.value) calendars
    | none => calendars ++ (ofLine? line).toList

def ofListing (s : String) : List Calendar :=
  (Text.lines s.toList).foldl addLine []

end Calendar

end Datebook
