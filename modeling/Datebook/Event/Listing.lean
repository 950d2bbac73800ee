import Datebook.Event
import Datebook.Text.Line

/-!
This module contains the reading of events from a numbered listing, in which each event is a block of
labelled lines that starts with its number.
-/

namespace Datebook.Listing

def isGap (c : Char) : Bool :=
  c = ' ' || c = '\t'

def afterNumber (s : List Char) : Option (List Char) :=
  let s := s.dropWhile isGap
  if (s.takeWhile Text.isDigit).isEmpty then none
  else
    match s.dropWhile Text.isDigit with
    | '.' :: gap :: rest => if isGap gap then some (rest.dropWhile isGap) else none
    | _ => none

/--
The text after a record number that follows an empty line: a line feed, gaps and another line feed
stand before it.
-/
def afterDelimiter : List Char → Option (List Char)
  | '\n' :: rest =>
    match rest.dropWhile isGap with
    | '\n' :: rest => afterNumber rest
    | _ => none
  | _ => none

/--
The blocks of a text from a point inside one on, where `skip` characters belong to a delimiter
already found: the rest of the present block, and the blocks after it.
-/
def blocksFrom : Nat → List Char → List Char × List (List Char)
  | _, [] => ([], [])
  | skip + 1, _ :: rest => blocksFrom skip rest
  | 0, c :: rest =>
    match afterDelimiter (c :: rest) with
    | none =>
      let (block, blocks) := blocksFrom 0 rest
      (c :: block, blocks)
    | some after =>
      let (block, blocks) := blocksFrom (rest.length - after.length) rest
      ([], block :: blocks)

/--
The blocks of a listing: the texts after each record number, up to the next. What stands before the
first number is no block.
-/
def blocks (s : List Char) : List (List Char) :=
  match afterNumber s with
  | some after =>
    let (block, blocks) := blocksFrom 0 after
    block :: blocks
  | none => (blocksFrom 0 s).2

structure Labelled where
  label : String
  value : String
  deriving DecidableEq, Repr

def isLabel : List Char → Bool
  | [] => false
  | c :: rest => LongDate.isLetter c && rest.all fun c => LongDate.isLetter c || c = ' '

/--
Read a line as a labelled line. The label is what stands before the first colon, and is brought to
small letters; label and value are trimmed.
-/
def labelled? (line : List Char) : Option Labelled :=
  let label := Text.trim (line.takeWhile (· ≠ ':'))
  match line.dropWhile (· ≠ ':') with
  | [] => none
  | _ :: value =>
    if isLabel label then
      some ⟨String.ofList (label.map Char.toLower), String.ofList (Text.trim value)⟩
    else none

inductive Item where
  | title
  | id
  | description
  | start
  | finish
  | location
  | link
  | status
  | attendees
  | colorId
  deriving DecidableEq, Repr

def Item.ofLabel? : String → Option Item
  | "event" => some title
  | "title" => some title
  | "summary" => some title
  | "event id" => some id
  | "id" => some id
  | "description" => some description
  | "start" => some start
  | "end" => some finish
  | "location" => some location
  | "view" => some link
  | "link" => some link
  | "status" => some status
  | "attendees" => some attendees
  | "color id" => some colorId
  | _ => none

/--
The item that a line tells, with its value. The first line, if it has no known label, is the title.
-/
def itemOf (isFirst : Bool) (line : List Char) : Option (Item × String) :=
  let titled := if isFirst then some (Item.title, String.ofList (Text.trim line)) else none
  match labelled? line with
  | none => titled
  | some l =>
    match Item.ofLabel? l.label with
    | none => titled
    | some item => some (item, l.value)

def itemsOf : List (List Char) → List (Item × String)
  | [] => []
  | first :: rest => (itemOf true first).toList ++ rest.filterMap (itemOf false)

def items (block : List Char) : List (Item × String) :=
  itemsOf ((Text.lines block).filter fun line => !line.all Text.isBlank)

/--
The value of an item, as it is told first; the empty text if it is not told.
-/
def first (items : List (Item × String)) (item : Item) : String :=
  (items.lookup item).getD ""

def nonempty? (s : String) : Option String :=
  if s = "" then none else some s

def commaList (s : String) : List String :=
  ((Text.parts ',' s.toList).map fun part => String.ofList (Text.trim part)).filter (· ≠ "")

/--
Read an event from a block. It needs an identifier and two readable times.
-/
def eventOf (block : List Char) : Except Fault (Option Event) :=
  let get := first (items block)
  if get .id = "" ∨ get .start = "" ∨ get .finish = "" then .ok none
  else
    let times : Except Fault (String × String) := do
      let start ← EventTime.read (.text (get .start))
      let finish ← EventTime.read (.text (get .finish))
      .ok (start, finish)
    match Event.readable? times with
    | .error e => .error e
    | .ok none => .ok none
    | .ok (some (start, finish)) =>
      .ok <| some
        { title := (nonempty? (get .title)).getD Event.untitled
          start
          finish
          id := some (get .id)
          description := get .description
          location := get .location
          attendees := commaList (get .attendees)
          colorId := nonempty? (get .colorId)
          status := nonempty? (get .status)
          link := nonempty? (get .link) }

def eventsOf : List (List Char) → Except Fault (List Event)
  | [] => .ok []
  | block :: rest => do
    let event ← eventOf block
    let events ← eventsOf rest
    .ok (event.toList ++ events)

def events (s : String) : Except Fault (List Event) :=
  eventsOf (blocks s.toList)

end Datebook.Listing
