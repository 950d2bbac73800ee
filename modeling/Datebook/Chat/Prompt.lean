import Datebook.Json.Writer
import Datebook.Operation.Catalog

/-!
This module contains what the language model is told before a conversation.
-/

namespace Datebook.Prompt

def insert (e : Entry) : Catalog → Catalog
  | [] => [e]
  | other :: rest => if other.kind.name ≤ e.kind.name then other :: insert e rest else e :: other :: rest

def sorted (catalog : Catalog) : Catalog := catalog.foldr insert []

def catalogText (catalog : Catalog) : String :=
  Json.write .indented (.list ((sorted catalog).map fun e => .map e.toRecord))

def dayAndTime (wall : Int) : String :=
  let c := ClockReading.ofMicros wall
  let day := Date.weekdayNames.getD c.date.weekday ""
  let numbers := (toString c.date.year).toList ++ '-' :: Text.padded 2 c.date.month ++
    '-' :: Text.padded 2 c.date.day ++ ' ' :: Text.padded 2 c.hour ++ ':' :: Text.padded 2 c.minute
  day ++ " " ++ String.ofList numbers

def text (wall : Int) (zone : String) : String :=
  "You are Calendar Copilot, a focused calendar assistant for students.\nToday is "
    ++ dayAndTime wall ++ " and the user's time zone is " ++ zone
    ++ ".\nWhen the user wants something done in their calendar, reply with one short sentence "
    ++ "followed by exactly one JSON object:\n"
    ++ "\x7b\"kind\": \"<operation>\", \"params\": \x7b...\x7d, "
    ++ "\"message\": \"<what you are doing, for the user>\"\x7d\n"
    ++ "Use RFC3339 date-times with an explicit offset. To change or remove an event without knowing "
    ++ "its id, pass \"searchQuery\".\n"
    ++ "If details are missing, make a reasonable assumption (60 minute duration, the primary "
    ++ "calendar) and say so in \"message\".\n"
    ++ "When no calendar action is needed, answer in plain text with no JSON and no code fences.\n"
    ++ "Available operations (kind, description, required and optional params):\n"
    ++ catalogText Catalog.standard

def at? [Host] (zone : String) (now : Instant) : Except Crash String :=
  match Zone.settled zone with
  | .error cause => .error cause
  | .ok known =>
    let wall := known.wallAt now
    if Instant.isSupported wall then .ok (text wall zone) else .error .dateOverflow

end Datebook.Prompt
