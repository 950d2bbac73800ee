import Datebook.Chat.Prompt
import Datebook.Chat.Retry
import Datebook.Settings

/-!
This module contains conversations: the language model is asked for a reply, the command in the
reply is carried out, and the user is told how it went.
-/

namespace Datebook

structure ModelRequest where
  model : String
  messages : List Value
  deriving Repr

def ModelRequest.temperature : Binary64 := .ofDecimal false 2 (-1)

structure LanguageModel (μ : Type) where
  reply : μ → ModelRequest → Except String (Option String) × μ

inductive ModelFault where
  | unconfigured
  | failed (text : String)
  | crash (cause : Crash)
  deriving DecidableEq, Repr

def ModelFault.message : ModelFault → String
  | unconfigured => "Language model client is not configured."
  | failed text => text
  | crash cause => cause.message

def message (role content : String) : Value :=
  .map [("role", .text role), ("content", .text content)]

/--
What the user is told about a reply and the outcome of the command in it. A reply without a command
is shown as it is.
-/
def Outcome.render (text : String) (o : Outcome) : String :=
  if o.isFallthrough then Text.strip text
  else
    match o with
    | .success kind _ message =>
      if message = "" then "Done: " ++ ((kind.map Kind.name).getD "calendar request") ++ "."
      else message
    | .failure _ reason _ _ => "Sorry, I couldn't complete that calendar request: " ++ reason

structure ChatReply where
  text : String
  outcome : Option Outcome
  attempts : Nat
  deriving Repr

def ChatReply.hasCommand (r : ChatReply) : Bool :=
  r.outcome.any fun o => !o.isFallthrough

/--
Where conversations are held: the backend, what is settled, the time, and the language model if
there is one.
-/
structure Chat (σ μ : Type) where
  backend : Backend σ
  calendar : Preferences
  retry : RetrySettings
  settings : ModelSettings
  now : Instant
  model : Option (LanguageModel μ)

structure Turn (σ μ α : Type) where
  result : α
  state : σ
  modelState : μ
  trace : List Touch := []
  pauses : List Binary64 := []
  requests : List ModelRequest := []

namespace Chat

variable [Host] {σ μ : Type}

/--
Carry out the command in a text, trying again where the service failed. The clock is read anew for
each attempt.
-/
def runCommandBy (chat : Chat σ μ) (clock : σ → Instant) (text : String) (s : σ) :
    Tried σ Binary64 :=
  Retry.run (fun s => chat.backend.handle chat.calendar (clock s) text s)
    (Retry.doubled chat.retry.backoff) chat.retry.attempts 0 s

def runCommand (chat : Chat σ μ) (text : String) (s : σ) : Tried σ Binary64 :=
  chat.runCommandBy (fun _ => chat.now) text s

def messages (prompt : String) (history : List Value) (words : String) : List Value :=
  message "system" prompt :: history ++ [message "user" words]

def complete (chat : Chat σ μ) (history : List Value) (words : String) (m : μ) :
    Except ModelFault String × μ × List ModelRequest :=
  match chat.model with
  | none => (.error .unconfigured, m, [])
  | some model =>
    match Prompt.at? chat.calendar.zone chat.now with
    | .error cause => (.error (.crash cause), m, [])
    | .ok prompt =>
      let request : ModelRequest := ⟨chat.settings.model, messages prompt history words⟩
      match model.reply m request with
      | (.error text, m) => (.error (.failed text), m, [request])
      | (.ok content, m) => (.ok (content.getD ""), m, [request])

def unconfiguredText (settings : ModelSettings) : String :=
  let missing := Text.joined ", " settings.missing
  "The language model is not configured. Missing: "
    ++ (if missing = "" then "unknown" else missing) ++ "."

def respond (chat : Chat σ μ) (history : List Value) (words : String) (s : σ) (m : μ) :
    Turn σ μ (Except Crash ChatReply) :=
  match chat.model with
  | none =>
    { result := .ok ⟨unconfiguredText chat.settings, none, 0⟩, state := s, modelState := m }
  | some _ =>
    match chat.complete history words m with
    | (.error fault, m, requests) =>
      { result := .ok ⟨"Model request failed: " ++ fault.message, none, 0⟩
        state := s
        modelState := m
        requests }
    | (.ok content, m, requests) =>
      let tried := chat.runCommand content s
      { result := tried.result.map fun o => ⟨o.render content, some o, tried.attempts⟩
        state := tried.state
        modelState := m
        trace := tried.trace
        pauses := tried.pauses
        requests }

end Chat

end Datebook
