import Datebook.Operation.Catalog
import Datebook.Outcome

/-!
This module contains the carrying out of plans. A backend is anything that can be connected to and
called; carrying out a plan also gives the trace of everything that was done with it.
-/

namespace Datebook

/--
A calendar service as its user sees it: whether it is connected, an attempt to connect, and a call of
an operation. The state is the backend's own.
-/
structure Backend (σ : Type) where
  isConnected : σ → Bool
  connect : σ → Bool × σ
  call : σ → String → Fields → Except Fault Value × σ

inductive Touch where
  | connect (live : Bool)
  | call (operation : String) (args : Fields) (answer : Except Fault Value)

structure Run (σ α : Type) where
  result : α
  state : σ
  trace : List Touch

namespace Backend

variable [Host] {σ : Type}

def ensure (b : Backend σ) (s : σ) : Run σ Bool :=
  if b.isConnected s then ⟨true, s, []⟩
  else
    let (live, s) := b.connect s
    ⟨live, s, [.connect live]⟩

def callOnce (b : Backend σ) (s : σ) (operation : String) (args : Fields) :
    Run σ (Except Fault Value) :=
  let (answer, s) := b.call s operation args
  ⟨answer, s, [.call operation args answer]⟩

/--
Connect if need be and call an operation. Without a connection the service is not called.
-/
def invoke (b : Backend σ) (s : σ) (operation : String) (args : Fields) :
    Run σ (Except Fault Value) :=
  let connected := b.ensure s
  if connected.result then
    let called := b.callOnce connected.state operation args
    { called with trace := connected.trace ++ called.trace }
  else ⟨.error (.backend .unavailable), connected.state, connected.trace⟩

/--
Carry out a plan. A fault of the service ends it.
-/
def run {α : Type} (b : Backend σ) : Plan α → σ → Run σ (Except Fault α)
  | .done result, s => ⟨result, s, []⟩
  | .invoke operation args next, s =>
    let asked := b.invoke s operation args
    match asked.result with
    | .error e => ⟨.error e, asked.state, asked.trace⟩
    | .ok answer =>
      let rest := b.run (next answer) asked.state
      { rest with trace := asked.trace ++ rest.trace }

def dispatch (b : Backend σ) (prefs : Preferences) (now : Instant) (command : Command) (s : σ) :
    Run σ (Except Crash Outcome) :=
  let run := b.run (command.plan prefs now) s
  { run with result := Outcome.ofResult command run.result }

def handle (b : Backend σ) (prefs : Preferences) (now : Instant) (text : String) (s : σ) :
    Run σ (Except Crash Outcome) :=
  match Command.read text with
  | .error cause => ⟨.error cause, s, []⟩
  | .ok (.error refusal) => ⟨.ok (.ofRefusal refusal), s, []⟩
  | .ok (.ok command) => b.dispatch prefs now command s

def resolve (b : Backend σ) (prefs : Preferences) (now : Instant) (query : Value)
    (window : Option Window) (calendarId : String) (s : σ) : Run σ (Except Fault (Option Event)) :=
  b.run (Target.find prefs now query window calendarId) s

end Backend

end Datebook
