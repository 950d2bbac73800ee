import Datebook.CommandLine
import Datebook.Link.ToolResult
import Datebook.Rehearsal.Line
import Datebook.Rehearsal.Model
import Datebook.Settings.Log

/-!
This module contains the program: what it writes and how it ends for given arguments, input and
environment. The sessions of the service and the replies of the language model are prepared.
-/

namespace Datebook.Program

inductive Failure where
  | settings (fault : SettingsFault)
  | log (fault : Log.Fault)
  | crash (cause : Crash)
  | unwritable
  deriving Repr

structure Report where
  ending : Except Failure Nat
  output : String
  line : Rehearsal.Line
  requests : List ModelRequest := []
  model : Option ModelSettings := none

structure Surroundings where
  input : String
  environment : Environment
  sessions : List Rehearsal.Prepared
  replies : Rehearsal.Replies
  now : Instant

namespace Surroundings

def line (s : Surroundings) (server : ServerSettings) : Rehearsal.Line :=
  .fresh server.isConfigured server.patience s.sessions

def unused (s : Surroundings) : Rehearsal.Line := .fresh false .ample s.sessions

end Surroundings

def dump (o : Outcome) : Except Failure String :=
  let v := Value.map o.toRecord
  if Json.isWritable v then .ok (Json.write .indented v) else .error .unwritable

variable [Host]

/--
Carry out the command in a text, and write the outcome, or the text if there is no command in it.
-/
def interpret (s : Surroundings) (settings : Settings) (text : String) : Report :=
  let run := Rehearsal.line.handle settings.calendar s.now text (s.line settings.server)
  let line := run.state.disconnect
  match run.result with
  | .error cause => { ending := .error (.crash cause), output := "", line }
  | .ok o =>
    if o.isFallthrough then { ending := .ok 0, output := Text.strip text ++ "\n", line }
    else
      match dump o with
      | .error e => { ending := .error e, output := "", line }
      | .ok s => { ending := .ok (if o.isOk then 0 else 1), output := s ++ "\n", line }

def ping (s : Surroundings) (settings : Settings) : Report :=
  let operation := "get-current-time"
  let (live, line) := (s.line settings.server).connect .connect
  if !live then
    let output := Json.write .compact (.map [("connected", .bool false)]) ++ "\n"
    { ending := .ok 1, output, line := line.disconnect }
  else
    let (answer, line) := line.ask (.call operation [])
    let line := line.disconnect
    match answer with
    | .ok v =>
      let record := Value.map [("connected", .bool true), ("currentTime", v)]
      if Json.isWritable record then
        { ending := .ok 0, output := Json.write .indented record ++ "\n", line }
      else { ending := .error .unwritable, output := "", line }
    | .error (.backend fault) =>
      let record := Value.map [("connected", .bool true), ("error", .text fault.message)]
      { ending := .ok 1, output := Json.write .compact record ++ "\n", line }
    | .error (.crash cause) => { ending := .error (.crash cause), output := "", line }
    | .error fault =>
      let cause := Crash.broken ((fault.report.map (·.2)).toOption.getD "")
      { ending := .error (.crash cause), output := "", line }

def inputLines (s : String) : List (List Char) :=
  match (Text.parts '\n' s.toList).reverse with
  | [] :: rest => rest.reverse
  | all => all.reverse

/--
Hold the rest of a conversation: each line that is not blank is answered, with the outcome of the
command in the reply. `history` is what was said so far.
-/
def converse (chat : Chat Rehearsal.Line Rehearsal.Replies) (history : List Value)
    (line : Rehearsal.Line) (replies : Rehearsal.Replies) : List (List Char) → Report
  | [] => { ending := .ok 0, output := "> ", line := line.disconnect }
  | words :: rest =>
    if words.all Text.isBlank then { ending := .ok 0, output := "> ", line := line.disconnect }
    else
      let said := String.ofList words
      let turn := chat.respond history said line replies
      match turn.result with
      | .error cause =>
        { ending := .error (.crash cause)
          output := "> "
          line := turn.state.disconnect
          requests := turn.requests }
      | .ok reply =>
        let shown : Except Failure String :=
          match reply.outcome with
          | none => .ok ""
          | some o => if o.isFallthrough then .ok "" else (dump o).map (· ++ "\n")
        match shown with
        | .error e =>
          { ending := .error e
            output := "> " ++ reply.text ++ "\n"
            line := turn.state.disconnect
            requests := turn.requests }
        | .ok shown =>
          let history := history ++ [message "user" said, message "assistant" reply.text]
          let later := converse chat history turn.state turn.modelState rest
          { later with
            output := "> " ++ reply.text ++ "\n" ++ shown ++ later.output
            requests := turn.requests ++ later.requests }

def chat (s : Surroundings) (settings : Settings) : Report :=
  let configured := settings.model.isConfigured
  let chat : Chat Rehearsal.Line Rehearsal.Replies :=
    { backend := Rehearsal.line
      calendar := settings.calendar
      retry := settings.retry
      settings := settings.model
      now := s.now
      model := if configured then some Rehearsal.model else none }
  let report := converse chat [] (s.line settings.server) s.replies (inputLines s.input)
  { report with
    output := "Calendar Copilot. Empty line or Ctrl-D to quit.\n" ++ report.output
    model := if configured then some settings.model else none }

def perform (s : Surroundings) (settings : Settings) : CommandLine.Task → Report
  | .interpret text => interpret s settings (text.getD s.input)
  | .chat => chat s settings
  | .ping => ping s settings

/--
Run the program. Arguments that cannot be used end it with the status 2.
-/
def run (s : Surroundings) (args : List String) : Report :=
  match CommandLine.parse? args with
  | none => { ending := .ok 2, output := "", line := s.unused }
  | some (.help topic) => { ending := .ok 0, output := topic.help, line := s.unused }
  | some (.run level task) =>
    match Log.levelOr s.environment level with
    | .error e => { ending := .error (.log e), output := "", line := s.unused }
    | .ok least =>
      match Settings.ofEnvironment s.environment with
      | .error e => { ending := .error (.settings e), output := "", line := s.unused }
      | .ok settings =>
        let calendar := { settings.calendar with detailed := least ≤ Log.detail }
        perform s { settings with calendar } task

end Datebook.Program
