import Datebook.Link.ToolResult

/-!
This module contains the connection to the calendar service as a machine that many tasks use at once.
Each event is what happens between two points at which tasks wait: a task starts and runs up to its
first wait, an attempt to connect gets one step further, or something that a task waits for comes
about. All interleavings of tasks are sequences of events.
-/

namespace Datebook

inductive Request where
  | connect
  | ensure
  | call (operation : String) (args : Fields)
  | invoke (operation : String) (args : Fields)
  | disconnect
  deriving Repr

inductive Ending where
  | live (connected : Bool)
  | answered (answer : Except Fault Value)
  | closed
  | cancelled

inductive Attempt where
  | created
  | entering (session : Nat)
  /-- The session has been entered; the attempt still has to go on. -/
  | entered (session : Nat)
  | finished (live : Bool)
  deriving DecidableEq, Repr

inductive Wait where
  /-- The end of an attempt, and then possibly a call. -/
  | attempt (id : Nat) (goal : Option (String × Fields))
  | reply (session : Nat) (operation : String)
  /-- The close of a session, after which the task ends. -/
  | closing (session : Nat) (ending : Ending)

/--
What has happened to a session: how often it was entered and closed, and the calls made in it.
-/
structure Session where
  entered : Nat := 0
  closed : Nat := 0
  calls : List (String × Fields) := []
  deriving Repr

inductive Entrance where
  | entered
  | failed
  | expired
  deriving DecidableEq, Repr

inductive Happening where
  | start (task : Nat) (request : Request)
  /-- An attempt begins; the flag tells whether a session can be built. -/
  | build (attempt : Nat) (built : Bool)
  | enter (attempt : Nat) (outcome : Entrance)
  | adopt (attempt : Nat)
  | wake (task : Nat)
  /-- A task that waits is given up; an attempt that it waits for goes on. -/
  | cancel (task : Nat)
  | reply (task : Nat) (outcome : Except String ToolResult)
  | closed (task : Nat)

/--
The connection. `client` and `stack` are the session that calls go to and the session that has to be
closed; `remembered` is the attempt that further requests to connect join.
-/
structure Link where
  configured : Bool
  connected : Bool := false
  client : Option Nat := none
  stack : Option Nat := none
  remembered : Option Nat := none
  attempts : List Attempt := []
  sessions : List Session := []
  asked : Nat := 0
  tasks : List (Nat × Wait) := []
  endings : List (Nat × Ending) := []

namespace Link

def fresh (configured : Bool) : Link := { configured }

def finish (link : Link) (task : Nat) (ending : Ending) : Link :=
  { link with
    tasks := link.tasks.filter fun entry => entry.1 ≠ task
    endings := (task, ending) :: link.endings }

def await (link : Link) (task : Nat) (wait : Wait) : Link :=
  { link with tasks := (task, wait) :: link.tasks.filter fun entry => entry.1 ≠ task }

def forget (link : Link) (id : Nat) : Link :=
  if link.remembered = some id then { link with remembered := none } else link

def note (link : Link) (session : Nat) (f : Session → Session) : Link :=
  { link with sessions := link.sessions.modify session f }

def beginCall (link : Link) (task : Nat) (operation : String) (args : Fields) : Link :=
  match link.connected, link.client with
  | true, some session =>
    (link.note session fun s => { s with calls := s.calls ++ [(operation, args)] }).await task
      (.reply session operation)
  | _, _ => link.finish task (.answered (.error (.backend .unavailable)))

def resume (link : Link) (task id : Nat) (live : Bool) (goal : Option (String × Fields)) : Link :=
  let link := link.forget id
  match goal with
  | none => link.finish task (.live live)
  | some (operation, args) =>
    if live then link.beginCall task operation args
    else link.finish task (.answered (.error (.backend .unavailable)))

/--
Join the attempt that is remembered, or make a new one. An attempt that has ended already is not
waited for.
-/
def beginConnect (link : Link) (task : Nat) (goal : Option (String × Fields)) : Link :=
  match link.remembered with
  | some id =>
    match link.attempts[id]? with
    | some (.finished live) => link.resume task id live goal
    | _ => link.await task (.attempt id goal)
  | none =>
    let id := link.attempts.length
    let link := { link with attempts := link.attempts ++ [Attempt.created], remembered := some id }
    link.await task (.attempt id goal)

/--
Drop the session in use and start to close it; the task ends once that is done.
-/
def beginClose (link : Link) (task : Nat) (ending : Ending) : Link :=
  let dropped := { link with connected := false, client := none, stack := none }
  match link.stack with
  | none => dropped.finish task ending
  | some session =>
    (dropped.note session fun s => { s with closed := s.closed + 1 }).await task
      (.closing session ending)

def begin (link : Link) (task : Nat) : Request → Link
  | .connect | .ensure =>
    if link.connected then link.finish task (.live true) else link.beginConnect task none
  | .call operation args => link.beginCall task operation args
  | .invoke operation args =>
    if link.connected then link.beginCall task operation args
    else link.beginConnect task (some (operation, args))
  | .disconnect => link.beginClose task .closed

/--
An attempt begins. If no service is configured it ends without asking for a session.
-/
def build (link : Link) (id : Nat) (built : Bool) : Link :=
  match link.attempts[id]? with
  | some .created =>
    if !link.configured then { link with attempts := link.attempts.set id (.finished false) }
    else
      let link := { link with asked := link.asked + 1 }
      if built then
        { link with
          attempts := link.attempts.set id (.entering link.sessions.length)
          sessions := link.sessions ++ [Session.mk 0 0 []] }
      else { link with attempts := link.attempts.set id (.finished false) }
  | _ => link

/--
The entry into a session ends. Without a session the attempt ends at once.
-/
def enter (link : Link) (id : Nat) (outcome : Entrance) : Link :=
  match link.attempts[id]? with
  | some (.entering session) =>
    let entered (link : Link) := link.note session fun s => { s with entered := s.entered + 1 }
    match outcome with
    | .entered => entered { link with attempts := link.attempts.set id (.entered session) }
    | .failed => entered { link with attempts := link.attempts.set id (.finished false) }
    | .expired => { link with attempts := link.attempts.set id (.finished false) }
  | _ => link

/--
An attempt ends whose session has been entered. The session is the one in use from now on.
-/
def adopt (link : Link) (id : Nat) : Link :=
  match link.attempts[id]? with
  | some (.entered session) =>
    { link with
      attempts := link.attempts.set id (.finished true)
      connected := true
      client := some session
      stack := some session }
  | _ => link

def waitOf (link : Link) (task : Nat) : Option Wait := link.tasks.lookup task

def wake (link : Link) (task : Nat) : Link :=
  match link.waitOf task with
  | some (.attempt id goal) =>
    match link.attempts[id]? with
    | some (.finished live) => link.resume task id live goal
    | _ => link
  | _ => link

/--
A task that waits is given up. An attempt that it waits for stays remembered unless it has ended.
-/
def cancel (link : Link) (task : Nat) : Link :=
  match link.waitOf task with
  | none => link
  | some (.attempt id _) =>
    let link :=
      match link.attempts[id]? with
      | some (.finished _) => link.forget id
      | _ => link
    link.finish task .cancelled
  | some _ => link.finish task .cancelled

/--
A call is answered. If the transport failed, whatever session is in use is dropped.
-/
def reply (link : Link) (task : Nat) (outcome : Except String ToolResult) : Link :=
  match link.waitOf task with
  | some (.reply _ operation) =>
    match outcome with
    | .ok result =>
      link.finish task (.answered ((result.decode operation).mapError .backend))
    | .error text =>
      link.beginClose task (.answered (.error (.backend (.transport operation text))))
  | _ => link

def closed (link : Link) (task : Nat) : Link :=
  match link.waitOf task with
  | some (.closing _ ending) => link.finish task ending
  | _ => link

/--
The connection after an event. An event that cannot happen changes nothing.
-/
def step (link : Link) : Happening → Link
  | .start task request => link.begin task request
  | .build id built => link.build id built
  | .enter id outcome => link.enter id outcome
  | .adopt id => link.adopt id
  | .wake task => link.wake task
  | .cancel task => link.cancel task
  | .reply task outcome => link.reply task outcome
  | .closed task => link.closed task

def run (link : Link) (happenings : List Happening) : Link :=
  happenings.foldl step link

end Link

end Datebook
