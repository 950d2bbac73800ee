import Datebook.Backend
import Datebook.Link
import Datebook.Settings

/-!
This module contains a connection whose sessions are prepared beforehand. The happenings on it come
in the order in which the requests are made, each request being seen through before the next, except
that several requests to connect may be made at once.
-/

namespace Datebook.Rehearsal

inductive Opening where
  | succeeds
  /-- The entry succeeds, but has to wait for a moment. -/
  | lingers
  | fails
  /-- The entry never ends, so that the time for it runs out. -/
  | hangs
  /-- The session cannot even be built. -/
  | unbuilt
  deriving DecidableEq, Repr

/--
A prepared session: how it is entered, and how its calls are answered, each with a tool's answer or
with the text of a transport error. The last answer repeats.
-/
structure Prepared where
  opening : Opening := .succeeds
  answers : List (Except String ToolResult) := []

structure Line where
  link : Link
  patience : Patience
  upcoming : List Prepared
  playing : List (List (Except String ToolResult))

namespace Line

def fresh (configured : Bool) (patience : Patience) (sessions : List Prepared) : Line :=
  ⟨.fresh configured, patience, sessions, []⟩

def happen (line : Line) (h : Happening) : Line :=
  { line with link := line.link.step h }

def pending? (line : Line) : Option Nat :=
  match line.link.remembered with
  | none => none
  | some id => if line.link.attempts[id]? = some .created then some id else none

/--
Let the pending attempt begin. It takes the next prepared session, unless no service is configured.
-/
def build (line : Line) : Line :=
  match line.pending? with
  | none => line
  | some id =>
    if !line.link.configured then line.happen (.build id false)
    else
      match line.upcoming with
      | [] => line.happen (.build id false)
      | session :: rest =>
        let line := { line with upcoming := rest }
        if session.opening = .unbuilt then line.happen (.build id false)
        else { line with playing := line.playing ++ [session.answers] }.happen (.build id true)

def entranceOf (line : Line) (opening : Opening) : Entrance :=
  match line.patience, opening with
  | .none, _ => .expired
  | _, .succeeds => .entered
  | .ample, .lingers => .entered
  | _, _ => .failed

def enter (line : Line) (opening : Opening) : Line :=
  match line.link.remembered with
  | none => line
  | some id => (line.happen (.enter id (line.entranceOf opening))).happen (.adopt id)

def nextOpening (line : Line) : Opening :=
  (line.upcoming.head?.map (·.opening)).getD .unbuilt

def attempt (line : Line) : Line :=
  let opening := line.nextOpening
  line.build.enter opening

def nextAnswer (line : Line) (session : Nat) : Except String ToolResult × Line :=
  match line.playing[session]? with
  | some [last] => (last, line)
  | some (answer :: rest) => (answer, { line with playing := line.playing.set session rest })
  | _ => (.ok {}, line)

def advance (line : Line) (task : Nat) : Line :=
  match line.link.waitOf task with
  | none => line
  | some (.attempt ..) => line.attempt.happen (.wake task)
  | some (.reply session _) =>
    let (answer, line) := line.nextAnswer session
    line.happen (.reply task answer)
  | some (.closing ..) => line.happen (.closed task)

/--
See a request through. A task waits at most three times: for an attempt, an answer and a close.
-/
def perform (line : Line) (request : Request) : Line :=
  ((((line.happen (.start 0 request)).advance 0).advance 0).advance 0)

def take (line : Line) (task : Nat) : Option Ending × Line :=
  (line.link.endings.lookup task,
   { line with
     link := { line.link with endings := line.link.endings.filter fun e => e.1 ≠ task } })

def connect (line : Line) (request : Request) : Bool × Line :=
  match (line.perform request).take 0 with
  | (some (.live live), line) => (live, line)
  | (_, line) => (false, line)

def ask (line : Line) (request : Request) : Except Fault Value × Line :=
  match (line.perform request).take 0 with
  | (some (.answered answer), line) => (answer, line)
  | (_, line) => (.error (.backend .unavailable), line)

def disconnect (line : Line) : Line :=
  ((line.perform .disconnect).take 0).2

/--
Make several requests to connect at once. If `giveUp` is set the first is given up once the attempt
has begun.
-/
def connectMany (line : Line) (count : Nat) (giveUp : Bool) : List (Option Ending) × Line :=
  let tasks := List.range count
  let line := tasks.foldl (fun line task => line.happen (.start task .connect)) line
  let opening := line.nextOpening
  let line := line.build
  let line := if giveUp then line.happen (.cancel 0) else line
  let line := line.enter opening
  let line := tasks.foldl (fun line task => line.happen (.wake task)) line
  tasks.foldl
    (fun (endings, line) task =>
      let (ending, line) := line.take task
      (endings ++ [ending], line))
    ([], line)

end Line

def line : Backend Line where
  isConnected l := l.link.connected
  connect l := l.connect .connect
  call l operation args := l.ask (.call operation args)

end Datebook.Rehearsal
