import Datebook.Proofs.Link
import Datebook.Rehearsal.Line

/-!
This module contains a machine of two states, out of contact or in contact with one session, which
says what a connection does whose requests come one after another; and the verification of what it
keeps.
-/

namespace Datebook.Rehearsal

/--
The machine of two states. `contact` is the session in use, if there is one. The rest is not its
own: what is prepared, how often a session was asked for, and what has happened to each session.
-/
structure Desk where
  configured : Bool
  patience : Patience
  upcoming : List Prepared
  playing : List (List (Except String ToolResult)) := []
  contact : Option Nat := none
  asked : Nat := 0
  sessions : List Session := []

def drawn (playing : List (List (Except String ToolResult))) (session : Nat)
    : Except String ToolResult × List (List (Except String ToolResult)) :=
  match playing[session]? with
  | some [last] => (last, playing)
  | some (answer :: rest) => (answer, playing.set session rest)
  | _ => (.ok {}, playing)

namespace Desk

def note (desk : Desk) (session : Nat) (f : Session → Session) : Desk :=
  { desk with sessions := desk.sessions.modify session f }

def enters (patience : Patience) (opening : Opening) : Bool :=
  match patience, opening with
  | .none, _ => false
  | _, .succeeds => true
  | .ample, .lingers => true
  | _, _ => false

def entries (patience : Patience) : Nat :=
  if patience = .none then 0 else 1

/--
Come into contact, if there is none. Where a service is configured the next session is asked for
once, and it is in use from now on if it can be built and entered.
-/
def connect (desk : Desk) : Bool × Desk :=
  if desk.contact.isSome then (true, desk)
  else if !desk.configured then (false, desk)
  else
    let desk := { desk with asked := desk.asked + 1 }
    match desk.upcoming with
    | [] => (false, desk)
    | next :: rest =>
      let desk := { desk with upcoming := rest }
      if next.opening = .unbuilt then (false, desk)
      else
        let session := desk.sessions.length
        let desk :=
          { desk with
            sessions := desk.sessions ++ [Session.mk (entries desk.patience) 0 []]
            playing := desk.playing ++ [next.answers] }
        if enters desk.patience next.opening then (true, { desk with contact := some session })
        else (false, desk)

def disconnect (desk : Desk) : Desk :=
  match desk.contact with
  | none => desk
  | some session =>
    { desk with contact := none }.note session fun s => { s with closed := s.closed + 1 }

def nextAnswer (desk : Desk) (session : Nat) : Except String ToolResult × Desk :=
  ((drawn desk.playing session).1, { desk with playing := (drawn desk.playing session).2 })

def answer (desk : Desk) (session : Nat) (operation : String) : Except Fault Value × Desk :=
  match desk.nextAnswer session with
  | (.ok result, desk) => ((result.decode operation).mapError .backend, desk)
  | (.error text, desk) => (.error (.backend (.transport operation text)), desk.disconnect)

def call (desk : Desk) (operation : String) (args : Fields) : Except Fault Value × Desk :=
  match desk.contact with
  | none => (.error (.backend .unavailable), desk)
  | some session =>
    (desk.note session fun s => { s with calls := s.calls ++ [(operation, args)] }).answer session
      operation

def serve (desk : Desk) : Request → Ending × Desk
  | .connect | .ensure => (.live desk.connect.1, desk.connect.2)
  | .call operation args =>
    (.answered (desk.call operation args).1, (desk.call operation args).2)
  | .invoke operation args =>
    if desk.connect.1 then
      (.answered (desk.connect.2.call operation args).1, (desk.connect.2.call operation args).2)
    else (.answered (.error (.backend .unavailable)), desk.connect.2)
  | .disconnect => (.closed, desk.disconnect)

def serveAll (desk : Desk) : List Request → List Ending × Desk
  | [] => ([], desk)
  | request :: rest =>
    let (ending, desk) := desk.serve request
    let (endings, desk) := desk.serveAll rest
    (ending :: endings, desk)

/-! What connecting does -/

variable {desk : Desk} {session : Nat}

theorem connect_of_some (h : desk.contact = some session) : desk.connect = (true, desk) := by
  unfold connect
  rw [h]
  rfl

/--
What connecting can come to: contact as before, no service, no session, a session that could not be
entered, or contact with a new session.
-/
inductive Connects (desk : Desk) : Bool × Desk → Prop where
  | kept (session : Nat) (h : desk.contact = some session) : Connects desk (true, desk)
  | unconfigured (h : desk.contact = none) (hconfigured : desk.configured = false)
    : Connects desk (false, desk)
  | unbuilt (h : desk.contact = none) (hconfigured : desk.configured = true)
    (upcoming : List Prepared)
    : Connects desk (false, { desk with asked := desk.asked + 1, upcoming })
  | refused (h : desk.contact = none) (hconfigured : desk.configured = true)
    (upcoming : List Prepared) (playing : List (List (Except String ToolResult))) (entered : Nat)
    : Connects desk (false,
        { desk with
          asked := desk.asked + 1
          upcoming
          playing
          sessions := desk.sessions ++ [Session.mk entered 0 []] })
  | entered (h : desk.contact = none) (hconfigured : desk.configured = true)
    (upcoming : List Prepared) (playing : List (List (Except String ToolResult))) (entered : Nat)
    : Connects desk (true,
        { desk with
          asked := desk.asked + 1
          upcoming
          playing
          sessions := desk.sessions ++ [Session.mk entered 0 []]
          contact := some desk.sessions.length })

theorem connects_connect (desk : Desk) : desk.Connects desk.connect := by
  cases h : desk.contact with
  | some session =>
    rw [connect_of_some h]
    exact .kept session h
  | none =>
    obtain ⟨configured, patience, upcoming, playing, contact, asked, sessions⟩ := desk
    cases h
    unfold connect
    cases configured with
    | false => exact .unconfigured rfl rfl
    | true =>
      cases upcoming with
      | nil => exact .unbuilt rfl rfl _
      | cons next rest =>
        simp only [Option.isSome_none, Bool.false_eq_true, ↓reduceIte, Bool.not_true]
        split
        . exact .unbuilt rfl rfl _
        . split
          . exact .entered rfl rfl _ _ _
          . exact .refused rfl rfl _ _ _

namespace Connects

variable {outcome : Bool × Desk}

theorem live (h : desk.Connects outcome) : outcome.1 = outcome.2.contact.isSome := by
  cases h with
  | kept session h => simp [h]
  | unconfigured h => simp [h]
  | unbuilt h => simp [h]
  | refused h => simp [h]
  | entered => rfl

theorem contact_of_fails (h : desk.Connects outcome) (hfail : outcome.1 = false)
    : desk.contact = none ∧ outcome.2.contact = none := by
  cases h with
  | kept => cases hfail
  | unconfigured h => exact ⟨h, h⟩
  | unbuilt h => exact ⟨h, h⟩
  | refused h => exact ⟨h, h⟩
  | entered => cases hfail

theorem configured_eq (h : desk.Connects outcome) : outcome.2.configured = desk.configured := by
  cases h with
  | kept => rfl
  | unconfigured => rfl
  | unbuilt => rfl
  | refused => rfl
  | entered => rfl

theorem asked_eq (h : desk.Connects outcome)
    : outcome.2.asked = desk.asked + if desk.contact = none ∧ desk.configured then 1 else 0 := by
  cases h with
  | kept session h => simp [h]
  | unconfigured h hconfigured => simp [hconfigured]
  | unbuilt h hconfigured => simp [h, hconfigured]
  | refused h hconfigured => simp [h, hconfigured]
  | entered h hconfigured => simp [h, hconfigured]

theorem sessions_prefix (h : desk.Connects outcome) : desk.sessions <+: outcome.2.sessions := by
  cases h with
  | kept => exact List.prefix_rfl
  | unconfigured => exact List.prefix_rfl
  | unbuilt => exact List.prefix_rfl
  | refused => exact List.prefix_append _ _
  | entered => exact List.prefix_append _ _

theorem closes_eq (h : desk.Connects outcome) (session : Nat)
    : Link.closes outcome.2.sessions session = Link.closes desk.sessions session := by
  cases h with
  | kept => rfl
  | unconfigured => rfl
  | unbuilt => rfl
  | refused => exact Link.closes_append_new rfl _ _
  | entered => exact Link.closes_append_new rfl _ _

end Connects

/-! What a call does -/

theorem call_of_none (h : desk.contact = none) (operation : String) (args : Fields)
    : desk.call operation args = (.error (.backend .unavailable), desk) := by
  unfold call
  rw [h]

theorem call_of_ok {result : ToolResult} (h : desk.contact = some session)
    (hnext : (desk.nextAnswer session).1 = .ok result) (operation : String) (args : Fields)
    : desk.call operation args
        = ((result.decode operation).mapError .backend,
            (desk.nextAnswer session).2.note session
              fun s => { s with calls := s.calls ++ [(operation, args)] }) := by
  have hdrawn : (drawn desk.playing session).1 = .ok result := hnext
  unfold call answer nextAnswer note
  rw [h]
  dsimp only
  rw [hdrawn]

theorem call_of_error {text : String} (h : desk.contact = some session)
    (hnext : (desk.nextAnswer session).1 = .error text) (operation : String) (args : Fields)
    : desk.call operation args
        = (.error (.backend (.transport operation text)),
            ((desk.nextAnswer session).2.note session
              fun s => { s with calls := s.calls ++ [(operation, args)] }).disconnect) := by
  have hdrawn : (drawn desk.playing session).1 = .error text := hnext
  unfold call answer nextAnswer note
  rw [h]
  dsimp only
  rw [hdrawn]

theorem calls_note (desk : Desk) (session : Nat) (call : String × Fields)
    : (desk.note session fun s => { s with calls := s.calls ++ [call] }).sessions.map Session.calls
        = (desk.sessions.map Session.calls).modify session (· ++ [call]) :=
  Link.map_modify (· ++ [call]) (fun _ => rfl) desk.sessions session

/-! What the machine keeps -/

def IsSound (desk : Desk) : Prop :=
  ∀ session ∈ desk.contact, session < desk.sessions.length ∧ Link.closes desk.sessions session = 0

theorem closes_note {f : Session → Session} (hf : ∀ s, (f s).closed = s.closed) (desk : Desk)
    (session other : Nat)
    : Link.closes (desk.note session f).sessions other = Link.closes desk.sessions other := by
  have hmap := Link.map_modify_of_eq hf desk.sessions session
  unfold Link.closes
  exact congrArg (fun closed : List Nat => (closed[other]?).getD 0) hmap

theorem IsSound.connect (h : desk.IsSound) : desk.connect.2.IsSound := by
  have hconnects := connects_connect desk
  generalize desk.connect = outcome at hconnects ⊢
  have hclosed := hconnects.closes_eq
  cases hconnects with
  | kept => exact h
  | unconfigured => exact h
  | unbuilt => exact h
  | refused hnone =>
    intro session hsession
    rw [hnone] at hsession
    cases hsession
  | entered =>
    intro session hsession
    cases hsession
    rw [hclosed]
    refine ⟨by simp, ?_⟩
    -- Nothing can have happened yet to a session that was not there.
    unfold Link.closes
    rw [List.getElem?_eq_none (by simp)]
    rfl

theorem IsSound.note (h : desk.IsSound) {f : Session → Session} (hf : ∀ s, (f s).closed = s.closed)
    (session : Nat) : (desk.note session f).IsSound := by
  intro other hother
  rw [closes_note hf]
  refine ⟨?_, (h other hother).2⟩
  unfold Desk.note
  rw [List.length_modify]
  exact (h other hother).1

theorem isSound_of_none (h : desk.contact = none) : desk.IsSound := by
  intro session hsession
  rw [h] at hsession
  cases hsession

theorem contact_disconnect (desk : Desk) : desk.disconnect.contact = none := by
  unfold disconnect
  split
  . next h => exact h
  . rfl

theorem IsSound.closes_disconnect (h : desk.IsSound) (session : Nat)
    : Link.closes desk.disconnect.sessions session
        = if desk.contact = some session then 1 else Link.closes desk.sessions session := by
  unfold disconnect
  cases hcontact : desk.contact with
  | none => rfl
  | some used =>
    obtain ⟨hbound, hopen⟩ := h used hcontact
    have hmodify := Link.closes_modify hbound session
    refine hmodify.trans ?_
    by_cases heq : used = session
    . subst heq
      simp [hopen]
    . simp [heq]

theorem calls_disconnect (desk : Desk)
    : desk.disconnect.sessions.map Session.calls = desk.sessions.map Session.calls := by
  unfold disconnect
  split
  . rfl
  . next session hcontact =>
    have hcalls (s : Session) : Session.calls { s with closed := s.closed + 1 } = s.calls := rfl
    exact Link.map_modify_of_eq hcalls desk.sessions session

theorem IsSound.nextAnswer (h : desk.IsSound) (session : Nat)
    : (desk.nextAnswer session).2.IsSound :=
  h

theorem IsSound.answer (h : desk.IsSound) (session : Nat) (operation : String)
    : (desk.answer session operation).2.IsSound := by
  have hnext := h.nextAnswer session
  unfold Desk.answer
  generalize desk.nextAnswer session = next at hnext
  obtain ⟨answer, desk⟩ := next
  cases answer with
  | ok result => exact hnext
  | error text => exact isSound_of_none (contact_disconnect desk)

theorem IsSound.call (h : desk.IsSound) (operation : String) (args : Fields)
    : (desk.call operation args).2.IsSound := by
  unfold Desk.call
  split
  . exact h
  . next session hcontact =>
    apply IsSound.answer
    apply h.note
    intro s
    rfl

theorem IsSound.serve (h : desk.IsSound) (request : Request) : (desk.serve request).2.IsSound := by
  cases request with
  | connect => exact h.connect
  | ensure => exact h.connect
  | call operation args => exact h.call operation args
  | invoke operation args =>
    unfold Desk.serve
    dsimp only
    split
    . exact h.connect.call operation args
    . exact h.connect
  | disconnect => exact isSound_of_none (contact_disconnect desk)

theorem IsSound.serveAll (h : desk.IsSound) (requests : List Request)
    : (desk.serveAll requests).2.IsSound := by
  induction requests generalizing desk with
  | nil => exact h
  | cons request rest ih => exact ih (h.serve request)

end Desk

end Datebook.Rehearsal
