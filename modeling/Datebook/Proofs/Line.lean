import Datebook.Proofs.Desk

/-!
This module contains the verification that a connection whose requests come one after another does
what the machine of two states does.
-/

namespace Datebook.Rehearsal

theorem Line.nextAnswer_eq (line : Line) (session : Nat)
    : line.nextAnswer session
        = ((drawn line.playing session).1,
            { line with playing := (drawn line.playing session).2 }) := by
  unfold nextAnswer drawn
  generalize line.playing[session]? = found
  match found with
  | none => rfl
  | some [] => rfl
  | some [last] => rfl
  | some (answer :: further :: rest) => rfl

namespace Desk

/-! What a line is between and during the requests -/

/--
The line of a machine between requests. It also knows the attempts that were made and have ended.
-/
def line (desk : Desk) (attempts : List Attempt) : Line :=
  { link :=
      { configured := desk.configured
        connected := desk.contact.isSome
        client := desk.contact
        stack := desk.contact
        attempts
        sessions := desk.sessions
        asked := desk.asked }
    patience := desk.patience
    upcoming := desk.upcoming
    playing := desk.playing }

def waiting (desk : Desk) (attempts : List Attempt) (wait : Wait) : Line :=
  { desk.line attempts with link := { (desk.line attempts).link with tasks := [(0, wait)] } }

def trying (desk : Desk) (attempts : List Attempt) (attempt : Attempt)
    (goal : Option (String × Fields)) : Line :=
  let line := desk.waiting (attempts ++ [attempt]) (.attempt attempts.length goal)
  { line with link := { line.link with remembered := some attempts.length } }

def ended (desk : Desk) (attempts : List Attempt) (ending : Ending) : Line :=
  { desk.line attempts with link := { (desk.line attempts).link with endings := [(0, ending)] } }

variable (desk : Desk) (attempts : List Attempt)

@[simp]
theorem take_ended (ending : Ending)
    : (desk.ended attempts ending).take 0 = (some ending, desk.line attempts) := rfl

@[simp]
theorem advance_ended (ending : Ending)
    : (desk.ended attempts ending).advance 0 = desk.ended attempts ending := rfl

theorem advance_closing (session : Nat) (ending : Ending)
    : (desk.waiting attempts (.closing session ending)).advance 0 = desk.ended attempts ending :=
  rfl

/-! A call -/

theorem happen_reply_ok (session : Nat) (operation : String) (result : ToolResult)
    : (desk.waiting attempts (.reply session operation)).happen (.reply 0 (.ok result))
        = desk.ended attempts (.answered ((result.decode operation).mapError .backend)) := rfl

variable {desk} {session : Nat}

theorem happen_reply_error (h : desk.contact = some session) (operation text : String)
    : (desk.waiting attempts (.reply session operation)).happen (.reply 0 (.error text))
        = desk.disconnect.waiting attempts
            (.closing session (.answered (.error (.backend (.transport operation text))))) := by
  obtain ⟨configured, patience, upcoming, playing, contact, asked, sessions⟩ := desk
  cases h
  rfl

theorem advance_reply (h : desk.contact = some session) (operation : String)
    : ((desk.waiting attempts (.reply session operation)).advance 0).advance 0
        = (desk.answer session operation).2.ended attempts
            (.answered (desk.answer session operation).1) := by
  have hadvance : (desk.waiting attempts (.reply session operation)).advance 0
      = ((desk.nextAnswer session).2.waiting attempts (.reply session operation)).happen
          (.reply 0 (desk.nextAnswer session).1) := by
    show ((desk.waiting attempts (.reply session operation)).nextAnswer session).2.happen (.reply 0
      ((desk.waiting attempts (.reply session operation)).nextAnswer session).1) = _
    rw [Line.nextAnswer_eq]
    rfl
  have hcontact : (desk.nextAnswer session).2.contact = some session := h
  rw [hadvance]
  unfold answer
  generalize desk.nextAnswer session = next at hcontact
  obtain ⟨answer, desk⟩ := next
  cases answer with
  | ok result => rw [happen_reply_ok, advance_ended]
  | error text => rw [happen_reply_error attempts hcontact, advance_closing]

theorem start_call (h : desk.contact = some session) (operation : String) (args : Fields)
    : (desk.line attempts).happen (.start 0 (.call operation args))
        = (desk.note session fun s => { s with calls := s.calls ++ [(operation, args)] }).waiting
            attempts (.reply session operation) := by
  obtain ⟨configured, patience, upcoming, playing, contact, asked, sessions⟩ := desk
  cases h
  rfl

theorem start_call_unavailable (h : desk.contact = none) (operation : String) (args : Fields)
    : (desk.line attempts).happen (.start 0 (.call operation args))
        = desk.ended attempts (.answered (.error (.backend .unavailable))) := by
  obtain ⟨configured, patience, upcoming, playing, contact, asked, sessions⟩ := desk
  cases h
  rfl

theorem perform_call (desk : Desk) (operation : String) (args : Fields)
    : (desk.line attempts).perform (.call operation args)
        = (desk.call operation args).2.ended attempts (.answered (desk.call operation args).1) := by
  unfold Line.perform call
  cases h : desk.contact with
  | none =>
    rw [start_call_unavailable attempts h]
    simp
  | some session =>
    rw [start_call attempts h, advance_reply attempts (by exact h), advance_ended]

/-! An attempt to connect -/

variable {goal : Option (String × Fields)}

theorem set_last (a a' : Attempt)
    : (attempts ++ [a]).set attempts.length a' = attempts ++ [a'] := by
  simp

theorem start_connect (h : desk.contact = none)
    : (desk.line attempts).happen (.start 0 .connect) = desk.trying attempts .created none := by
  obtain ⟨configured, patience, upcoming, playing, contact, asked, sessions⟩ := desk
  cases h
  rfl

theorem start_invoke (h : desk.contact = none) (operation : String) (args : Fields)
    : (desk.line attempts).happen (.start 0 (.invoke operation args))
        = desk.trying attempts .created (some (operation, args)) := by
  obtain ⟨configured, patience, upcoming, playing, contact, asked, sessions⟩ := desk
  cases h
  rfl

theorem build_trying (desk : Desk) (built : Bool)
    : (desk.trying attempts .created goal).happen (.build attempts.length built)
        = if !desk.configured then desk.trying attempts (.finished false) goal
          else if built then
            { desk with
              asked := desk.asked + 1
              sessions := desk.sessions ++ [Session.mk 0 0 []] }.trying attempts
                (.entering desk.sessions.length) goal
          else { desk with asked := desk.asked + 1 }.trying attempts (.finished false) goal := by
  unfold Line.happen Link.step Link.build trying waiting line
  dsimp only
  rw [List.getElem?_concat_length]
  dsimp only
  rw [set_last, set_last]
  split
  . rfl
  . split
    . rfl
    . rfl

theorem enter_trying (desk : Desk) (session : Nat) (outcome : Entrance)
    : (desk.trying attempts (.entering session) goal).happen (.enter attempts.length outcome)
        = match outcome with
          | .entered =>
            (desk.note session fun s => { s with entered := s.entered + 1 }).trying attempts
              (.entered session) goal
          | .failed =>
            (desk.note session fun s => { s with entered := s.entered + 1 }).trying attempts
              (.finished false) goal
          | .expired => desk.trying attempts (.finished false) goal := by
  unfold Line.happen Link.step Link.enter trying waiting line
  dsimp only
  rw [List.getElem?_concat_length]
  dsimp only
  rw [set_last, set_last]
  cases outcome with
  | entered => rfl
  | failed => rfl
  | expired => rfl

theorem adopt_trying (desk : Desk) (session : Nat)
    : (desk.trying attempts (.entered session) goal).happen (.adopt attempts.length)
        = { desk with contact := some session }.trying attempts (.finished true) goal := by
  unfold Line.happen Link.step Link.adopt trying waiting line
  dsimp only
  rw [List.getElem?_concat_length]
  dsimp only
  rw [set_last]
  rfl

theorem adopt_finished (desk : Desk) (live : Bool)
    : (desk.trying attempts (.finished live) goal).happen (.adopt attempts.length)
        = desk.trying attempts (.finished live) goal := by
  unfold Line.happen Link.step Link.adopt trying waiting line
  dsimp only
  rw [List.getElem?_concat_length]

theorem enter_finished (desk : Desk) (live : Bool) (opening : Opening)
    : (desk.trying attempts (.finished live) goal).enter opening
        = desk.trying attempts (.finished live) goal := by
  have henter (outcome : Entrance)
      : (desk.trying attempts (.finished live) goal).happen (.enter attempts.length outcome)
          = desk.trying attempts (.finished live) goal := by
    unfold Line.happen Link.step Link.enter trying waiting line
    dsimp only
    rw [List.getElem?_concat_length]
  show Line.happen (Line.happen _ (.enter attempts.length _)) (.adopt attempts.length) = _
  rw [henter, adopt_finished]

theorem pending?_trying (desk : Desk)
    : (desk.trying attempts .created goal).pending? = some attempts.length := by
  unfold Line.pending? trying waiting line
  dsimp only
  rw [List.getElem?_concat_length, if_pos rfl]

theorem build_eq (desk : Desk)
    : (desk.trying attempts .created goal).build
        = if !desk.configured then desk.trying attempts (.finished false) goal
          else
            match desk.upcoming with
            | [] => { desk with asked := desk.asked + 1 }.trying attempts (.finished false) goal
            | next :: rest =>
              if next.opening = .unbuilt then
                { desk with asked := desk.asked + 1, upcoming := rest }.trying attempts
                  (.finished false) goal
              else
                { desk with
                  asked := desk.asked + 1
                  upcoming := rest
                  sessions := desk.sessions ++ [Session.mk 0 0 []]
                  playing := desk.playing ++ [next.answers] }.trying attempts
                    (.entering desk.sessions.length) goal := by
  obtain ⟨configured, patience, upcoming, playing, contact, asked, sessions⟩ := desk
  unfold Line.build
  rw [pending?_trying]
  cases configured with
  | false => exact build_trying attempts _ false
  | true =>
    cases upcoming with
    | nil => exact build_trying attempts _ false
    | cons next rest =>
      show (if next.opening = .unbuilt then _ else _) = if next.opening = .unbuilt then _ else _
      split
      . exact build_trying attempts ⟨true, patience, rest, playing, contact, asked, sessions⟩ false
      . exact build_trying attempts
          ⟨true, patience, rest, playing ++ [next.answers], contact, asked, sessions⟩ true

theorem entranceOf_eq (line : Line) (opening : Opening)
    : line.entranceOf opening
        = if line.patience = .none then .expired
          else if enters line.patience opening then .entered else .failed := by
  unfold Line.entranceOf enters
  cases line.patience <;> cases opening <;> rfl

theorem modify_last (sessions : List Session) (session : Session) (f : Session → Session)
    : (sessions ++ [session]).modify sessions.length f = sessions ++ [f session] := by
  simp [List.modify_eq_set_getElem?]

theorem enter_entering (desk : Desk) (goal : Option (String × Fields)) (opening : Opening)
    : ({ desk with sessions := desk.sessions ++ [Session.mk 0 0 []] }.trying attempts
          (.entering desk.sessions.length) goal).enter opening
        = if enters desk.patience opening then
            { desk with
              sessions := desk.sessions ++ [Session.mk (entries desk.patience) 0 []]
              contact := some desk.sessions.length }.trying attempts (.finished true) goal
          else
            { desk with
              sessions := desk.sessions
                ++ [Session.mk (entries desk.patience) 0 []] }.trying attempts
                  (.finished false) goal := by
  have hpatience : ({ desk with sessions := desk.sessions ++ [Session.mk 0 0 []] }.trying attempts
      (.entering desk.sessions.length) goal).patience = desk.patience := rfl
  show Line.happen (Line.happen _ (.enter attempts.length _)) (.adopt attempts.length) = _
  rw [enter_trying, entranceOf_eq, hpatience]
  unfold note entries
  simp only [modify_last]
  by_cases hnone : desk.patience = .none
  -- Without time for it a session is not entered at all, however it would open.
  . have hrefused : enters .none opening = false := rfl
    simp only [hnone, ↓reduceIte, hrefused, Bool.false_eq_true]
    exact adopt_finished attempts _ false
  . cases hentered : enters desk.patience opening with
    | true =>
      simp only [hnone, ↓reduceIte]
      exact adopt_trying attempts _ _
    | false =>
      simp only [hnone, ↓reduceIte, Bool.false_eq_true]
      exact adopt_finished attempts _ false

theorem attempt_eq (h : desk.contact = none)
    : (desk.trying attempts .created goal).attempt
        = desk.connect.2.trying attempts (.finished desk.connect.1) goal := by
  obtain ⟨configured, patience, upcoming, playing, contact, asked, sessions⟩ := desk
  cases h
  unfold Line.attempt
  rw [build_eq]
  cases configured with
  | false => exact enter_finished attempts _ _ _
  | true =>
    cases upcoming with
    | nil => exact enter_finished attempts _ _ _
    | cons next rest =>
      unfold connect
      simp only [Bool.not_true, Bool.false_eq_true, ↓reduceIte, Option.isSome_none]
      by_cases hbuilt : next.opening = .unbuilt
      . simp only [hbuilt, ↓reduceIte]
        exact enter_finished attempts _ _ _
      . simp only [hbuilt, ↓reduceIte]
        have hentered := enter_entering attempts
          ⟨true, patience, rest, playing ++ [next.answers], none, asked + 1, sessions⟩ goal
          next.opening
        refine hentered.trans ?_
        dsimp only
        split
        . rfl
        . rfl

theorem wake_trying (desk : Desk) (live : Bool)
    : (desk.trying attempts (.finished live) goal).happen (.wake 0)
        = { desk.waiting (attempts ++ [.finished live]) (.attempt attempts.length goal) with
            link :=
              let idle :=
                (desk.waiting (attempts ++ [.finished live]) (.attempt attempts.length goal)).link
              match goal with
              | none => idle.finish 0 (.live live)
              | some (operation, args) =>
                if live then idle.beginCall 0 operation args
                else idle.finish 0 (.answered (.error (.backend .unavailable))) } := by
  have hforget : (desk.trying attempts (.finished live) goal).link.forget attempts.length
      = (desk.waiting (attempts ++ [.finished live]) (.attempt attempts.length goal)).link :=
    if_pos rfl
  have hwake : (desk.trying attempts (.finished live) goal).link.wake 0
      = (desk.trying attempts (.finished live) goal).link.resume 0 attempts.length live goal := by
    unfold Link.wake trying waiting line
    simp only [Link.waitOf, List.lookup_cons, beq_self_eq_true]
    rw [List.getElem?_concat_length]
  show Line.mk ((desk.trying attempts (.finished live) goal).link.wake 0) _ _ _ = _
  rw [hwake]
  unfold Link.resume
  rw [hforget]
  rfl

theorem wake_connect (desk : Desk) (live : Bool)
    : (desk.trying attempts (.finished live) none).happen (.wake 0)
        = desk.ended (attempts ++ [.finished live]) (.live live) :=
  wake_trying attempts desk live

theorem wake_refused (desk : Desk) (operation : String) (args : Fields)
    : (desk.trying attempts (.finished false) (some (operation, args))).happen (.wake 0)
        = desk.ended (attempts ++ [.finished false])
            (.answered (.error (.backend .unavailable))) :=
  wake_trying attempts desk false

theorem wake_invoke (h : desk.contact = some session) (operation : String) (args : Fields)
    : (desk.trying attempts (.finished true) (some (operation, args))).happen (.wake 0)
        = (desk.note session fun s => { s with calls := s.calls ++ [(operation, args)] }).waiting
            (attempts ++ [.finished true]) (.reply session operation) := by
  rw [wake_trying]
  obtain ⟨configured, patience, upcoming, playing, contact, asked, sessions⟩ := desk
  cases h
  rfl

theorem advance_trying (h : desk.contact = none)
    : (desk.trying attempts .created goal).advance 0
        = (desk.connect.2.trying attempts (.finished desk.connect.1) goal).happen (.wake 0) := by
  rw [← attempt_eq attempts h]
  rfl

theorem start_connected (h : desk.contact = some session)
    : (desk.line attempts).happen (.start 0 .connect) = desk.ended attempts (.live true) := by
  obtain ⟨configured, patience, upcoming, playing, contact, asked, sessions⟩ := desk
  cases h
  rfl

/--
The attempts that have ended once a request to connect has: a new one, unless there was contact.
-/
def history (desk : Desk) (attempts : List Attempt) : List Attempt :=
  if desk.contact.isSome then attempts else attempts ++ [.finished desk.connect.1]

theorem perform_connect (desk : Desk)
    : (desk.line attempts).perform .connect
        = desk.connect.2.ended (desk.history attempts) (.live desk.connect.1) := by
  unfold Line.perform history
  cases h : desk.contact with
  | none =>
    rw [start_connect attempts h, advance_trying attempts h, wake_connect, advance_ended,
      advance_ended]
    rfl
  | some session =>
    rw [start_connected attempts h, connect_of_some h]
    rfl

theorem perform_invoke (desk : Desk) (operation : String) (args : Fields)
    : (desk.line attempts).perform (.invoke operation args)
        = (desk.serve (.invoke operation args)).2.ended (desk.history attempts)
            (desk.serve (.invoke operation args)).1 := by
  cases h : desk.contact with
  | none =>
    unfold Line.perform serve history
    rw [start_invoke attempts h, advance_trying attempts h, h]
    have hlive := (connects_connect desk).live
    cases hconnect : desk.connect.1 with
    | false =>
      rw [wake_refused, advance_ended, advance_ended]
      rfl
    | true =>
      rw [hconnect] at hlive
      obtain ⟨session, hsession⟩ := Option.isSome_iff_exists.mp hlive.symm
      rw [wake_invoke attempts hsession, advance_reply _ (by exact hsession)]
      unfold call
      rw [hsession]
      rfl
  | some session =>
    -- In contact, an invocation starts as a call does.
    have hstart : (desk.line attempts).happen (.start 0 (.invoke operation args))
        = (desk.line attempts).happen (.start 0 (.call operation args)) := by
      obtain ⟨configured, patience, upcoming, playing, contact, asked, sessions⟩ := desk
      cases h
      rfl
    have hcall := perform_call attempts desk operation args
    unfold Line.perform at hcall ⊢
    unfold serve history
    rw [connect_of_some h, hstart, hcall, h]
    rfl

theorem perform_disconnect (desk : Desk)
    : (desk.line attempts).perform .disconnect = desk.disconnect.ended attempts .closed := by
  obtain ⟨configured, patience, upcoming, playing, contact, asked, sessions⟩ := desk
  cases contact with
  | none => rfl
  | some session => rfl

end Desk

namespace Line

def serve (line : Line) (request : Request) : Option Ending × Line :=
  (line.perform request).take 0

def serveAll (line : Line) : List Request → List (Option Ending) × Line
  | [] => ([], line)
  | request :: rest =>
    let (ending, line) := line.serve request
    let (endings, line) := line.serveAll rest
    (ending :: endings, line)

end Line

namespace Desk

theorem serve_connect (attempts : List Attempt) (desk : Desk)
    : (desk.line attempts).serve .connect
        = (some (.live desk.connect.1), desk.connect.2.line (desk.history attempts)) := by
  unfold Line.serve
  rw [perform_connect, take_ended]

theorem serve_call (attempts : List Attempt) (desk : Desk) (operation : String) (args : Fields)
    : (desk.line attempts).serve (.call operation args)
        = (some (.answered (desk.call operation args).1),
            (desk.call operation args).2.line attempts) := by
  unfold Line.serve
  rw [perform_call, take_ended]

theorem serve_invoke (attempts : List Attempt) (desk : Desk) (operation : String) (args : Fields)
    : (desk.line attempts).serve (.invoke operation args)
        = (some (desk.serve (.invoke operation args)).1,
            (desk.serve (.invoke operation args)).2.line (desk.history attempts)) := by
  unfold Line.serve
  rw [perform_invoke, take_ended]

theorem serve_disconnect (attempts : List Attempt) (desk : Desk)
    : (desk.line attempts).serve .disconnect = (some .closed, desk.disconnect.line attempts) := by
  unfold Line.serve
  rw [perform_disconnect, take_ended]

theorem exists_serve_line (attempts : List Attempt) (desk : Desk) (request : Request)
    : ∃ attempts', (desk.line attempts).serve request
        = (some (desk.serve request).1, (desk.serve request).2.line attempts') := by
  cases request with
  | connect => exact ⟨_, serve_connect attempts desk⟩
  | ensure => exact ⟨_, serve_connect attempts desk⟩
  | call operation args => exact ⟨_, serve_call attempts desk operation args⟩
  | invoke operation args => exact ⟨_, serve_invoke attempts desk operation args⟩
  | disconnect => exact ⟨_, serve_disconnect attempts desk⟩

theorem exists_serveAll_line (attempts : List Attempt) (desk : Desk) (requests : List Request)
    : ∃ attempts', (desk.line attempts).serveAll requests
        = ((desk.serveAll requests).1.map some, (desk.serveAll requests).2.line attempts') := by
  -- The attempts that have ended are all that a line knows and its machine does not; they grow.
  induction requests generalizing attempts desk with
  | nil => exact ⟨attempts, rfl⟩
  | cons request rest ih =>
    obtain ⟨attempts', hserve⟩ := exists_serve_line attempts desk request
    obtain ⟨attempts'', hrest⟩ := ih attempts' (desk.serve request).2
    refine ⟨attempts'', ?_⟩
    unfold Line.serveAll serveAll
    rw [hserve]
    dsimp only
    rw [hrest]
    rfl

end Desk

namespace Line

def closes (line : Line) (session : Nat) : Nat := Link.closes line.link.sessions session

def calls (line : Line) : List (List (String × Fields)) := line.link.sessions.map Session.calls

/--
Whether all that a line holds is the session it is in contact with, if there is one: no attempt is
remembered, no task waits, and no ending is left to be taken.
-/
structure IsIn (line : Line) (contact : Option Nat) : Prop where
  connected : line.link.connected = contact.isSome
  client : line.link.client = contact
  stack : line.link.stack = contact
  remembered : line.link.remembered = none
  tasks : line.link.tasks = []
  endings : line.link.endings = []

structure Behaves (line : Line) (contact : Option Nat) : Prop where
  /-- Connecting reports whether there is a connection afterwards. -/
  reports : (line.serve .connect).1 = some (.live (line.serve .connect).2.link.connected)
  ensures : line.serve .ensure = line.serve .connect
  /-- In contact, connecting changes nothing. -/
  keeps : contact.isSome → line.serve .connect = (some (.live true), line)
  /-- A session is asked for once, if there is need and a service. -/
  asks : (line.serve .connect).2.link.asked
    = line.link.asked + if contact = none ∧ line.link.configured then 1 else 0
  /-- Nothing is left of a failure to connect, so that the next request to connect asks again. -/
  fails : (line.serve .connect).1 = some (.live false) →
    line.IsIn none ∧ (line.serve .connect).2.IsIn none
      ∧ line.link.sessions <+: (line.serve .connect).2.link.sessions
      ∧ (∀ session, (line.serve .connect).2.closes session = line.closes session)
      ∧ ((line.serve .connect).2.serve .connect).2.link.asked
          = (line.serve .connect).2.link.asked + if line.link.configured then 1 else 0
  /-- Out of contact, a call fails at once. -/
  unavailable : ∀ operation args, contact = none →
    line.serve (.call operation args) = (some (.answered (.error (.backend .unavailable))), line)
  /-- The session in contact was never closed. -/
  unclosed : ∀ session ∈ contact, session < line.link.sessions.length ∧ line.closes session = 0
  /-- A call that fails ends the contact, and its session is closed. -/
  raises : ∀ operation args text, ∀ session ∈ contact, (line.nextAnswer session).1 = .error text →
    ∃ after, line.serve (.call operation args)
        = (some (.answered (.error (.backend (.transport operation text)))), after)
      ∧ after.IsIn none
      ∧ after.calls = line.calls.modify session (· ++ [(operation, args)])
      ∧ ∀ other, after.closes other = if other = session then 1 else line.closes other
  /-- A call that is answered keeps the contact, whatever the answer. -/
  answers : ∀ operation args result, ∀ session ∈ contact,
    (line.nextAnswer session).1 = .ok result →
      ∃ after, line.serve (.call operation args)
          = (some (.answered ((result.decode operation).mapError .backend)), after)
        ∧ after.IsIn (some session)
        ∧ after.calls = line.calls.modify session (· ++ [(operation, args)])
        ∧ ∀ other, after.closes other = line.closes other
  /-- An error of the tool is such an answer. -/
  rejects : ∀ operation args result, ∀ session ∈ contact,
    (line.nextAnswer session).1 = .ok result → result.isError →
      ∃ after, line.serve (.call operation args)
          = (some (.answered (.error (.backend (.tool operation result.text)))), after)
        ∧ after.IsIn (some session)
  /-- An invocation is a request to connect, and then a call if there is a connection. -/
  invokes : ∀ operation args, line.serve (.invoke operation args)
    = if (line.serve .connect).2.link.connected then
        (line.serve .connect).2.serve (.call operation args)
      else (some (.answered (.error (.backend .unavailable))), (line.serve .connect).2)
  disconnects : ∃ after, line.serve .disconnect = (some .closed, after)
    ∧ after.IsIn none
    ∧ after.calls = line.calls
    ∧ ∀ other, after.closes other = if contact = some other then 1 else line.closes other

end Line

namespace Desk

theorem isIn_line (attempts : List Attempt) (desk : Desk)
    : (desk.line attempts).IsIn desk.contact :=
  ⟨rfl, rfl, rfl, rfl, rfl, rfl⟩

theorem nextAnswer_line (attempts : List Attempt) (desk : Desk) (session : Nat)
    : ((desk.line attempts).nextAnswer session).1 = (desk.nextAnswer session).1 := by
  rw [Line.nextAnswer_eq]
  rfl

variable {desk : Desk} {session : Nat} (attempts : List Attempt)

theorem IsSound.raises (h : desk.IsSound) (hcontact : desk.contact = some session)
    {text : String} (hnext : (desk.nextAnswer session).1 = .error text) (operation : String)
    (args : Fields)
    : ∃ after, (desk.line attempts).serve (.call operation args)
          = (some (.answered (.error (.backend (.transport operation text)))), after)
        ∧ after.IsIn none
        ∧ after.calls = (desk.line attempts).calls.modify session (· ++ [(operation, args)])
        ∧ ∀ other, after.closes other
            = if other = session then 1 else (desk.line attempts).closes other := by
  let noted := (desk.nextAnswer session).2.note session
    fun s => { s with calls := s.calls ++ [(operation, args)] }
  have hsound : noted.IsSound := by
    apply (h.nextAnswer session).note
    intro s
    rfl
  have hnoted : noted.contact = some session := hcontact
  have hin := isIn_line attempts noted.disconnect
  rw [contact_disconnect] at hin
  rw [serve_call, call_of_error hcontact hnext]
  refine ⟨noted.disconnect.line attempts, rfl, hin, ?_, ?_⟩
  . exact (calls_disconnect noted).trans (calls_note _ session _)
  . intro other
    refine (hsound.closes_disconnect other).trans ?_
    have hclosed : Link.closes noted.sessions other = Link.closes desk.sessions other := by
      apply closes_note
      intro s
      rfl
    rw [hnoted, hclosed]
    by_cases heq : session = other
    . simp [heq]
    . simp [heq, Ne.symm heq, Line.closes, line]

theorem answers (hcontact : desk.contact = some session) {result : ToolResult}
    (hnext : (desk.nextAnswer session).1 = .ok result) (operation : String) (args : Fields)
    : ∃ after, (desk.line attempts).serve (.call operation args)
          = (some (.answered ((result.decode operation).mapError .backend)), after)
        ∧ after.IsIn (some session)
        ∧ after.calls = (desk.line attempts).calls.modify session (· ++ [(operation, args)])
        ∧ ∀ other, after.closes other = (desk.line attempts).closes other := by
  let noted := (desk.nextAnswer session).2.note session
    fun s => { s with calls := s.calls ++ [(operation, args)] }
  have hnoted : noted.contact = some session := hcontact
  have hin := isIn_line attempts noted
  rw [hnoted] at hin
  rw [serve_call, call_of_ok hcontact hnext]
  refine ⟨noted.line attempts, rfl, hin, calls_note _ session _, ?_⟩
  intro other
  apply closes_note
  intro s
  rfl

theorem IsSound.behaves (h : desk.IsSound) (attempts : List Attempt)
    : (desk.line attempts).Behaves desk.contact where
  reports := by
    rw [serve_connect]
    exact congrArg (fun live => some (Ending.live live)) (connects_connect desk).live
  ensures := rfl
  keeps := by
    intro hcontact
    obtain ⟨session, hsession⟩ := Option.isSome_iff_exists.mp hcontact
    rw [serve_connect, connect_of_some hsession]
    unfold history
    rw [if_pos hcontact]
  asks := by
    rw [serve_connect]
    exact (connects_connect desk).asked_eq
  fails := by
    rw [serve_connect]
    intro hfail
    injection hfail with hfail
    injection hfail with hfail
    have hconnects := connects_connect desk
    obtain ⟨hbefore, hafter⟩ := hconnects.contact_of_fails hfail
    have hin := isIn_line attempts desk
    have hin' := isIn_line (desk.history attempts) desk.connect.2
    rw [hbefore] at hin
    rw [hafter] at hin'
    refine ⟨hin, hin', hconnects.sessions_prefix, hconnects.closes_eq, ?_⟩
    rw [serve_connect]
    refine (connects_connect desk.connect.2).asked_eq.trans ?_
    rw [hafter, hconnects.configured_eq]
    simp only [true_and]
    rfl
  unavailable := by
    intro operation args hcontact
    rw [serve_call, call_of_none hcontact]
  unclosed := h
  raises := by
    intro operation args text session hcontact hnext
    rw [nextAnswer_line] at hnext
    exact h.raises attempts hcontact hnext operation args
  answers := by
    intro operation args result session hcontact hnext
    rw [nextAnswer_line] at hnext
    exact answers attempts hcontact hnext operation args
  rejects := by
    intro operation args result session hcontact hnext hrejected
    rw [nextAnswer_line] at hnext
    have hdecode : result.decode operation = .error (.tool operation result.text) :=
      if_pos hrejected
    obtain ⟨after, hserve, hin, -⟩ := answers attempts hcontact hnext operation args
    rw [hdecode] at hserve
    exact ⟨after, hserve, hin⟩
  invokes := by
    intro operation args
    rw [serve_connect, serve_invoke, serve_call]
    have hlive : (desk.connect.2.line (desk.history attempts)).link.connected = desk.connect.1 :=
      (connects_connect desk).live.symm
    have hinvoke : desk.serve (.invoke operation args)
        = if desk.connect.1 then
            (.answered (desk.connect.2.call operation args).1,
              (desk.connect.2.call operation args).2)
          else (.answered (.error (.backend .unavailable)), desk.connect.2) := rfl
    dsimp only
    rw [hlive, hinvoke]
    split
    . rfl
    . rfl
  disconnects := by
    have hin := isIn_line attempts desk.disconnect
    rw [contact_disconnect] at hin
    rw [serve_disconnect]
    exact ⟨_, rfl, hin, calls_disconnect desk, h.closes_disconnect⟩

end Desk

/--
Whatever sessions are prepared, a line to which requests are made one after another does what the
machine does: its requests end alike, and between them it holds nothing but the machine's contact.
From there every request does what the contact says.
-/
theorem Line.serveAll_refines (configured : Bool) (patience : Patience) (upcoming : List Prepared)
    (requests : List Request)
    : let (endings, line) := (Line.fresh configured patience upcoming).serveAll requests
      let (endings', desk) := (Desk.mk configured patience upcoming [] none 0 []).serveAll requests
      endings = endings'.map some ∧ (∃ attempts, line = desk.line attempts)
        ∧ line.IsIn desk.contact ∧ line.Behaves desk.contact := by
  obtain ⟨attempts, hserve⟩ := Desk.exists_serveAll_line []
    ⟨configured, patience, upcoming, [], none, 0, []⟩ requests
  have hsound : Desk.IsSound ⟨configured, patience, upcoming, [], none, 0, []⟩ :=
    Desk.isSound_of_none rfl
  have hline : Line.fresh configured patience upcoming
      = Desk.line ⟨configured, patience, upcoming, [], none, 0, []⟩ [] := rfl
  dsimp only
  rw [hline, hserve]
  exact ⟨rfl, ⟨attempts, rfl⟩, Desk.isIn_line _ _, (hsound.serveAll requests).behaves attempts⟩

end Datebook.Rehearsal
