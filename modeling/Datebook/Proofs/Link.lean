import Datebook.Link
import Mathlib.Data.List.Nodup

/-!
This module contains the verification of the connection to the calendar service: at every point of
every interleaving of tasks it is known which sessions are open, and who has to close them.
-/

namespace Datebook

def Attempt.isFinished : Attempt → Bool
  | finished _ => true
  | _ => false

namespace Link

def opened? (link : Link) : Happening → Option Nat
  | .enter id .entered =>
    match link.attempts[id]? with
    | some (.entering session) => some session
    | _ => none
  | _ => none

def opened (link : Link) : List Happening → List Nat
  | [] => []
  | h :: rest => (link.opened? h).toList ++ (link.step h).opened rest

def IsUnfinished (link : Link) (id : Nat) : Prop :=
  ∃ a, link.attempts[id]? = some a ∧ a.isFinished = false

def Holds (link : Link) (session : Nat) : Prop :=
  ∃ id : Nat, link.attempts[id]? = some (.entered session)

def Uses (link : Link) (session : Nat) : Prop :=
  link.client = some session ∧ link.stack = some session

def closes (sessions : List Session) (session : Nat) : Nat :=
  ((sessions.map Session.closed)[session]?).getD 0

/--
Whether a session that was opened is in one place only: it is held by an attempt, or in use, or its
close was started once.
-/
def Accounts (link : Link) (session : Nat) : Prop :=
  (link.Holds session ∧ ¬ link.Uses session ∧ closes link.sessions session = 0)
    ∨ (¬ link.Holds session ∧ link.Uses session ∧ closes link.sessions session = 0)
    ∨ (¬ link.Holds session ∧ ¬ link.Uses session ∧ closes link.sessions session = 1)

/--
What holds at every point, with the sessions whose entry has succeeded so far. An attempt that has
not ended is the one remembered, and there is no connection besides it; and every session that was
opened is held, in use or closed.
-/
structure IsSound (link : Link) (sessions : List Nat) : Prop where
  connected_eq : link.connected = link.stack.isSome
  client_eq : link.client = link.stack
  unfinished : ∀ (id : Nat) (a : Attempt), link.attempts[id]? = some a → a.isFinished = false
    → link.remembered = some id ∧ link.stack = none
  entering : ∀ id session : Nat, link.attempts[id]? = some (.entering session)
    → session < link.sessions.length ∧ session ∉ sessions
  bounded : ∀ session ∈ sessions, session < link.sessions.length
  nodup : sessions.Nodup
  conserved : ∀ session,
    closes link.sessions session + link.stack.toList.count session
      + link.attempts.count (.entered session) = sessions.count session

section

variable {link link' : Link} {sessions : List Nat} {id task session : Nat} {a a' : Attempt}
  {live : Bool} {goal : Option (String × Fields)}

theorem isSound_fresh (configured : Bool) : IsSound (fresh configured) [] where
  connected_eq := rfl
  client_eq := rfl
  unfinished _ _ h := nomatch h
  entering _ _ h := nomatch h
  bounded _ h := nomatch h
  nodup := List.nodup_nil
  conserved _ := rfl

theorem IsSound.congr (h : IsSound link sessions) (hconnected : link'.connected = link.connected)
    (hclient : link'.client = link.client) (hstack : link'.stack = link.stack)
    (hremembered : link'.remembered = link.remembered) (hattempts : link'.attempts = link.attempts)
    (hclosed : link'.sessions.map Session.closed = link.sessions.map Session.closed)
    : IsSound link' sessions := by
  have hlength : link'.sessions.length = link.sessions.length := by
    simpa using congrArg List.length hclosed
  constructor
  . rw [hconnected, hstack]
    exact h.connected_eq
  . rw [hclient, hstack]
    exact h.client_eq
  . rw [hattempts, hremembered, hstack]
    exact h.unfinished
  . rw [hattempts, hlength]
    exact h.entering
  . rw [hlength]
    exact h.bounded
  . exact h.nodup
  . unfold closes
    rw [hclosed, hstack, hattempts]
    exact h.conserved

theorem IsSound.finish (h : IsSound link sessions) (task : Nat) (ending : Ending)
    : IsSound (link.finish task ending) sessions :=
  h.congr rfl rfl rfl rfl rfl rfl

theorem IsSound.await (h : IsSound link sessions) (task : Nat) (wait : Wait)
    : IsSound (link.await task wait) sessions :=
  h.congr rfl rfl rfl rfl rfl rfl

theorem map_modify {α : Type} {part : Session → α} {f : Session → Session} (f' : α → α)
    (hf : ∀ s, part (f s) = f' (part s)) (sessions : List Session) (session : Nat)
    : (sessions.modify session f).map part = (sessions.map part).modify session f' := by
  apply List.ext_getElem?
  intro other
  simp only [List.getElem?_map, List.getElem?_modify]
  split
  . cases sessions[other]? with
    | none => rfl
    | some s => simp [hf]
  . simp

theorem map_modify_of_eq {α : Type} {part : Session → α} {f : Session → Session}
    (hf : ∀ s, part (f s) = part s) (sessions : List Session) (session : Nat)
    : (sessions.modify session f).map part = sessions.map part := by
  rw [map_modify id hf, List.modify_id]

theorem IsSound.note (h : IsSound link sessions) {f : Session → Session}
    (hf : ∀ s, (f s).closed = s.closed) (session : Nat) : IsSound (link.note session f) sessions :=
  h.congr rfl rfl rfl rfl rfl (map_modify_of_eq hf link.sessions session)

theorem IsSound.forget (h : IsSound link sessions) (hid : link.attempts[id]? = some (.finished live))
    : IsSound (link.forget id) sessions := by
  unfold Link.forget
  split
  . next hremembered =>
    refine { h with unfinished := ?_ }
    intro other a ha hunfinished
    -- An attempt that has not ended would be the one that is forgotten, which has.
    obtain ⟨hother, -⟩ := h.unfinished other a ha hunfinished
    rw [hremembered, Option.some.injEq] at hother
    rw [← hother, hid] at ha
    injection ha with ha
    rw [← ha] at hunfinished
    cases hunfinished
  . exact h

theorem IsSound.beginCall (h : IsSound link sessions) (task : Nat) (operation : String)
    (args : Fields) : IsSound (link.beginCall task operation args) sessions := by
  unfold Link.beginCall
  split
  . apply IsSound.await
    apply h.note
    intro s
    rfl
  . exact h.finish task _

theorem IsSound.resume (h : IsSound link sessions) (hid : link.attempts[id]? = some (.finished live))
    (task : Nat) (goal : Option (String × Fields))
    : IsSound (link.resume task id live goal) sessions := by
  have hforgotten := h.forget hid
  unfold Link.resume
  dsimp only
  split
  . exact hforgotten.finish task _
  . split
    . exact hforgotten.beginCall task _ _
    . exact hforgotten.finish task _

theorem IsSound.beginConnect (h : IsSound link sessions) (hconnected : link.connected = false)
    (task : Nat) (goal : Option (String × Fields))
    : IsSound (link.beginConnect task goal) sessions := by
  unfold Link.beginConnect
  split
  . split
    . next hid => exact h.resume hid task goal
    . exact h.await task _
  . next hnone =>
    have hstack : link.stack = none := by
      rw [h.connected_eq] at hconnected
      simpa using hconnected
    apply IsSound.await
    -- Nothing was remembered, so the new attempt is the only one that has not ended.
    have hfinished {id : Nat} {a : Attempt} (ha : link.attempts[id]? = some a)
        : a.isFinished = true := by
      cases hunfinished : a.isFinished with
      | true => rfl
      | false =>
        have hremembered := (h.unfinished id a ha hunfinished).1
        rw [hnone] at hremembered
        cases hremembered
    refine { h with unfinished := ?_, entering := ?_, conserved := ?_ }
    . intro id a ha hunfinished
      rw [List.getElem?_append] at ha
      split at ha
      . rw [hfinished ha] at hunfinished
        cases hunfinished
      . next hid =>
        rw [List.getElem?_singleton] at ha
        split at ha
        . exact ⟨congrArg some (by omega), hstack⟩
        . cases ha
    . intro id session ha
      rw [List.getElem?_append] at ha
      split at ha
      . exact h.entering id session ha
      . rw [List.getElem?_singleton] at ha
        split at ha
        . cases ha
        . cases ha
    . intro session
      rw [List.count_append]
      exact h.conserved session

theorem closes_modify {sessions : List Session} (hsession : session < sessions.length) (other : Nat)
    : closes (sessions.modify session fun s => { s with closed := s.closed + 1 }) other
        = closes sessions other + [session].count other := by
  unfold closes
  simp only [List.getElem?_map, List.getElem?_modify]
  by_cases hother : session = other
  . subst hother
    simp [List.getElem?_eq_getElem hsession]
  . simp [hother]

theorem IsSound.mem_of_stack (h : IsSound link sessions) (hstack : link.stack = some session)
    : session ∈ sessions := by
  have hcount := h.conserved session
  rw [hstack, Option.toList_some, List.count_singleton_self] at hcount
  rw [← List.count_pos_iff]
  omega

theorem IsSound.beginClose (h : IsSound link sessions) (task : Nat) (ending : Ending)
    : IsSound (link.beginClose task ending) sessions := by
  have hunfinished (id : Nat) (a : Attempt) (ha : link.attempts[id]? = some a)
      (hnot : a.isFinished = false) : link.remembered = some id ∧ none = (none : Option Nat) :=
    ⟨(h.unfinished id a ha hnot).1, rfl⟩
  unfold Link.beginClose
  dsimp only
  split
  . next hstack =>
    apply IsSound.finish
    refine
      { h with
        connected_eq := rfl
        client_eq := rfl
        unfinished := hunfinished
        conserved := ?_ }
    intro session
    have hcount := h.conserved session
    rw [hstack] at hcount
    exact hcount
  . next session hstack =>
    have hsession := h.bounded session (h.mem_of_stack hstack)
    apply IsSound.await
    refine
      { h with
        connected_eq := rfl
        client_eq := rfl
        unfinished := hunfinished
        entering := ?_
        bounded := ?_
        conserved := ?_ }
    . intro id other hid
      unfold Link.note
      rw [List.length_modify]
      exact h.entering id other hid
    . intro other hother
      unfold Link.note
      rw [List.length_modify]
      exact h.bounded other hother
    . intro other
      -- What is no longer in use is closed once more instead.
      have hcount := h.conserved other
      rw [hstack, Option.toList_some] at hcount
      unfold Link.note
      rw [closes_modify hsession, ← hcount]
      simp only [Option.toList_none, List.count_nil]
      omega

theorem IsSound.begin (h : IsSound link sessions) (task : Nat) (request : Request)
    : IsSound (link.begin task request) sessions := by
  unfold Link.begin
  split
  . split
    . exact h.finish task _
    . next hconnected => exact h.beginConnect (by simpa using hconnected) task _
  . split
    . exact h.finish task _
    . next hconnected => exact h.beginConnect (by simpa using hconnected) task _
  . exact h.beginCall task _ _
  . split
    . exact h.beginCall task _ _
    . next hconnected => exact h.beginConnect (by simpa using hconnected) task _
  . exact h.beginClose task _

/--
There is only one attempt that has not ended; so once another state of it is put in its place, that
is the only one.
-/
theorem IsSound.eq_of_set (h : IsSound link sessions) (hid : link.attempts[id]? = some a)
    (ha : a.isFinished = false) {other : Nat} {a'' : Attempt}
    (hother : (link.attempts.set id a')[other]? = some a'') (ha'' : a''.isFinished = false)
    : other = id ∧ a'' = a' := by
  obtain ⟨hremembered, -⟩ := h.unfinished id a hid ha
  rw [List.getElem?_set] at hother
  split at hother
  . next heq =>
    split at hother
    . injection hother with hother
      exact ⟨heq.symm, hother.symm⟩
    . cases hother
  . next hne =>
    obtain ⟨hremembered', -⟩ := h.unfinished other a'' hother ha''
    rw [hremembered, Option.some.injEq] at hremembered'
    exact absurd hremembered' hne

theorem count_set {attempts : List Attempt} (hid : attempts[id]? = some a) (a' a'' : Attempt)
    : (attempts.set id a').count a'' + [a].count a'' = attempts.count a'' + [a'].count a'' := by
  induction attempts generalizing id with
  | nil => cases hid
  | cons first rest ih =>
    cases id with
    | zero =>
      cases hid
      simp only [List.set_cons_zero, List.count_cons, List.count_nil]
      omega
    | succ id =>
      rw [List.getElem?_cons_succ] at hid
      have hrest := ih hid
      simp only [List.set_cons_succ, List.count_cons] at hrest ⊢
      omega

theorem IsSound.fail (h : IsSound link sessions) (hid : link.attempts[id]? = some a)
    (ha : a.isFinished = false) (hempty : ∀ session, a ≠ .entered session)
    : IsSound { link with attempts := link.attempts.set id (.finished false) } sessions := by
  have hnone {other : Nat} {a'' : Attempt}
      (hother : (link.attempts.set id (.finished false))[other]? = some a'')
      : a''.isFinished = true := by
    cases hunfinished : a''.isFinished with
    | true => rfl
    | false =>
      obtain ⟨-, rfl⟩ := h.eq_of_set hid ha hother hunfinished
      cases hunfinished
  refine { h with unfinished := ?_, entering := ?_, conserved := ?_ }
  . intro other a'' hother hunfinished
    rw [hnone hother] at hunfinished
    cases hunfinished
  . intro other session hother
    cases hnone hother
  . intro session
    have hcount := h.conserved session
    have hset := count_set hid (.finished false) (.entered session)
    simp only [List.count_singleton, beq_iff_eq, hempty session, reduceCtorEq, ↓reduceIte] at hset
    dsimp only
    omega

theorem closes_append_new {new : Session} (h : new.closed = 0) (sessions : List Session)
    (session : Nat) : closes (sessions ++ [new]) session = closes sessions session := by
  unfold closes
  rw [List.map_append, List.getElem?_append]
  split
  . rfl
  . next hnew =>
    rw [Nat.not_lt] at hnew
    rw [List.getElem?_eq_none hnew, List.map_singleton, List.getElem?_singleton]
    split
    . exact h
    . rfl

theorem IsSound.build (h : IsSound link sessions) (id : Nat) (built : Bool)
    : IsSound (link.build id built) sessions := by
  unfold Link.build
  split
  . next hid =>
    have hfailed := h.fail hid rfl (by simp)
    split
    . exact hfailed
    . dsimp only
      split
      . refine
          { h with unfinished := ?_, entering := ?_, bounded := ?_, conserved := ?_ }
        . intro other a hother hunfinished
          obtain ⟨rfl, -⟩ := h.eq_of_set hid rfl hother hunfinished
          exact h.unfinished other _ hid rfl
        . intro other session hother
          obtain ⟨-, heq⟩ := h.eq_of_set hid rfl hother rfl
          injection heq with heq
          rw [List.length_append, heq]
          refine ⟨Nat.lt_succ_self _, ?_⟩
          -- No session has been opened yet that is not there yet.
          intro hmem
          exact Nat.lt_irrefl _ (h.bounded _ hmem)
        . intro session hmem
          rw [List.length_append]
          exact Nat.lt_add_right 1 (h.bounded session hmem)
        . intro session
          have hset := count_set hid (.entering link.sessions.length) (.entered session)
          simp only [List.count_singleton, beq_iff_eq, reduceCtorEq, ↓reduceIte] at hset
          have hcount := h.conserved session
          dsimp only
          rw [closes_append_new rfl]
          omega
      . exact hfailed.congr rfl rfl rfl rfl rfl rfl
  . exact h

theorem IsSound.enter (h : IsSound link sessions) (id : Nat) (outcome : Entrance)
    : IsSound (link.enter id outcome)
        (sessions ++ (link.opened? (.enter id outcome)).toList) := by
  unfold Link.enter
  split
  . next session hid =>
    have hfailed := h.fail hid rfl (by simp)
    obtain ⟨hbound, hfresh⟩ := h.entering id session hid
    cases outcome with
    | failed =>
      show IsSound _ (sessions ++ [])
      rw [List.append_nil]
      apply hfailed.note
      intro s
      rfl
    | expired =>
      show IsSound _ (sessions ++ [])
      rw [List.append_nil]
      exact hfailed
    | entered =>
      rw [opened?, hid]
      apply IsSound.note
      . refine
          { h with
            unfinished := ?_
            entering := ?_
            bounded := ?_
            nodup := ?_
            conserved := ?_ }
        . intro other a hother hunfinished
          obtain ⟨rfl, -⟩ := h.eq_of_set hid rfl hother hunfinished
          exact h.unfinished other _ hid rfl
        . intro other session' hother
          obtain ⟨-, heq⟩ := h.eq_of_set hid rfl hother rfl
          cases heq
        . intro other hmem
          rw [List.mem_append, Option.toList_some, List.mem_singleton] at hmem
          cases hmem with
          | inl hmem => exact h.bounded other hmem
          | inr heq => exact heq ▸ hbound
        . rw [Option.toList_some, List.nodup_append]
          refine ⟨h.nodup, List.nodup_singleton session, ?_⟩
          intro other hother session' hsession'
          rw [List.mem_singleton] at hsession'
          rw [hsession']
          exact fun heq => hfresh (heq ▸ hother)
        . intro other
          have hset := count_set hid (.entered session) (.entered other)
          have hcount := h.conserved other
          rw [List.count_append, Option.toList_some]
          simp only [List.count_singleton, beq_iff_eq, reduceCtorEq, ↓reduceIte,
            Attempt.entered.injEq] at hset ⊢
          omega
      . intro s
        rfl
  . next hnot =>
    have hnone : link.opened? (.enter id outcome) = none := by
      unfold opened?
      split
      . next heq =>
        cases heq
        split
        . next session hid => exact absurd hid (hnot session)
        . rfl
      . rfl
    rw [hnone, Option.toList_none, List.append_nil]
    exact h

theorem IsSound.adopt (h : IsSound link sessions) (id : Nat)
    : IsSound (link.adopt id) sessions := by
  unfold Link.adopt
  split
  . next session hid =>
    obtain ⟨-, hstack⟩ := h.unfinished id _ hid rfl
    have hnone {other : Nat} {a : Attempt}
        (hother : (link.attempts.set id (.finished true))[other]? = some a)
        (hunfinished : a.isFinished = false) : False := by
      obtain ⟨-, rfl⟩ := h.eq_of_set hid rfl hother hunfinished
      cases hunfinished
    refine
      { h with
        connected_eq := rfl
        client_eq := rfl
        unfinished := ?_
        entering := ?_
        conserved := ?_ }
    . intro other a hother hunfinished
      exact (hnone hother hunfinished).elim
    . intro other session' hother
      exact (hnone hother rfl).elim
    . intro other
      -- There was no session in use, so what the attempt held is all that is in use now.
      have hset := count_set hid (.finished true) (.entered other)
      have hcount := h.conserved other
      rw [hstack, Option.toList_none, List.count_nil] at hcount
      rw [Option.toList_some]
      simp only [List.count_singleton, beq_iff_eq, reduceCtorEq, ↓reduceIte,
        Attempt.entered.injEq] at hset ⊢
      omega
  . exact h

theorem IsSound.wake (h : IsSound link sessions) (task : Nat)
    : IsSound (link.wake task) sessions := by
  unfold Link.wake
  split
  . split
    . next hid => exact h.resume hid task _
    . exact h
  . exact h

theorem IsSound.cancel (h : IsSound link sessions) (task : Nat)
    : IsSound (link.cancel task) sessions := by
  unfold Link.cancel
  split
  . exact h
  . apply IsSound.finish
    split
    . next hid => exact h.forget hid
    . exact h
  . exact h.finish task _

theorem IsSound.reply (h : IsSound link sessions) (task : Nat) (outcome : Except String ToolResult)
    : IsSound (link.reply task outcome) sessions := by
  unfold Link.reply
  split
  . split
    . exact h.finish task _
    . exact h.beginClose task _
  . exact h

theorem IsSound.closed (h : IsSound link sessions) (task : Nat)
    : IsSound (link.closed task) sessions := by
  unfold Link.closed
  split
  . exact h.finish task _
  . exact h

theorem IsSound.step (h : IsSound link sessions) (happening : Happening)
    : IsSound (link.step happening) (sessions ++ (link.opened? happening).toList) := by
  have hsame {link' : Link} (h' : IsSound link' sessions) : IsSound link' (sessions ++ []) := by
    rwa [List.append_nil]
  cases happening with
  | start task request => exact hsame (h.begin task request)
  | build id built => exact hsame (h.build id built)
  | enter id outcome => exact h.enter id outcome
  | adopt id => exact hsame (h.adopt id)
  | wake task => exact hsame (h.wake task)
  | cancel task => exact hsame (h.cancel task)
  | reply task outcome => exact hsame (h.reply task outcome)
  | closed task => exact hsame (h.closed task)

theorem IsSound.run (h : IsSound link sessions) (happenings : List Happening)
    : IsSound (link.run happenings) (sessions ++ link.opened happenings) := by
  induction happenings generalizing link sessions with
  | nil => simpa [Link.run, opened] using h
  | cons happening rest ih =>
    have hrest := ih (h.step happening)
    rw [List.append_assoc] at hrest
    exact hrest

theorem IsSound.eq_of_unfinished (h : IsSound link sessions) {other : Nat}
    (hid : link.IsUnfinished id) (hother : link.IsUnfinished other) : id = other := by
  obtain ⟨a, ha, hunfinished⟩ := hid
  obtain ⟨a', ha', hunfinished'⟩ := hother
  obtain ⟨hremembered, -⟩ := h.unfinished id a ha hunfinished
  obtain ⟨hremembered', -⟩ := h.unfinished other a' ha' hunfinished'
  rwa [hremembered, Option.some.injEq] at hremembered'

theorem IsSound.not_connected (h : IsSound link sessions) (hid : link.IsUnfinished id)
    : link.connected = false := by
  obtain ⟨a, ha, hunfinished⟩ := hid
  obtain ⟨-, hstack⟩ := h.unfinished id a ha hunfinished
  rw [h.connected_eq, hstack]
  rfl

theorem IsSound.accounts (h : IsSound link sessions) (hmem : session ∈ sessions)
    : link.Accounts session := by
  have hcount := h.conserved session
  rw [List.count_eq_one_of_mem h.nodup hmem] at hcount
  have hheld : link.Holds session ↔ 0 < link.attempts.count (.entered session) := by
    rw [List.count_pos_iff, List.mem_iff_getElem?]
    rfl
  have hstored : link.Uses session ↔ link.stack.toList.count session = 1 := by
    unfold Uses
    rw [h.client_eq, and_self]
    cases link.stack with
    | none => simp
    | some stored => simp [List.count_singleton]
  have hone : link.stack.toList.count session ≤ 1 := by omega
  unfold Accounts
  rw [hheld, hstored]
  omega

/--
At every point of every interleaving there is a connection exactly while a client and the session to
close are stored; at most one attempt has not ended, and there is no connection besides it; and
every session whose entry succeeded is held by that attempt, in use, or was closed once.
-/
theorem run_keeps_account (configured : Bool) (happenings : List Happening)
    : let link := (fresh configured).run happenings
      (link.connected = link.client.isSome ∧ link.client.isSome = link.stack.isSome)
        ∧ (∀ id other, link.IsUnfinished id → link.IsUnfinished other → id = other)
        ∧ (∀ id, link.IsUnfinished id → link.connected = false)
        ∧ ∀ session ∈ (fresh configured).opened happenings, link.Accounts session := by
  intro link
  have h : IsSound link ((fresh configured).opened happenings) :=
    (isSound_fresh configured).run happenings
  refine ⟨⟨?_, ?_⟩, ?_, ?_, ?_⟩
  . rw [h.connected_eq, h.client_eq]
  . rw [h.client_eq]
  . intro id other
    exact h.eq_of_unfinished
  . intro id
    exact h.not_connected
  . intro session
    exact h.accounts

end

end Link

end Datebook
