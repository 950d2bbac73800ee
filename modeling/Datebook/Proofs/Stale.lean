import Datebook.Proofs.Link

/-!
This module contains the verification of what the failure of a call does to the connection: which
session it closes, where other tasks have disconnected and connected again while the call was under
way.
-/

namespace Datebook.Link

section

variable (link : Link) {task other : Nat}

theorem lookup_filter_ne {tasks : List (Nat × Wait)} (h : other ≠ task)
    : (tasks.filter fun entry => entry.1 ≠ task).lookup other = tasks.lookup other := by
  induction tasks with
  | nil => rfl
  | cons entry rest ih =>
    obtain ⟨key, wait⟩ := entry
    rw [List.filter_cons, List.lookup_cons]
    split
    . rw [List.lookup_cons, ih]
    . next hkey =>
      have hne : (other == key) = false := by
        rw [beq_eq_false_iff_ne]
        intro heq
        apply h
        simpa [heq] using hkey
      rw [ih, hne]

theorem waitOf_finish (ending : Ending)
    : (link.finish task ending).waitOf other = if other = task then none else link.waitOf other := by
  unfold waitOf finish
  dsimp only
  split
  . next heq =>
    rw [List.lookup_eq_none_iff, heq]
    intro entry hentry
    rw [List.mem_filter, decide_eq_true_eq] at hentry
    rw [bne_iff_ne]
    exact hentry.2.symm
  . next hne => exact lookup_filter_ne hne

theorem waitOf_await (wait : Wait)
    : (link.await task wait).waitOf other = if other = task then some wait else link.waitOf other := by
  unfold waitOf await
  dsimp only
  rw [List.lookup_cons]
  by_cases heq : other = task
  . rw [if_pos heq, heq, beq_self_eq_true]
  . rw [if_neg heq, beq_false_of_ne heq]
    exact lookup_filter_ne heq

theorem closes_le_note {f : Session → Session} (hf : ∀ s, s.closed ≤ (f s).closed) (noted session : Nat)
    : closes link.sessions session ≤ closes (link.note noted f).sessions session := by
  unfold closes note
  rw [List.getElem?_map, List.getElem?_map, List.getElem?_modify]
  cases link.sessions[session]? with
  | none => exact Nat.le_refl _
  | some s =>
    dsimp only [Option.map_eq_map, Option.map_some, Option.getD_some]
    split
    . exact hf s
    . exact Nat.le_refl _

end

/--
What can change when something happens: a task starts to wait for a reply from the session in use
only, and a close that was started stays so.
-/
structure Advances (link link' : Link) : Prop where
  reply : ∀ task session operation, link'.waitOf task = some (.reply session operation)
    → link.waitOf task = some (.reply session operation) ∨ link'.client = some session
  closes : ∀ session, closes link.sessions session ≤ closes link'.sessions session

namespace Advances

variable {link base : Link}

theorem of_eq {link' : Link} (htasks : link'.tasks = link.tasks)
    (hsessions : link'.sessions = link.sessions) : Advances link link' := by
  constructor
  . intro task session operation hwait
    left
    unfold waitOf at hwait ⊢
    rwa [← htasks]
  . intro session
    apply Nat.le_of_eq
    rw [hsessions]

theorem refl (link : Link) : Advances link link :=
  of_eq rfl rfl

theorem finish (h : Advances link base) (task : Nat) (ending : Ending)
    : Advances link (base.finish task ending) := by
  refine ⟨?_, h.closes⟩
  intro other session operation hwait
  rw [waitOf_finish] at hwait
  split at hwait
  . cases hwait
  . exact h.reply other session operation hwait

theorem await (h : Advances link base) (task : Nat) {wait : Wait}
    (hwait : ∀ session operation, wait = .reply session operation → base.client = some session)
    : Advances link (base.await task wait) := by
  refine ⟨?_, h.closes⟩
  intro other session operation hother
  rw [waitOf_await] at hother
  split at hother
  . injection hother with heq
    exact .inr (hwait session operation heq)
  . exact h.reply other session operation hother

theorem note (h : Advances link base) {f : Session → Session} (hf : ∀ s, s.closed ≤ (f s).closed)
    (session : Nat) : Advances link (base.note session f) := by
  refine ⟨h.reply, ?_⟩
  intro other
  exact Nat.le_trans (h.closes other) (base.closes_le_note hf session other)

theorem forget (h : Advances link base) (id : Nat) : Advances link (base.forget id) := by
  unfold Link.forget
  split
  . exact ⟨h.reply, h.closes⟩
  . exact h

theorem beginCall (h : Advances link base) (task : Nat) (operation : String) (args : Fields)
    : Advances link (base.beginCall task operation args) := by
  unfold Link.beginCall
  split
  . next session hconnected hclient =>
    refine (h.note ?_ session).await task ?_
    . intro s
      exact Nat.le_refl _
    . intro other operation' heq
      injection heq with heq
      rw [← heq]
      exact hclient
  . exact h.finish task _

theorem resume (h : Advances link base) (task id : Nat) (live : Bool)
    (goal : Option (String × Fields)) : Advances link (base.resume task id live goal) := by
  have hforgotten := h.forget id
  unfold Link.resume
  dsimp only
  split
  . exact hforgotten.finish task _
  . split
    . exact hforgotten.beginCall task _ _
    . exact hforgotten.finish task _

theorem beginConnect (link : Link) (task : Nat) (goal : Option (String × Fields))
    : Advances link (link.beginConnect task goal) := by
  unfold Link.beginConnect
  split
  . split
    . exact (refl link).resume task _ _ goal
    . exact (refl link).await task nofun
  . have hnew : Advances link
        { link with
          attempts := link.attempts ++ [Attempt.created]
          remembered := some link.attempts.length } := of_eq rfl rfl
    exact hnew.await task nofun

theorem beginClose (link : Link) (task : Nat) (ending : Ending)
    : Advances link (link.beginClose task ending) := by
  have hdropped : Advances link { link with connected := false, client := none, stack := none } :=
    of_eq rfl rfl
  unfold Link.beginClose
  dsimp only
  split
  . exact hdropped.finish task ending
  . refine (hdropped.note ?_ _).await task nofun
    intro s
    exact Nat.le_succ _

theorem begin (link : Link) (task : Nat) (request : Request)
    : Advances link (link.begin task request) := by
  unfold Link.begin
  split
  . split
    . exact (refl link).finish task _
    . exact beginConnect link task none
  . split
    . exact (refl link).finish task _
    . exact beginConnect link task none
  . exact (refl link).beginCall task _ _
  . split
    . exact (refl link).beginCall task _ _
    . exact beginConnect link task _
  . exact beginClose link task .closed

theorem build (link : Link) (id : Nat) (built : Bool) : Advances link (link.build id built) := by
  unfold Link.build
  split
  . split
    . exact of_eq rfl rfl
    . dsimp only
      split
      . refine ⟨fun _ _ _ => .inl, ?_⟩
        intro session
        dsimp only
        apply Nat.le_of_eq
        rw [closes_append_new rfl]
      . exact of_eq rfl rfl
  . exact refl link

theorem enter (link : Link) (id : Nat) (outcome : Entrance)
    : Advances link (link.enter id outcome) := by
  unfold Link.enter
  split
  . next session _ =>
    have hset (a : Attempt) : Advances link { link with attempts := link.attempts.set id a } :=
      of_eq rfl rfl
    cases outcome with
    | entered =>
      apply (hset (.entered session)).note
      intro s
      exact Nat.le_refl _
    | failed =>
      apply (hset (.finished false)).note
      intro s
      exact Nat.le_refl _
    | expired => exact hset (.finished false)
  . exact refl link

theorem adopt (link : Link) (id : Nat) : Advances link (link.adopt id) := by
  unfold Link.adopt
  split
  . exact of_eq rfl rfl
  . exact refl link

theorem wake (link : Link) (task : Nat) : Advances link (link.wake task) := by
  unfold Link.wake
  split
  . split
    . exact (refl link).resume task _ _ _
    . exact refl link
  . exact refl link

theorem cancel (link : Link) (task : Nat) : Advances link (link.cancel task) := by
  unfold Link.cancel
  split
  . exact refl link
  . dsimp only
    split
    . exact ((refl link).forget _).finish task _
    . exact (refl link).finish task _
  . exact (refl link).finish task _

theorem reply_step (link : Link) (task : Nat) (outcome : Except String ToolResult)
    : Advances link (link.reply task outcome) := by
  unfold Link.reply
  split
  . split
    . exact (refl link).finish task _
    . exact beginClose link task _
  . exact refl link

theorem closed (link : Link) (task : Nat) : Advances link (link.closed task) := by
  unfold Link.closed
  split
  . exact (refl link).finish task _
  . exact refl link

theorem step (link : Link) (happening : Happening) : Advances link (link.step happening) := by
  cases happening with
  | start task request => exact begin link task request
  | build id built => exact build link id built
  | enter id outcome => exact enter link id outcome
  | adopt id => exact adopt link id
  | wake task => exact wake link task
  | cancel task => exact cancel link task
  | reply task outcome => exact reply_step link task outcome
  | closed task => exact closed link task

end Advances

theorem run_append (link : Link) (before later : List Happening)
    : link.run (before ++ later) = (link.run before).run later :=
  List.foldl_append

theorem closes_le_run (link : Link) (happenings : List Happening) (session : Nat)
    : closes link.sessions session ≤ closes (link.run happenings).sessions session := by
  induction happenings generalizing link with
  | nil => exact Nat.le_refl _
  | cons happening rest ih =>
    exact Nat.le_trans ((Advances.step link happening).closes session) (ih (link.step happening))

section

variable {link : Link} {sessions : List Nat} {task session other : Nat}

theorem IsSound.closes_of_stack (h : IsSound link sessions) (hstack : link.stack = some session)
    (hother : other ∈ sessions) (hne : other ≠ session) : closes link.sessions other = 1 := by
  have hheld : ¬ link.Holds other := by
    rintro ⟨id, hid⟩
    have hnone := (h.unfinished id _ hid rfl).2
    rw [hstack] at hnone
    cases hnone
  have huses : ¬ link.Uses other := by
    intro huses
    rw [huses.2, Option.some.injEq] at hstack
    exact hne hstack
  obtain ⟨hholds, -⟩ | ⟨-, hin, -⟩ | ⟨-, -, hclosed⟩ := h.accounts hother
  . exact absurd hholds hheld
  . exact absurd hin huses
  . exact hclosed

theorem IsSound.closes_eq_zero (h : IsSound link sessions) (hstack : link.stack = some session)
    : closes link.sessions session = 0 := by
  have huses : link.Uses session := ⟨h.client_eq.trans hstack, hstack⟩
  obtain ⟨-, -, hopen⟩ | ⟨-, -, hopen⟩ | ⟨-, hnot, -⟩ := h.accounts (h.mem_of_stack hstack)
  . exact hopen
  . exact hopen
  . exact absurd huses hnot

theorem IsSound.replaced (h : IsSound link sessions) (hstack : link.stack = some session)
    {later : List Happening} (hother : (link.run later).stack = some other) (hne : other ≠ session)
    : closes (link.run later).sessions session = 1 ∧ other ∈ link.opened later ∧ other ∉ sessions := by
  have hlater := h.run later
  refine ⟨?_, ?_⟩
  . apply hlater.closes_of_stack hother
    . exact List.mem_append_left _ (h.mem_of_stack hstack)
    . exact hne.symm
  . have hnot : other ∉ sessions := by
      intro hmem
      -- It would have been closed already, and what is closed does not come into use again.
      have hclosed := h.closes_of_stack hstack hmem hne
      have hle := closes_le_run link later other
      rw [hclosed, hlater.closes_eq_zero hother] at hle
      exact Nat.not_succ_le_zero 0 hle
    refine ⟨?_, hnot⟩
    exact (List.mem_append.mp (hlater.mem_of_stack hother)).resolve_left hnot

theorem IsSound.closes_beginClose (h : IsSound link sessions) (task : Nat) (ending : Ending)
    : closes (link.beginClose task ending).sessions other
        = closes link.sessions other + link.stack.toList.count other := by
  unfold Link.beginClose
  dsimp only
  split
  . next hstack =>
    rw [hstack]
    rfl
  . next session hstack =>
    rw [hstack, Option.toList_some]
    exact closes_modify (h.bounded session (h.mem_of_stack hstack)) other

theorem reply_error (text : String) {operation : String}
    (hwaits : link.waitOf task = some (.reply session operation))
    : link.step (.reply task (.error text))
        = link.beginClose task (.answered (.error (.backend (.transport operation text)))) := by
  show link.reply task (.error text) = _
  unfold Link.reply
  rw [hwaits]

theorem beginClose_connection (link : Link) (task : Nat) (ending : Ending)
    : (link.beginClose task ending).connected = false
        ∧ (link.beginClose task ending).client = none
        ∧ (link.beginClose task ending).stack = none := by
  unfold Link.beginClose
  dsimp only
  split
  . exact ⟨rfl, rfl, rfl⟩
  . exact ⟨rfl, rfl, rfl⟩

end

def Sends (link : Link) (happening : Happening) (task session : Nat) (operation : String) : Prop :=
  (∀ other operation', link.waitOf task ≠ some (.reply other operation'))
    ∧ (link.step happening).waitOf task = some (.reply session operation)

/--
Whether what happened in one session leaves the others alone: none of them is closed, and where
another one is in use the connection stays.
-/
def Spares (link link' : Link) (session : Nat) : Prop :=
  (∀ other, closes link'.sessions other ≠ closes link.sessions other → other = session)
    ∧ ∀ other, link.stack = some other → other ≠ session → link'.connected = true

section

variable {link : Link} {sessions : List Nat} {task session : Nat} {operation : String}

/--
A call is sent in the session in use.
-/
theorem IsSound.stack_of_sends (h : IsSound link sessions) {happening : Happening}
    (hsent : link.Sends happening task session operation)
    : (link.step happening).stack = some session := by
  obtain ⟨hidle, hwaits⟩ := hsent
  obtain hwaited | hclient := (Advances.step link happening).reply task session operation hwaits
  . exact absurd hwaited (hidle session operation)
  . rw [← (h.step happening).client_eq]
    exact hclient

/--
A call that fails leaves the other sessions alone exactly if none of them is in use.
-/
theorem IsSound.spares_iff (h : IsSound link sessions) (text : String)
    (hwaits : link.waitOf task = some (.reply session operation))
    : link.Spares (link.step (.reply task (.error text))) session
        ↔ ∀ other, link.stack = some other → other = session := by
  rw [reply_error text hwaits]
  constructor
  . intro hspares other hstack
    apply hspares.1
    rw [h.closes_beginClose, hstack, Option.toList_some, List.count_singleton_self]
    exact Nat.succ_ne_self _
  . intro hown
    constructor
    . intro other hcloses
      apply hown
      rw [h.closes_beginClose] at hcloses
      cases hstack : link.stack with
      | none => simp [hstack] at hcloses
      | some stored =>
        rw [hstack, Option.toList_some, List.count_singleton] at hcloses
        split at hcloses
        . next heq => rw [eq_of_beq heq]
        . exact absurd rfl hcloses
    . intro other hstack hne
      exact absurd (hown other hstack) hne

/--
After any interleaving, a call that fails drops and closes whatever session is in use, whichever
session it was sent in. So it leaves the other sessions alone exactly if none of them is in use, as
is the case unless one was opened since; one that is in use was opened since the call was sent, and
the session of the call had been closed already.
-/
theorem run_failure_closes_session_in_use (configured : Bool) (before later : List Happening)
    (sending : Happening) (text : String)
    (hsent : ((fresh configured).run before).Sends sending task session operation)
    (hwaits : ((fresh configured).run (before ++ sending :: later)).waitOf task
      = some (.reply session operation))
    : let sent := (fresh configured).run (before ++ [sending])
      let link := (fresh configured).run (before ++ sending :: later)
      let failed := link.step (.reply task (.error text))
      (failed.connected = false ∧ failed.client = none ∧ failed.stack = none)
        ∧ (∀ other, closes failed.sessions other
            = closes link.sessions other + link.stack.toList.count other)
        ∧ (link.Spares failed session ↔ ∀ other, link.stack = some other → other = session)
        ∧ (sent.opened later = [] → link.Spares failed session)
        ∧ ∀ other, link.stack = some other → other ≠ session
          → closes link.sessions session = 1
            ∧ other ∈ sent.opened later
            ∧ other ∉ (fresh configured).opened (before ++ [sending]) := by
  intro sent link failed
  have hsound : IsSound sent ((fresh configured).opened (before ++ [sending])) :=
    (isSound_fresh configured).run (before ++ [sending])
  have hlink : link = sent.run later := by
    show (fresh configured).run _ = _
    rw [List.append_cons, run_append]
  have hstack : sent.stack = some session := by
    show ((fresh configured).run _).stack = _
    rw [run_append]
    exact ((isSound_fresh configured).run before).stack_of_sends hsent
  have hreplaced (other : Nat) (hother : link.stack = some other) (hne : other ≠ session)
      : closes link.sessions session = 1 ∧ other ∈ sent.opened later
        ∧ other ∉ (fresh configured).opened (before ++ [sending]) := by
    rw [hlink] at hother ⊢
    exact hsound.replaced hstack hother hne
  have hafter : IsSound link ((fresh configured).opened (before ++ sending :: later)) :=
    (isSound_fresh configured).run (before ++ sending :: later)
  have hspares := hafter.spares_iff text hwaits
  refine ⟨?_, ?_, hspares, ?_, hreplaced⟩
  . unfold failed
    rw [reply_error text hwaits]
    apply beginClose_connection
  . intro other
    unfold failed
    rw [reply_error text hwaits]
    exact hafter.closes_beginClose task _
  . intro hnone
    rw [hspares]
    intro other hother
    by_contra hne
    obtain ⟨-, hopened, -⟩ := hreplaced other hother hne
    rw [hnone] at hopened
    cases hopened

end

def connecting (task attempt : Nat) : List Happening :=
  [.start task .connect, .build attempt true, .enter attempt .entered, .adopt attempt, .wake task]

theorem run_failure_closes_own_session
    : let link := (fresh true).run (connecting 0 0 ++ [.start 1 (.call "list-events" [])])
      link.waitOf 1 = some (.reply 0 "list-events")
        ∧ link.Spares (link.step (.reply 1 (.error "gone"))) 0 := by
  have hsent : ((fresh true).run (connecting 0 0)).Sends (.start 1 (.call "list-events" [])) 1 0
      "list-events" := ⟨nofun, rfl⟩
  have hfailure := run_failure_closes_session_in_use true (connecting 0 0) [] _ "gone" hsent rfl
  exact ⟨rfl, hfailure.2.2.2.1 rfl⟩

/--
Two calls are sent in a session and the first one fails. The second one fails only after a new
session has been opened, and closes that.
-/
theorem not_forall_run_failure_spares
    : ¬ ∀ (configured : Bool) (before later : List Happening) (sending : Happening)
        (task session : Nat) (operation text : String),
        ((fresh configured).run before).Sends sending task session operation
        → ((fresh configured).run (before ++ sending :: later)).waitOf task
          = some (.reply session operation)
        → let link := (fresh configured).run (before ++ sending :: later)
          link.Spares (link.step (.reply task (.error text))) session := by
  intro hall
  have hspares := hall true (connecting 0 0 ++ [.start 1 (.call "list-events" [])])
    (.reply 1 (.error "gone") :: connecting 3 1) (.start 2 (.call "list-calendars" [])) 2 0
    "list-calendars" "gone" ⟨nofun, rfl⟩ rfl
  cases hspares.2 1 rfl Nat.one_ne_zero

end Datebook.Link
