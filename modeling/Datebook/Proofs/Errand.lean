import Datebook.Operation.Catalog
import Datebook.Proofs.Fault
import Datebook.Proofs.Plan

/-!
This module contains the one form that the plans of all kinds of commands have: everything that can
be checked without the service, at most one search, and one question.
-/

namespace Datebook

structure Question where
  args : Fields
  result : Value → Except Fault Value

def Plan.send (operation : String) : Except Fault Question → Plan Value
  | .error e => .done (.error e)
  | .ok question => .invoke operation question.args fun raw => .done (question.result raw)

def Target.found [Host] (query : String) (raw : Value) : Except Fault Event := do
  match ← Target.pick raw with
  | none => .error (.target (.notFound query))
  | some e => if (e.id.getD "").isEmpty then .error (.target (.notFound query)) else .ok e

/--
What a command has to do. `search` is the text by which it names its event, where that has to be
searched, with the arguments of the search.
-/
structure Errand where
  search : Option (String × Fields)
  question : Option Event → Except Fault Question

namespace Errand

def direct (result : Value → Except Fault Value) (args : Fields) : Errand :=
  ⟨none, fun _ => .ok ⟨args, result⟩⟩

def plan [Host] (operation : String) (errand : Errand) : Plan Value :=
  match errand.search with
  | none => .send operation (errand.question none)
  | some (query, args) =>
    .invoke "search-events" args fun raw =>
      match Target.found query raw with
      | .error e => .done (.error e)
      | .ok e => .send operation (errand.question (some e))

end Errand

namespace Address

def search [Host] (address : Address) (prefs : Preferences) (now : Instant) (params : Fields)
    (calendarId : String) : Except Fault (Option (String × Fields)) :=
  if address.eventId = "" then do
    let window ← prefs.targetWindow now params
    let args ← Target.searchArgs prefs now (.text address.query) window calendarId
    .ok (some (address.query, args))
  else .ok none

def idOf (address : Address) : Option Event → String
  | none => address.eventId
  | some e => e.id.getD ""

end Address

namespace Operation

variable [Host]

def createErrand (prefs : Preferences) (params : Fields) : Except Fault Errand := do
  let draft ← Draft.ofParams prefs params
  .ok (.direct (fun raw => Reply.normalize .create raw (some draft.event) none) draft.toArgs)

def availabilityErrand (prefs : Preferences) (now : Instant) (params : Fields) :
    Except Fault Errand := do
  let inquiry ← Inquiry.ofParams prefs now params
  .ok (.direct (slotsData prefs.detailed inquiry) (freeBusyArgs [inquiry.calendarId] inquiry.window))

def updateQuestion (address : Address) (calendarId : String) (changes : Changes)
    (target : Option Event) : Except Fault Question := do
  changes.checkAgainst target
  .ok
    { args := changes.toArgs calendarId (address.idOf target)
      result := fun raw => Reply.normalize .update raw (target.map changes.apply) none }

def updateErrand (prefs : Preferences) (now : Instant) (params : Fields) : Except Fault Errand := do
  let (address, calendarId, changes) ← updateInput prefs params
  let search ← address.search prefs now params calendarId
  .ok ⟨search, updateQuestion address calendarId changes⟩

def deleteQuestion (address : Address) (calendarId notified : String) (target : Option Event) :
    Except Fault Question :=
  .ok
    { args := deleteArgs calendarId (address.idOf target) notified
      result := fun raw => Reply.normalize .delete raw target (some (address.idOf target)) }

def deleteErrand (prefs : Preferences) (now : Instant) (params : Fields) : Except Fault Errand := do
  let (address, calendarId, notified) ← deleteInput prefs params
  let search ← address.search prefs now params calendarId
  .ok ⟨search, deleteQuestion address calendarId notified⟩

def lookUpErrand (kind : Kind) (prefs : Preferences) (params : Fields) : Except Fault Errand := do
  let args ← zoneArgs prefs params
  .ok (.direct (fun raw => Reply.normalize kind raw none none) args)

end Operation

namespace Kind

def operation : Kind → String
  | create => "create-event"
  | list => "list-events"
  | search => "search-events"
  | update => "update-event"
  | delete => "delete-event"
  | freeBusy => "get-freebusy"
  | availability => "get-freebusy"
  | listCalendars => "list-calendars"
  | listColors => "list-colors"
  | currentTime => "get-current-time"

def errand [Host] (kind : Kind) (prefs : Preferences) (now : Instant) (params : Fields) :
    Except Fault Errand :=
  match kind with
  | .create => Operation.createErrand prefs params
  | .list => do
    let args ← Operation.listArgs prefs now params
    .ok (.direct (fun raw => Reply.normalize .list raw none none) args)
  | .search => do
    let args ← Operation.queryArgs prefs now params
    .ok (.direct (fun raw => Reply.normalize .search raw none none) args)
  | .update => Operation.updateErrand prefs now params
  | .delete => Operation.deleteErrand prefs now params
  | .freeBusy => do
    let args ← Operation.busyArgs prefs now params
    .ok (.direct (Operation.busyData prefs.detailed) args)
  | .availability => Operation.availabilityErrand prefs now params
  | .listCalendars | .listColors | .currentTime => Operation.lookUpErrand kind prefs params

end Kind

def Plan.ofErrand [Host] (operation : String) : Except Fault Errand → Plan Value
  | .error e => .done (.error e)
  | .ok errand => errand.plan operation

theorem Errand.eq_direct {α : Type} {input : Except Fault α} {args : α → Fields}
    {result : α → Value → Except Fault Value} {errand : Errand}
    (h : (input >>= fun a => .ok (Errand.direct (result a) (args a))) = .ok errand)
    : ∃ a, input = .ok a ∧ errand = .direct (result a) (args a) := by
  rw [Except.bind_eq_ok] at h
  obtain ⟨a, ha, h⟩ := h
  injection h with h
  exact ⟨a, ha, h.symm⟩

theorem Plan.meets_send {ask : List Exchange → String → Fields → Prop}
    {fin : List Exchange → Except Fault Value → Prop} {past : List Exchange} {operation : String}
    {question : Except Fault Question}
    : (Plan.send operation question).Meets ask fin past
        ↔ (∀ e, question = .error e → fin past (.error e))
          ∧ ∀ r, question = .ok r → ask past operation r.args
            ∧ ∀ raw, fin (past ++ [⟨operation, r.args, raw⟩]) (r.result raw) := by
  cases question with
  | error e => simp [send]
  | ok r => simp [send]

variable [Host] {prefs : Preferences} {now : Instant} {params : Fields}

theorem Plan.ask_eq_ofErrand (operation : String) (args : Except Fault Fields)
    (result : Value → Except Fault Value)
    : Plan.ask operation args result
        = Plan.ofErrand operation (do .ok (.direct result (← args))) := by
  cases args with
  | error e => rfl
  | ok args => rfl

theorem Address.resolve_bind {address : Address} {calendarId operation : String}
    {next : String × Option Event → Plan Value} {question : Option Event → Except Fault Question}
    (h : ∀ target, next (address.idOf target, target) = .send operation (question target))
    : (address.resolve prefs now params calendarId).bind next
        = .ofErrand operation
            (do .ok ⟨← address.search prefs now params calendarId, question⟩) := by
  unfold resolve search find Target.find
  by_cases hid : address.eventId = ""
  . simp only [hid, ↓reduceIte]
    cases prefs.targetWindow now params with
    | error e => rfl
    | ok window =>
      simp only [bind, Except.bind]
      cases Target.searchArgs prefs now (.text address.query) window calendarId with
      | error e => rfl
      | ok args =>
        simp only [Plan.ask, Plan.bind_invoke, Plan.ofErrand, Errand.plan, Plan.invoke.injEq,
          true_and]
        funext raw
        unfold Target.found
        cases Target.pick raw with
        | error e => rfl
        | ok found =>
          cases found with
          | none => rfl
          | some e =>
            simp only [Plan.bind_ok, bind, Except.bind]
            split
            . rfl
            . exact h (some e)
  . simp only [hid, ↓reduceIte]
    exact h none

theorem Kind.plan_eq (kind : Kind) (prefs : Preferences) (now : Instant) (params : Fields)
    : kind.plan prefs now params = .ofErrand kind.operation (kind.errand prefs now params) := by
  cases kind with
  | create =>
    unfold plan errand Operation.create Operation.createErrand
    cases Draft.ofParams prefs params with
    | error e => rfl
    | ok draft => rfl
  | list => exact Plan.ask_eq_ofErrand ..
  | search => exact Plan.ask_eq_ofErrand ..
  | freeBusy => exact Plan.ask_eq_ofErrand ..
  | listCalendars => exact Plan.ask_eq_ofErrand ..
  | listColors => exact Plan.ask_eq_ofErrand ..
  | currentTime => exact Plan.ask_eq_ofErrand ..
  | availability =>
    unfold plan errand Operation.availability Operation.availabilityErrand
    cases Operation.Inquiry.ofParams prefs now params with
    | error e => rfl
    | ok inquiry => rfl
  | update =>
    unfold plan errand Operation.update Operation.updateErrand
    cases Operation.updateInput prefs params with
    | error e => rfl
    | ok input =>
      obtain ⟨address, calendarId, changes⟩ := input
      apply Address.resolve_bind
      intro target
      -- With or without a search, the changes are checked against what is known of the event.
      unfold Operation.updateQuestion
      dsimp only
      cases changes.checkAgainst target with
      | error e => rfl
      | ok checked => rfl
  | delete =>
    unfold plan errand Operation.delete Operation.deleteErrand
    cases Operation.deleteInput prefs params with
    | error e => rfl
    | ok input =>
      obtain ⟨address, calendarId, notified⟩ := input
      apply Address.resolve_bind
      intro target
      rfl

theorem Operation.updateErrand_eq_ok {errand : Errand}
    (h : updateErrand prefs now params = .ok errand)
    : ∃ address calendarId changes, Address.ofParams params = .ok address
        ∧ prefs.calendarOf params = .ok calendarId ∧ Changes.ofParams prefs params = .ok changes
        ∧ address.search prefs now params calendarId = .ok errand.search
        ∧ errand.question = updateQuestion address calendarId changes := by
  unfold updateErrand updateInput at h
  rw [Except.bind_eq_ok] at h
  obtain ⟨⟨address, calendarId, changes⟩, hinput, h⟩ := h
  simp only [Except.bind_eq_ok] at hinput h
  obtain ⟨_, haddress, _, hcalendar, _, hchanges, hinput⟩ := hinput
  obtain ⟨search, hsearch, h⟩ := h
  cases hinput
  cases h
  exact ⟨address, calendarId, changes, haddress, hcalendar, hchanges, hsearch, rfl⟩

theorem Operation.deleteErrand_eq_ok {errand : Errand}
    (h : deleteErrand prefs now params = .ok errand)
    : ∃ address calendarId notified, Address.ofParams params = .ok address
        ∧ prefs.calendarOf params = .ok calendarId
        ∧ Field.text (Command.param params ["sendUpdates"]) = .ok notified
        ∧ address.search prefs now params calendarId = .ok errand.search
        ∧ errand.question = deleteQuestion address calendarId notified := by
  unfold deleteErrand deleteInput at h
  rw [Except.bind_eq_ok] at h
  obtain ⟨⟨address, calendarId, notified⟩, hinput, h⟩ := h
  simp only [Except.bind_eq_ok] at hinput h
  obtain ⟨_, haddress, _, hcalendar, _, hnotified, hinput⟩ := hinput
  obtain ⟨search, hsearch, h⟩ := h
  cases hinput
  cases h
  exact ⟨address, calendarId, notified, haddress, hcalendar, hnotified, hsearch, rfl⟩

section

variable {ask : List Exchange → String → Fields → Prop}
  {fin : List Exchange → Except Fault Value → Prop} {past : List Exchange} {operation query : String}
  {args : Fields} {errand : Errand}

theorem Plan.meets_ofErrand {errand : Except Fault Errand}
    : (Plan.ofErrand operation errand).Meets ask fin past
        ↔ (∀ e, errand = .error e → fin past (.error e))
          ∧ ∀ a, errand = .ok a → (a.plan operation).Meets ask fin past := by
  cases errand with
  | error e => simp [ofErrand]
  | ok a => simp [ofErrand]

theorem Errand.meets_plan_of_none (h : errand.search = none)
    : (errand.plan operation).Meets ask fin past
        ↔ (Plan.send operation (errand.question none)).Meets ask fin past := by
  unfold plan
  rw [h]

theorem Errand.meets_plan_of_some (h : errand.search = some (query, args))
    : (errand.plan operation).Meets ask fin past
        ↔ ask past "search-events" args
          ∧ ∀ raw, (∀ e, Target.found query raw = .error e
              → fin (past ++ [⟨"search-events", args, raw⟩]) (.error e))
            ∧ ∀ e, Target.found query raw = .ok e
              → (Plan.send operation (errand.question (some e))).Meets ask fin
                  (past ++ [⟨"search-events", args, raw⟩]) := by
  unfold plan
  rw [h]
  dsimp only
  rw [Plan.meets_invoke]
  apply and_congr_right
  intro _
  apply forall_congr'
  intro raw
  cases Target.found query raw with
  | error e => simp
  | ok e => simp

end

end Datebook
