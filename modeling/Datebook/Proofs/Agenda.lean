import Datebook.Proofs.Backend
import Datebook.Proofs.Errand
import Datebook.Proofs.Field

/-!
This module contains the verification of which operations a command calls, and in which order.
-/

namespace Datebook

def Catalog.operationsOf (catalog : Catalog) (kind : Kind) : List String :=
  match catalog.find kind with
  | .ok entry => entry.operation.toList
  | .error _ => []

theorem Catalog.operationsOf_standard (kind : Kind)
    : Catalog.standard.operationsOf kind = [kind.operation] := by
  cases kind <;> rfl

def isMutating (operation : String) : Bool :=
  operation = "create-event" || operation = "update-event" || operation = "delete-event"

def Kind.hasTarget (kind : Kind) : Bool :=
  kind = .update || kind = .delete

namespace Command

def seeks (c : Command) : Bool :=
  c.kind.hasTarget && ["eventId", "id"].all fun name => (Fields.get c.params name).isAbsent

/--
The operations that a command calls when nothing goes wrong: the one registered for its kind, and
before it the search for the event where there has to be one.
-/
def agenda (c : Command) : List String :=
  (if c.seeks then ["search-events"] else []) ++ Catalog.standard.operationsOf c.kind

theorem hasTarget_of_seeks {c : Command} (h : c.seeks = true) : c.kind.hasTarget = true := by
  unfold seeks at h
  rw [Bool.and_eq_true] at h
  exact h.1

theorem nodup_agenda (c : Command) : c.agenda.Nodup := by
  unfold agenda
  rw [Catalog.operationsOf_standard]
  split
  . next hseeks =>
    unfold seeks Kind.hasTarget at hseeks
    cases hkind : c.kind <;> simp [hkind] at hseeks ⊢
    . decide
    . decide
  . simp

theorem mutating_agenda (c : Command) : (c.agenda.filter isMutating).length ≤ 1 := by
  unfold agenda
  rw [Catalog.operationsOf_standard, List.filter_append]
  have hsearch : (if c.seeks then ["search-events"] else []).filter isMutating = [] := by
    split
    . rfl
    . rfl
  rw [hsearch, List.nil_append]
  exact List.length_filter_le isMutating [c.kind.operation]

end Command

theorem Backend.Ends.keeps {agenda : List String} {trace : List Touch}
    {result : Except Fault Value}
    (h : Ends (fun past operation _ => past.map Exchange.operation ++ [operation] <+: agenda)
      (fun past result => past.map Exchange.operation <+: agenda
        ∧ ∀ data, result = .ok data → past.map Exchange.operation = agenda) [] trace result)
    : calls trace <+: agenda ∧ ∀ data, result = .ok data → calls trace = agenda := by
  cases h with
  | finished hanswered hfin =>
    rw [hanswered.calls_eq]
    exact hfin
  | refused hanswered hask =>
    -- The call that was not made would have kept to the agenda, and so does what came before it.
    obtain ⟨operation, args, hask⟩ := hask
    rw [calls_append, hanswered.calls_eq]
    refine ⟨?_, by simp⟩
    show _ ++ [] <+: agenda
    rw [List.append_nil]
    exact (List.prefix_append _ _).trans hask
  | failed hanswered hprelude hask =>
    rw [calls_append, calls_append, hanswered.calls_eq, (of_mem_preludes hprelude).1]
    exact ⟨hask, by simp⟩

variable [Host] {prefs : Preferences} {now : Instant} {params : Fields} {errand : Errand}

theorem Address.eventId_eq_empty_iff {address : Address} (h : ofParams params = .ok address)
    : address.eventId = "" ↔ ["eventId", "id"].all fun name => (Fields.get params name).isAbsent := by
  unfold ofParams at h
  rw [Except.bind_eq_ok] at h
  obtain ⟨eventId, hid, h⟩ := h
  rw [Except.bind_eq_ok] at h
  obtain ⟨query, -, h⟩ := h
  split at h
  . cases h
  . injection h with h
    subst h
    rw [Field.text_eq_empty_iff hid, Command.isAbsent_param]

theorem Address.isSome_search {address : Address} {calendarId : String}
    {found : Option (String × Fields)}
    (h : address.search prefs now params calendarId = .ok found)
    : found.isSome = true ↔ address.eventId = "" := by
  unfold search at h
  split at h
  . next hid =>
    rw [Except.bind_eq_ok] at h
    obtain ⟨window, -, h⟩ := h
    rw [Except.bind_eq_ok] at h
    obtain ⟨args, -, h⟩ := h
    injection h with h
    simp [← h, hid]
  . next hid =>
    injection h with h
    simp [← h, hid]

namespace Kind

variable {kind : Kind}

theorem search_eq_none (hkind : kind.hasTarget = false)
    (h : kind.errand prefs now params = .ok errand) : errand.search = none := by
  cases kind with
  | update | delete => cases hkind
  | _ =>
    obtain ⟨_, -, rfl⟩ := Errand.eq_direct h
    rfl

theorem isSome_search (hkind : kind.hasTarget = true)
    (h : kind.errand prefs now params = .ok errand)
    : errand.search.isSome = ["eventId", "id"].all fun name => (Fields.get params name).isAbsent := by
  rw [Bool.eq_iff_iff]
  cases kind with
  | update =>
    obtain ⟨address, _, _, haddress, -, -, hsearch, -⟩ := Operation.updateErrand_eq_ok h
    rw [Address.isSome_search hsearch, Address.eventId_eq_empty_iff haddress]
  | delete =>
    obtain ⟨address, _, _, haddress, -, -, hsearch, -⟩ := Operation.deleteErrand_eq_ok h
    rw [Address.isSome_search hsearch, Address.eventId_eq_empty_iff haddress]
  | _ => cases hkind

end Kind

namespace Command

variable {c : Command}

theorem search_isSome (h : c.kind.errand prefs now c.params = .ok errand)
    : errand.search.isSome = c.seeks := by
  unfold seeks
  cases hkind : c.kind.hasTarget with
  | true => rw [Kind.isSome_search hkind h, Bool.true_and]
  | false =>
    rw [Kind.search_eq_none hkind h]
    rfl

theorem meets_agenda (prefs : Preferences) (now : Instant) (c : Command)
    : (c.plan prefs now).Meets
        (fun past operation _ => past.map Exchange.operation ++ [operation] <+: c.agenda)
        (fun past result => past.map Exchange.operation <+: c.agenda
          ∧ ∀ data, result = .ok data → past.map Exchange.operation = c.agenda) [] := by
  unfold plan
  split
  . simp
  . rw [Kind.plan_eq, Plan.meets_ofErrand]
    refine ⟨by simp, ?_⟩
    intro errand herrand
    -- Whether there is a search is settled before anything is asked, so it is part of the agenda.
    have hseeks := search_isSome herrand
    have hagenda : c.agenda
        = (if errand.search.isSome then ["search-events"] else []) ++ [c.kind.operation] := by
      rw [agenda, Catalog.operationsOf_standard, hseeks]
    cases hsearch : errand.search with
    | none =>
      rw [hsearch] at hagenda
      rw [Errand.meets_plan_of_none hsearch, Plan.meets_send, hagenda]
      simp
    | some search =>
      obtain ⟨query, args⟩ := search
      rw [hsearch] at hagenda
      rw [Errand.meets_plan_of_some hsearch, hagenda]
      simp [Plan.meets_send]

end Command

/--
Whatever the service does, what is called for a command is a first part of the command's agenda, and
all of it where the command succeeds. So no call is repeated and at most one of them changes anything;
and the service is connected to only while there is no connection, once before a call.
-/
theorem Backend.dispatch_keeps_agenda {σ : Type} (b : Backend σ) (prefs : Preferences)
    (now : Instant) (c : Command) (s : σ)
    : calls (b.dispatch prefs now c s).trace <+: c.agenda
      ∧ (∀ outcome, (b.dispatch prefs now c s).result = .ok outcome → outcome.isOk = true
          → calls (b.dispatch prefs now c s).trace = c.agenda)
      ∧ (calls (b.dispatch prefs now c s).trace).Nodup
      ∧ ((calls (b.dispatch prefs now c s).trace).filter isMutating).length ≤ 1
      ∧ b.Follows s (b.dispatch prefs now c s).trace (b.dispatch prefs now c s).state := by
  have hkeeps := (ends_run (b := b) (s := s) (Command.meets_agenda prefs now c)).keeps
  unfold dispatch
  dsimp only
  obtain ⟨hkept, hall⟩ := hkeeps
  refine ⟨hkept, ?_, ?_, ?_, follows_run b _ s⟩
  . intro outcome houtcome hok
    cases hresult : (b.run (c.plan prefs now) s).result with
    | ok data => exact hall data hresult
    | error fault =>
      rw [hresult, Outcome.ofResult] at houtcome
      split at houtcome
      . cases houtcome
      . injection houtcome with houtcome
        rw [← houtcome] at hok
        cases hok
  . exact c.nodup_agenda.sublist hkept.sublist
  . exact Nat.le_trans (hkept.sublist.filter isMutating).length_le c.mutating_agenda

end Datebook
