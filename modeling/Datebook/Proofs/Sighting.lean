import Datebook.Proofs.Answer

/-!
This module contains the verification of which event a search finds: the first one in the reply that
can be recognized, whatever else stands before and after it.
-/

namespace Datebook

/--
What an event is recognized by: its identifier, and its two times.
-/
structure Sighting where
  id : String
  start : String
  finish : String
  deriving DecidableEq, Repr

namespace Sighting

def ofRecord [Host] (record : Fields) : Option Sighting :=
  let get := Fields.get record
  match Field.nonemptyText? ((get "id").orElse (get "eventId")), EventTime.read (get "start"),
    EventTime.read (get "end") with
  | .ok (some id), .ok start, .ok finish => some ⟨id, start, finish⟩
  | _, _, _ => none

/--
The sighting in a block of a listing, if both of its times can be read and it has an identifier.
-/
def ofBlock (block : List Char) : Option Sighting :=
  let get := Listing.first (Listing.items block)
  match EventTime.read (.text (get .start)), EventTime.read (.text (get .finish)) with
  | .ok start, .ok finish => if get .id = "" then none else some ⟨get .id, start, finish⟩
  | _, _ => none

def ofListing (s : String) : List Sighting :=
  (Listing.blocks s.toList).filterMap ofBlock

def ofEvent (e : Event) : Option Sighting :=
  e.id.map fun id => ⟨id, e.start, e.finish⟩

end Sighting

def Reply.sightings [Host] : Reply → List Sighting
  | empty => []
  | prose text => Sighting.ofListing text
  | structured payload message =>
    match recordsOf payload ["events", "items"] with
    | some records => records.filterMap fun record => record.fields?.bind Sighting.ofRecord
    | none =>
      match message with
      | none => []
      | some message => Sighting.ofListing message

/--
What makes the record of an event read as the event again, as far as it is recognized.
-/
structure Event.IsStable (e : Event) : Prop where
  start : EventTime.read (.text e.start) = .ok e.start
  finish : EventTime.read (.text e.finish) = .ok e.finish
  id : ∀ id ∈ e.id, Text.IsTrimmed id ∧ id ≠ ""

namespace Event

variable [Host] {record : Fields} {e again : Event} {found : Option Event}

theorem parts_of_ofRecord (h : ofRecord record = .ok e)
    : Field.nonemptyText? ((Fields.get record "id").orElse (Fields.get record "eventId")) = .ok e.id
      ∧ EventTime.read (Fields.get record "start") = .ok e.start
      ∧ EventTime.read (Fields.get record "end") = .ok e.finish := by
  unfold ofRecord at h
  simp only [Except.bind_eq_ok] at h
  obtain ⟨id, hid, _, -, _, -, start, hstart, finish, hfinish, _, -, _, -, _, -, _, -, _, -, _, -, h⟩
    := h
  injection h with h
  rw [← h]
  exact ⟨hid, hstart, hfinish⟩

theorem isStable_of_ofRecord (h : ofRecord record = .ok e) : e.IsStable := by
  obtain ⟨hid, hstart, hfinish⟩ := parts_of_ofRecord h
  exact ⟨EventTime.read_again hstart, EventTime.read_again hfinish, Field.nonemptyText?_eq_ok hid⟩

theorem sighting_of_readable? (h : readable? (ofRecord record) = .ok found)
    : found.bind Sighting.ofEvent = Sighting.ofRecord record := by
  cases found with
  | some e =>
    rw [readable?_eq_ok_some] at h
    obtain ⟨hid, hstart, hfinish⟩ := parts_of_ofRecord h
    unfold Sighting.ofRecord
    dsimp only
    rw [hid, hstart, hfinish, Option.bind_some, Sighting.ofEvent]
    cases e.id with
    | none => rfl
    | some id => rfl
  | none =>
    rw [Option.bind_none]
    unfold Sighting.ofRecord
    dsimp only
    split
    . next id start finish hid hstart hfinish =>
      -- Then only a crash could have kept the event from being read, and that is passed on.
      have hcrash : FailsOnly Fault.IsCrash (ofRecord record) := by
        refine ofRecord_failsOnly_of (fun _ hcrash => hcrash) ?_ ?_
        . rw [hstart]
          exact FailsOnly.ok start
        . rw [hfinish]
          exact FailsOnly.ok finish
      unfold readable? at h
      split at h
      . cases h
      . next fault hdate => cases hcrash _ hdate
      . cases h
    . rfl

theorem isStable_of_readable? (h : readable? (ofRecord record) = .ok found)
    : ∀ e ∈ found, e.IsStable := by
  intro e he
  rw [Option.mem_def] at he
  rw [he, readable?_eq_ok_some] at h
  exact isStable_of_ofRecord h

theorem ofRecord_toRecord (h : e.IsStable)
    : ∃ again, ofRecord e.toRecord = .ok again ∧ again.id = e.id
        ∧ Sighting.ofEvent again = Sighting.ofEvent e := by
  have hid : (e.reread e.start e.finish).id = e.id := Field.heard_eq_self h.id
  refine ⟨_, ofRecord_toRecord_eq h.start h.finish, hid, ?_⟩
  rw [Sighting.ofEvent, Sighting.ofEvent, hid]
  rfl

end Event

namespace Listing

variable {block : List Char}

theorem eventOf_spec {found : Option Event} (h : eventOf block = .ok found)
    : (∀ e ∈ found, e.IsStable) ∧ found.bind Sighting.ofEvent = Sighting.ofBlock block := by
  have hempty : EventTime.read (.text "") = .error (.date .eventTime) := rfl
  unfold eventOf at h
  unfold Sighting.ofBlock
  dsimp only at h ⊢
  split at h
  . next hlacking =>
    injection h with h
    rw [← h]
    refine ⟨nofun, ?_⟩
    split
    . next start finish hstart hfinish =>
      obtain hid | hnone | hnone := hlacking
      . rw [if_pos hid]
        rfl
      . rw [hnone, hempty] at hstart
        cases hstart
      . rw [hnone, hempty] at hfinish
        cases hfinish
    . rfl
  . next hgiven =>
    split at h
    . cases h
    . next htimes =>
      injection h with h
      rw [← h]
      refine ⟨nofun, ?_⟩
      split
      . next start finish hstart hfinish =>
        rw [hstart, hfinish] at htimes
        cases htimes
      . rfl
    . next start finish htimes =>
      injection h with h
      rw [Event.readable?_eq_ok_some] at htimes
      simp only [Except.bind_eq_ok] at htimes
      obtain ⟨_, hstart, _, hfinish, htimes⟩ := htimes
      cases htimes
      rw [← h, hstart, hfinish]
      have hid : first (items block) .id ≠ "" := fun hid => hgiven (.inl hid)
      constructor
      . intro e he
        rw [Option.mem_some_iff] at he
        rw [← he]
        refine ⟨EventTime.read_again hstart, EventTime.read_again hfinish, ?_⟩
        intro id hsome
        rw [Option.mem_some_iff] at hsome
        rw [← hsome]
        exact ⟨isTrimmed_first block .id, hid⟩
      . dsimp only
        rw [if_neg hid]
        rfl

end Listing

/--
Whether events are what is sighted, in the same order, apart from those without an identifier.
-/
structure AreSighted (events : List Event) (sightings : List Sighting) : Prop where
  stable : ∀ e ∈ events, e.IsStable
  eq : events.filterMap Sighting.ofEvent = sightings

theorem AreSighted.nil : AreSighted [] [] :=
  ⟨nofun, rfl⟩

theorem AreSighted.append {found : Option Event} {sighted : Option Sighting} {events : List Event}
    {sightings : List Sighting} (hstable : ∀ e ∈ found, e.IsStable)
    (heq : found.bind Sighting.ofEvent = sighted) (hrest : AreSighted events sightings)
    : AreSighted (found.toList ++ events) (sighted.toList ++ sightings) := by
  constructor
  . intro e he
    rw [List.mem_append, Option.mem_toList] at he
    cases he with
    | inl he => exact hstable e he
    | inr he => exact hrest.stable e he
  . rw [List.filterMap_append, hrest.eq, ← heq]
    cases found with
    | none => rfl
    | some e => cases hsome : Sighting.ofEvent e <;> simp [hsome]

theorem List.filterMap_cons_eq_toList_append {α β : Type} (f : α → Option β) (a : α) (rest : List α)
    : (a :: rest).filterMap f = (f a).toList ++ rest.filterMap f := by
  cases h : f a <;> simp [h]

theorem Listing.areSighted_of_eventsOf {blocks : List (List Char)} {events : List Event}
    (h : eventsOf blocks = .ok events) : AreSighted events (blocks.filterMap Sighting.ofBlock) := by
  induction blocks generalizing events with
  | nil =>
    cases h
    exact .nil
  | cons block rest ih =>
    unfold eventsOf at h
    simp only [Except.bind_eq_ok] at h
    obtain ⟨found, hfound, others, hothers, h⟩ := h
    injection h with h
    obtain ⟨hstable, heq⟩ := eventOf_spec hfound
    rw [← h, List.filterMap_cons_eq_toList_append]
    exact (ih hothers).append hstable heq

namespace Reply

variable [Host] {reply : Reply} {events : List Event}

theorem areSighted_of_records {records : List Value} (h : eventsOfRecords records = .ok events)
    : AreSighted events (records.filterMap fun record => record.fields?.bind Sighting.ofRecord) := by
  induction records generalizing events with
  | nil =>
    cases h
    exact .nil
  | cons v rest ih =>
    cases v with
    | map record =>
      unfold eventsOfRecords at h
      simp only [Except.bind_eq_ok] at h
      obtain ⟨found, hfound, others, hothers, h⟩ := h
      injection h with h
      rw [← h, List.filterMap_cons_eq_toList_append]
      exact (ih hothers).append (Event.isStable_of_readable? hfound)
        (Event.sighting_of_readable? hfound)
    | _ => exact ih h

theorem areSighted (h : reply.events = .ok events) : AreSighted events reply.sightings := by
  unfold Reply.events at h
  unfold sightings
  cases reply with
  | empty =>
    cases h
    exact .nil
  | prose text => exact Listing.areSighted_of_eventsOf h
  | structured payload message =>
    dsimp only at h ⊢
    cases hrecords : recordsOf payload ["events", "items"] with
    | some records =>
      rw [hrecords] at h
      exact areSighted_of_records h
    | none =>
      rw [hrecords] at h
      cases message with
      | none =>
        cases h
        exact .nil
      | some message => exact Listing.areSighted_of_eventsOf h

end Reply

namespace Target

variable [Host] {raw : Value} {reply : Reply} {events : List Event} {query : String} {e : Event}

theorem firstNamed_sighting (h : ∀ e ∈ events, e.IsStable)
    : ∃ found, firstNamed events = .ok found
        ∧ found.bind Sighting.ofEvent = (events.filterMap Sighting.ofEvent).head?
        ∧ ∀ e ∈ found, e.id.getD "" ≠ "" := by
  induction events with
  | nil => exact ⟨none, rfl, rfl, nofun⟩
  | cons e rest ih =>
    rw [List.forall_mem_cons] at h
    obtain ⟨hstable, hrest⟩ := h
    unfold firstNamed
    cases hid : e.id with
    | none =>
      rw [List.filterMap_cons_none (by rw [Sighting.ofEvent, hid]; rfl)]
      exact ih hrest
    | some id =>
      -- The event is written as a record and read again before it is taken.
      have hne := (hstable.id id hid).2
      obtain ⟨again, hagain, hsame, hsighted⟩ := Event.ofRecord_toRecord hstable
      have hsome : Sighting.ofEvent e = some ⟨id, e.start, e.finish⟩ := by
        rw [Sighting.ofEvent, hid]
        rfl
      rw [Option.getD_some, if_neg (by simpa using hne), hagain, List.filterMap_cons_some hsome]
      refine ⟨some again, rfl, ?_, ?_⟩
      . rw [Option.bind_some, hsighted, hsome, List.head?_cons]
      . intro e' he'
        rw [Option.mem_some_iff] at he'
        rw [← he', hsame, hid]
        exact hne

end Target

end Datebook
