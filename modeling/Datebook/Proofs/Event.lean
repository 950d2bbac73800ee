import Datebook.Event.Listing
import Datebook.Proofs.Field
import Datebook.Proofs.Time.LongDate

/-!
This module contains the verification of the reading of events: what an event that was read is like,
and which records and listings break the reading off.
-/

namespace Datebook

namespace Event

section

variable {α : Type} {x : Except Fault α}

theorem readable?_eq_ok_some {a : α} : readable? x = .ok (some a) ↔ x = .ok a := by
  unfold readable?
  split
  . simp
  . simp
  . simp

theorem readable?_failsOnly (h : FailsOnly (fun e => e.IsDate ∨ e.IsCrash) x)
    : FailsOnly Fault.IsCrash (readable? x) := by
  unfold readable?
  split
  . simp
  . simp
  . next e hdate =>
    rw [FailsOnly.error] at h ⊢
    cases e with
    | date fault => exact absurd rfl (hdate fault)
    | _ => simpa [Fault.IsDate] using h

theorem readable?_crashes : Crashes (readable? x) ↔ Crashes x := by
  unfold readable?
  split
  . simp
  . simp [Fault.IsCrash]
  . rw [Crashes.error, Crashes.error]

end

structure IsDated (e : Event) : Prop where
  start : ∃ t, Timestamp.Denotes (.text e.start) t
  finish : ∃ t, Timestamp.Denotes (.text e.finish) t

/--
What holds of every event, wherever it comes from.
-/
structure IsCanonical (e : Event) : Prop extends e.IsDated where
  title : e.title ≠ ""
  id : ∀ id ∈ e.id, Text.IsTrimmed id ∧ id ≠ ""
  attendees : ∀ a ∈ e.attendees, Text.IsTrimmed a ∧ a ≠ ""

theorem getD_untitled_ne_empty {title : Option String} (h : ∀ s ∈ title, s ≠ "")
    : title.getD untitled ≠ "" := by
  cases title with
  | none => decide
  | some s => exact h s rfl

variable [Host]

theorem attendeeTexts_eq_ok {v : Value} {attendees : List String}
    (h : attendeeTexts v = .ok attendees) : ∀ a ∈ attendees, Text.IsTrimmed a ∧ a ≠ "" := by
  unfold attendeeTexts at h
  split at h
  . rw [Except.bind_eq_ok] at h
    obtain ⟨texts, htexts, h⟩ := h
    cases h
    intro a ha
    rw [Field.mem_distinctTexts] at ha
    cases ha with
    | inl ha => cases ha
    | inr ha =>
      obtain ⟨w, -, hw⟩ := Except.exists_of_mem_mapM htexts ha.1
      exact ⟨Field.isTrimmed_of_attendeeText hw, ha.2⟩
  . cases h
    nofun

def isUnshownAttendee : Value → Bool
  | .map fields => !(Fields.get fields "email").isShowable
  | v => !v.isShowable

theorem attendeeText_failsOnly (v : Value) : FailsOnly Fault.IsCrash (attendeeText v) := by
  unfold attendeeText
  split
  . apply Field.text_failsOnly
  . apply Field.text_failsOnly

theorem attendeeText_crashes {v : Value} : Crashes (attendeeText v) ↔ isUnshownAttendee v = true := by
  unfold attendeeText isUnshownAttendee
  cases v with
  | map fields => simp [Field.text_crashes]
  | _ => simp [Field.text_crashes]

def hasUnshownAttendee : Value → Bool
  | .list items => items.any isUnshownAttendee
  | _ => false

theorem attendeeTexts_failsOnly (v : Value) : FailsOnly Fault.IsCrash (attendeeTexts v) := by
  unfold attendeeTexts
  split
  . apply FailsOnly.bind (FailsOnly.mapM fun v _ => attendeeText_failsOnly v)
    simp
  . simp

theorem attendeeTexts_crashes {v : Value}
    : Crashes (attendeeTexts v) ↔ hasUnshownAttendee v = true := by
  unfold attendeeTexts hasUnshownAttendee
  cases v with
  | list items =>
    dsimp only
    rw [Crashes.bind, Crashes.mapM fun v _ => attendeeText_failsOnly v]
    simp [attendeeText_crashes]
  | _ => simp

variable {record : Fields} {e : Event}

theorem ofRecord_failsOnly_of {P : Fault → Prop} (hcrash : ∀ e : Fault, e.IsCrash → P e)
    (hstart : FailsOnly P (EventTime.read (Fields.get record "start")))
    (hfinish : FailsOnly P (EventTime.read (Fields.get record "end")))
    : FailsOnly P (ofRecord record) := by
  have htext (v : Value) : FailsOnly P (Field.nonemptyText? v) :=
    (Field.nonemptyText?_failsOnly v).mono hcrash
  have hplain (v : Value) : FailsOnly P (Field.text v) :=
    (Field.text_failsOnly v).mono hcrash
  unfold ofRecord
  refine .bind (htext _) fun id _ => ?_
  refine .bind (htext _) fun title _ => ?_
  refine .bind (hplain _) fun description _ => ?_
  refine .bind hstart fun start _ => ?_
  refine .bind hfinish fun finish _ => ?_
  refine .bind (hplain _) fun location _ => ?_
  refine .bind ((attendeeTexts_failsOnly _).mono hcrash) fun attendees _ => ?_
  refine .bind (htext _) fun colorId _ => ?_
  refine .bind (htext _) fun status _ => ?_
  refine .bind (htext _) fun link _ => ?_
  refine .bind (htext _) fun calendarId _ => ?_
  simp

theorem ofRecord_failsOnly (record : Fields)
    : FailsOnly (fun e => e.IsDate ∨ e.IsCrash) (ofRecord record) :=
  ofRecord_failsOnly_of (fun _ => Or.inr) (EventTime.read_failsOnly _) (EventTime.read_failsOnly _)

theorem ofRecord_eq_ok (h : ofRecord record = .ok e)
    : e.IsCanonical := by
  unfold ofRecord at h
  simp only [Except.bind_eq_ok] at h
  obtain ⟨id, hid, title, htitle, _, -, start, hstart, finish, hfinish, _, -, attendees, hattendees,
    _, -, _, -, _, -, _, -, h⟩ := h
  injection h with h
  subst h
  exact
    { start := EventTime.denotes_of_read hstart
      finish := EventTime.denotes_of_read hfinish
      title := getD_untitled_ne_empty fun s hs => (Field.nonemptyText?_eq_ok htitle s hs).2
      id := Field.nonemptyText?_eq_ok hid
      attendees := attendeeTexts_eq_ok hattendees }

def hasUnshownDetail (record : Fields) : Bool :=
  !(Fields.get record "location").isShowable || hasUnshownAttendee (Fields.get record "attendees")
    || ["colorId", "status", "htmlLink", "calendarId"].any fun name =>
      !(Fields.get record name).isShowable

/--
Whether reading the times of a record breaks off, or what comes after them does, where it is reached:
an unreadable time ends the reading.
-/
def breaksFromTimes (record : Fields) (later : Bool) : Bool :=
  let start := Fields.get record "start"
  let finish := Fields.get record "end"
  EventTime.isFarOff start || (EventTime.read start).isOk
    && (EventTime.isFarOff finish || (EventTime.read finish).isOk && later)

/--
Whether reading an event from a record breaks off: something that is read cannot be shown, or a time
is far off.
-/
def breaks (record : Fields) : Bool :=
  let get := Fields.get record
  !((get "id").orElse (get "eventId")).isShowable || !((get "summary").orElse (get "title")).isShowable
    || !(get "description").isShowable || breaksFromTimes record (hasUnshownDetail record)

theorem ofRecord_crashes : Crashes (ofRecord record) ↔ breaks record = true := by
  unfold ofRecord
  dsimp only
  -- The two times are the only readings that fail otherwise, so what follows them needs them to be
  -- readable; all other readings either give something or break off.
  rw [Crashes.bind_sure (Field.nonemptyText?_failsOnly _) fun _ =>
    Crashes.bind_sure (Field.nonemptyText?_failsOnly _) fun _ =>
    Crashes.bind_sure (Field.text_failsOnly _) fun _ => Crashes.bind_const fun _ =>
    Crashes.bind_const fun _ => Crashes.bind_sure (Field.text_failsOnly _) fun _ =>
    Crashes.bind_sure (attendeeTexts_failsOnly _) fun _ =>
    Crashes.bind_sure (Field.nonemptyText?_failsOnly _) fun _ =>
    Crashes.bind_sure (Field.nonemptyText?_failsOnly _) fun _ =>
    Crashes.bind_sure (Field.nonemptyText?_failsOnly _) fun _ =>
    Crashes.bind_sure (Field.nonemptyText?_failsOnly _) fun _ => iff_false_intro (Crashes.ok _)]
  unfold breaks breaksFromTimes hasUnshownDetail
  simp [Field.text_crashes, Field.nonemptyText?_crashes, EventTime.read_crashes,
    attendeeTexts_crashes, or_assoc]

end Event

namespace Listing

variable {block : List Char}

/--
Whether reading an event from a block breaks off: it has what an event needs, and a time is far off.
-/
def breaks (block : List Char) : Bool :=
  let get := first (items block)
  let start := Value.text (get .start)
  if get .id = "" ∨ get .start = "" ∨ get .finish = "" then false
  else
    EventTime.isFarOff start
      || (EventTime.read start).isOk && EventTime.isFarOff (.text (get .finish))

theorem eventOf_failsOnly (block : List Char) : FailsOnly Fault.IsCrash (eventOf block) := by
  unfold eventOf
  dsimp only
  split
  . simp
  . split
    . next e he =>
      rw [FailsOnly.error]
      refine Event.readable?_failsOnly ?_ e he
      apply FailsOnly.bind (EventTime.read_failsOnly _)
      intro start _
      apply FailsOnly.bind (EventTime.read_failsOnly _)
      simp
    . simp
    . simp

theorem exists_of_itemOf {isFirst : Bool} {line : List Char} {item : Item} {value : String}
    (h : itemOf isFirst line = some (item, value))
    : ∃ before rest, line = before ++ rest ∧ value = String.ofList (Text.trim rest) := by
  have htitled (h : (if isFirst then some (Item.title, String.ofList (Text.trim line)) else none)
      = some (item, value))
      : ∃ before rest, line = before ++ rest ∧ value = String.ofList (Text.trim rest) := by
    split at h
    . cases h
      exact ⟨[], line, rfl, rfl⟩
    . cases h
  unfold itemOf at h
  dsimp only at h
  split at h
  . exact htitled h
  . next l hl =>
    split at h
    . exact htitled h
    . cases h
      unfold labelled? at hl
      dsimp only at hl
      split at hl
      . cases hl
      . next colon rest heq =>
        split at hl
        . cases hl
          refine ⟨line.takeWhile (· ≠ ':') ++ [colon], rest, ?_, rfl⟩
          rw [List.append_assoc, List.singleton_append, ← heq, List.takeWhile_append_dropWhile]
        . cases hl

theorem exists_of_mem_items {item : Item} {value : String} (h : (item, value) ∈ items block)
    : ∃ before rest, before ++ rest ∈ Text.lines block
        ∧ value = String.ofList (Text.trim rest) := by
  have hlines (line : List Char) (h : line ∈ (Text.lines block).filter fun line => !line.all Text.isBlank)
      : line ∈ Text.lines block :=
    (List.mem_filter.mp h).1
  unfold items at h
  generalize (Text.lines block).filter _ = lines at h hlines
  cases lines with
  | nil => cases h
  | cons first rest =>
    rw [itemsOf, List.mem_append, Option.mem_toList, List.mem_filterMap] at h
    cases h with
    | inl h =>
      obtain ⟨before, rest', rfl, hvalue⟩ := exists_of_itemOf h
      exact ⟨before, rest', hlines _ List.mem_cons_self, hvalue⟩
    | inr h =>
      obtain ⟨line, hline, h⟩ := h
      obtain ⟨before, rest', rfl, hvalue⟩ := exists_of_itemOf h
      exact ⟨before, rest', hlines _ (List.mem_cons_of_mem first hline), hvalue⟩

theorem mem_items_of_first {item : Item} (h : first (items block) item ≠ "")
    : (item, first (items block) item) ∈ items block := by
  unfold first at h ⊢
  cases hlookup : (items block).lookup item with
  | none =>
    rw [hlookup] at h
    exact absurd rfl h
  | some value =>
    rw [List.lookup_eq_some_iff] at hlookup
    obtain ⟨before, after, heq, -⟩ := hlookup
    rw [heq]
    simp

theorem isTrimmed_first (block : List Char) (item : Item)
    : Text.IsTrimmed (first (items block) item) := by
  by_cases hempty : first (items block) item = ""
  . rw [hempty]
    rfl
  . obtain ⟨before, rest, -, hvalue⟩ := exists_of_mem_items (mem_items_of_first hempty)
    rw [hvalue]
    exact Text.isTrimmed_trim rest

theorem nonempty?_ne_empty {s t : String} (h : t ∈ nonempty? s) : t ≠ "" := by
  unfold nonempty? at h
  split at h
  . cases h
  . next hne =>
    cases h
    exact hne

theorem mem_commaList {s a : String} (h : a ∈ commaList s) : Text.IsTrimmed a ∧ a ≠ "" := by
  unfold commaList at h
  rw [List.mem_filter, List.mem_map, decide_eq_true_eq] at h
  obtain ⟨⟨part, -, ha⟩, hne⟩ := h
  rw [← ha] at hne ⊢
  exact ⟨Text.isTrimmed_trim part, hne⟩

theorem eventOf_eq_ok_some {e : Event} (h : eventOf block = .ok (some e))
    : first (items block) .id ≠ ""
      ∧ EventTime.read (.text (first (items block) .start)) = .ok e.start
      ∧ EventTime.read (.text (first (items block) .finish)) = .ok e.finish
      ∧ e =
        { title := (nonempty? (first (items block) .title)).getD Event.untitled
          start := e.start
          finish := e.finish
          id := some (first (items block) .id)
          description := first (items block) .description
          location := first (items block) .location
          attendees := commaList (first (items block) .attendees)
          colorId := nonempty? (first (items block) .colorId)
          status := nonempty? (first (items block) .status)
          link := nonempty? (first (items block) .link) } := by
  unfold eventOf at h
  dsimp only at h
  split at h
  . cases h
  . next hgiven =>
    rw [not_or] at hgiven
    split at h
    . cases h
    . cases h
    . next start finish htimes =>
      rw [Event.readable?_eq_ok_some] at htimes
      simp only [Except.bind_eq_ok] at htimes
      obtain ⟨_, hstart, _, hfinish, htimes⟩ := htimes
      cases htimes
      cases h
      exact ⟨hgiven.1, hstart, hfinish, rfl⟩

theorem isCanonical_of_eventOf {e : Event} (h : eventOf block = .ok (some e)) : e.IsCanonical := by
  obtain ⟨hid, hstart, hfinish, heq⟩ := eventOf_eq_ok_some h
  have hdated : e.IsDated := ⟨EventTime.denotes_of_read hstart, EventTime.denotes_of_read hfinish⟩
  rw [heq] at hdated ⊢
  refine
    { hdated with
      title := Event.getD_untitled_ne_empty fun _ => nonempty?_ne_empty
      id := ?_
      attendees := fun _ => mem_commaList }
  intro id hsome
  rw [Option.mem_some_iff] at hsome
  rw [← hsome]
  exact ⟨isTrimmed_first block .id, hid⟩

theorem eventOf_crashes : Crashes (eventOf block) ↔ breaks block = true := by
  have htimes (start finish : Value) : Crashes (Event.readable? (do
      let start ← EventTime.read start
      let finish ← EventTime.read finish
      Except.ok (start, finish)))
      ↔ EventTime.isFarOff start = true
        ∨ ((EventTime.read start).isOk = true ∧ EventTime.isFarOff finish = true) := by
    rw [Event.readable?_crashes, Crashes.bind_const fun _ => Crashes.bind_const fun _ =>
      iff_false_intro (Crashes.ok _)]
    simp [EventTime.read_crashes]
  unfold eventOf breaks
  dsimp only
  split
  . simp
  . rw [Bool.or_eq_true, Bool.and_eq_true, ← htimes]
    split
    . next e he => rw [he, Crashes.error, Crashes.error]
    . next hnone => simp [hnone]
    . next hsome => simp [hsome]

theorem eventsOf_failsOnly (blocks : List (List Char))
    : FailsOnly Fault.IsCrash (eventsOf blocks) := by
  induction blocks with
  | nil => simp [eventsOf]
  | cons block rest ih =>
    unfold eventsOf
    apply FailsOnly.bind (eventOf_failsOnly block)
    intro event _
    apply FailsOnly.bind ih
    simp

theorem exists_block_of_eventsOf {blocks : List (List Char)} {events : List Event}
    (h : eventsOf blocks = .ok events) {e : Event} (he : e ∈ events)
    : ∃ block ∈ blocks, eventOf block = .ok (some e) := by
  induction blocks generalizing events with
  | nil =>
    cases h
    cases he
  | cons block rest ih =>
    unfold eventsOf at h
    simp only [Except.bind_eq_ok] at h
    obtain ⟨found, hfound, others, hothers, h⟩ := h
    cases h
    rw [List.mem_append, Option.mem_toList] at he
    cases he with
    | inl he => exact ⟨block, List.mem_cons_self, he ▸ hfound⟩
    | inr he =>
      obtain ⟨other, hother, hread⟩ := ih hothers he
      exact ⟨other, List.mem_cons_of_mem block hother, hread⟩

theorem eventsOf_eq_ok {blocks : List (List Char)} {events : List Event}
    (h : eventsOf blocks = .ok events) : ∀ e ∈ events, e.IsCanonical := by
  intro e he
  obtain ⟨block, -, hread⟩ := exists_block_of_eventsOf h he
  exact isCanonical_of_eventOf hread

theorem eventsOf_crashes {blocks : List (List Char)}
    : Crashes (eventsOf blocks) ↔ blocks.any breaks = true := by
  induction blocks with
  | nil => simp [eventsOf]
  | cons block rest ih =>
    unfold eventsOf
    rw [Crashes.bind_sure (eventOf_failsOnly block) fun _ =>
      Crashes.bind_sure (eventsOf_failsOnly rest) fun _ => iff_false_intro (Crashes.ok _)]
    simp [eventOf_crashes, ih]

end Listing

end Datebook
