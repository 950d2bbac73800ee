import Datebook.Link.ToolResult
import Datebook.Proofs.Failure
import Datebook.Rehearsal.Host

/-!
This module contains the verification of the ways in which a reply can carry nothing but words: as a
text, as the `message` of a map, and as the text of a tool's answer. What a command makes of the words
is the same for all of them, except where an `error` that does not count as given stands beside them.
-/

namespace Datebook

namespace ToolResult

structure Tells (r : ToolResult) (t : String) : Prop where
  isError : r.isError = false
  structured : r.structured.isTruthy = false
  content : ∃ before after, r.content = before ++ ⟨some "text", some t⟩ :: after
    ∧ ∀ block ∈ before, block.kind ≠ some "text"

variable {r : ToolResult} {t : String}

theorem Tells.text (h : r.Tells t) : r.text = t := by
  obtain ⟨before, after, hcontent, hbefore⟩ := h.content
  have hnone : before.find? (fun block => block.kind = some "text") = none := by
    simpa [List.find?_eq_none] using hbefore
  unfold ToolResult.text
  rw [hcontent, List.find?_append, hnone]
  rfl

theorem Tells.decode (h : r.Tells t) (hink : Text.isBlankText t = false)
    (hwords : Json.strict? t.toList = none) (operation : String)
    : r.decode operation = .ok (.map [("message", .text t)]) := by
  unfold ToolResult.decode
  simp [h.isError, h.structured, h.text, hink, hwords]

end ToolResult

namespace Reply

variable {t words : String} {fields : Fields} {requested : Option Event} {targetId : Option String}

/--
Whether a map only wraps words: they are its `message`, and there is nothing else in it than a `success`
other than `false`, a `status`, and an `error` that does not count as given.
-/
structure Wraps (t : String) (fields : Fields) : Prop where
  message : Fields.get fields "message" = .text t
  success : Fields.get fields "success" ≠ .bool false
  error : (Fields.get fields "error").isTruthy = false
  names : ∀ field ∈ fields, field.1 ∈ ["message", "success", "status", "error"]

theorem wraps_message (t : String) : Wraps t [("message", .text t)] where
  message := rfl
  success := by rintro ⟨⟩
  error := rfl
  names := by simp

theorem Wraps.get_eq_null (h : Wraps t fields) {name : String}
    (hname : name ∉ ["message", "success", "status", "error"]) : Fields.get fields name = .null := by
  have hnone : fields.lookup name = none := by
    rw [List.lookup_eq_none_iff]
    intro field hfield
    rw [bne_iff_ne]
    rintro rfl
    exact hname (h.names field hfield)
  rw [Fields.get, hnone]
  rfl

theorem Wraps.has_eq_false (h : Wraps t fields) {name : String}
    (hname : name ∉ ["message", "success", "status", "error"]) : Fields.has fields name = false := by
  rw [Fields.has, List.any_eq_false]
  intro field hfield
  rw [beq_iff_eq]
  rintro rfl
  exact hname (h.names field hfield)

theorem Wraps.messageOf (h : Wraps t fields) (hink : Text.isBlankText t = false)
    : messageOf fields = some (Text.strip t) := by
  have hne : Text.strip t ≠ "" := by
    rw [Ne, Text.strip_eq_empty_iff]
    simpa [Text.isBlankText] using hink
  rw [Reply.messageOf, h.message]
  exact if_neg hne

theorem Wraps.reportsFailure (h : Wraps t fields) : reportsFailure fields = false := by
  rw [← Bool.not_eq_true, reportsFailure_iff, not_or, Bool.not_eq_true]
  exact ⟨h.success, h.error⟩

theorem Wraps.any_not_wrapper (h : Wraps t fields)
    : (fields.any fun field => !wrapperKeys.contains field.1) = Fields.has fields "error" := by
  have hiff : ∀ name ∈ ["message", "success", "status", "error"],
      (!wrapperKeys.contains name) = (name == "error") := by
    decide
  rw [Fields.has, Bool.eq_iff_iff, List.any_eq_true, List.any_eq_true]
  apply exists_congr
  intro field
  apply and_congr_right
  intro hfield
  rw [hiff field.1 (h.names field hfield)]

theorem Wraps.recordsOf (h : Wraps t fields) (name : String)
    (hname : name ∉ ["message", "success", "status", "error"] := by decide)
    : recordsOf (.map fields) [name, "items"] = none := by
  have hitems : "items" ∉ ["message", "success", "status", "error"] := by decide
  simp [Reply.recordsOf, h.get_eq_null hname, h.get_eq_null hitems, Value.items?]

/--
Whether a kind of command makes the same data of words when an `error` that does not count as given
stands beside them. No event is looked for in such words; a deletion does not fall back on an empty
identifier; and what is handed on as it is would be handed on with the `error`.
-/
def OverlooksError (kind : Kind) (requested : Option Event) (targetId : Option String)
    (words : String) : Prop :=
  match kind with
  | .create | .update =>
    ∃ events, Listing.events words = .ok events
      ∧ ∀ e ∈ events.head?, requested.map Event.toRecord = some e.toRecord
  | .list | .search | .listCalendars | .freeBusy => True
  | .delete => (targetId.filter (· ≠ "")).or (requested.bind (·.id)) ≠ some ""
  | .availability | .listColors | .currentTime => False

theorem Wraps.deletionData_eq_iff (h : Wraps t fields)
    : (structured (.map fields) (some words)).deletionData requested targetId
          = (prose words).deletionData requested targetId
        ↔ OverlooksError .delete requested targetId words := by
  have hdeleted : (structured (.map fields) (some words)).deletedId = .null := by
    rw [deletedId, h.get_eq_null (by decide : "eventId" ∉ _), h.get_eq_null (by decide : "id" ∉ _)]
    rfl
  unfold OverlooksError deletionData
  dsimp only
  rw [hdeleted]
  cases hknown : (targetId.filter (· ≠ "")).or (requested.bind (·.id)) with
  | none => simp [Value.ofText?, Reply.message?]
  | some id =>
    by_cases hempty : id = ""
    . simp [hempty, Value.ofText?, Reply.message?, Option.filter]
    . simp [hempty, Reply.message?, Option.filter]

theorem Wraps.plainData_ne (herror : Fields.has fields "error" = true)
    : (structured (.map fields) (some words)).plainData ≠ (prose words).plainData := by
  intro heq
  injection heq with heq
  rw [heq] at herror
  cases herror

section

variable [Host]

theorem ofValue_text (hink : Text.isBlankText t = false)
    : ofValue (.text t) = .ok (prose (Text.strip t)) := by
  simp [ofValue, ofText, hink]

theorem Wraps.ofValue (h : Wraps t fields) (hink : Text.isBlankText t = false)
    : ofValue (.map fields)
        = .ok (if Fields.has fields "error" then structured (.map fields) (some (Text.strip t))
            else prose (Text.strip t)) := by
  unfold Reply.ofValue
  simp only [h.reportsFailure, h.any_not_wrapper, h.messageOf hink]
  split
  . contradiction
  . split
    . rfl
    . rfl

theorem Wraps.event (h : Wraps t fields) (message : Option String)
    : (structured (.map fields) message).event = .ok none := by
  have hcandidate : candidate (.map fields) = .map fields := by
    rw [candidate, if_neg (by simp [h.has_eq_false])]
  have hrecord : Event.ofRecord fields = .error (.date .eventTime) := by
    unfold Event.ofRecord
    simp only [h.get_eq_null (by decide : "id" ∉ _), h.get_eq_null (by decide : "eventId" ∉ _),
      h.get_eq_null (by decide : "summary" ∉ _), h.get_eq_null (by decide : "title" ∉ _),
      h.get_eq_null (by decide : "description" ∉ _), h.get_eq_null (by decide : "start" ∉ _)]
    rfl
  rw [Reply.event, singleEvent, hcandidate]
  dsimp only
  rw [hrecord]
  rfl

theorem eventData_of_event {reply : Reply} {found : Option Event} (h : reply.event = .ok found)
    : reply.eventData requested
        = .ok (.map (((found.or requested).map fun e => ("event", Value.map e.toRecord)).toList
            ++ messageField reply.message?)) := by
  unfold eventData
  rw [h]
  cases hor : found.or requested with
  | none => simp [bind, Except.bind, hor]
  | some e => simp [bind, Except.bind, hor]

theorem Wraps.eventData_eq_iff (h : Wraps t fields) (targetId : Option String)
    : (structured (.map fields) (some words)).eventData requested = (prose words).eventData requested
        ↔ OverlooksError .create requested targetId words := by
  rw [eventData_of_event (h.event _)]
  unfold OverlooksError
  dsimp only
  cases hevents : Listing.events words with
  | error e =>
    have hprose : (prose words).eventData requested = .error e := by
      rw [eventData, Reply.event, hevents]
      rfl
    simp [hprose]
  | ok events =>
    have hfound : (prose words).event = .ok events.head? := by
      rw [Reply.event, hevents]
      rfl
    rw [eventData_of_event hfound]
    cases events with
    | nil => simp [Reply.message?]
    | cons e rest =>
      cases requested with
      | none => simp [Reply.message?]
      | some e' => simp [Reply.message?]

theorem Wraps.eventsData_eq (h : Wraps t fields)
    : (structured (.map fields) (some words)).eventsData = (prose words).eventsData := by
  have hevents : (structured (.map fields) (some words)).events = (prose words).events := by
    unfold Reply.events
    dsimp only
    rw [h.recordsOf "events"]
  unfold eventsData
  rw [hevents]
  rfl

theorem Wraps.calendarsData_eq (h : Wraps t fields)
    : (structured (.map fields) (some words)).calendarsData = (prose words).calendarsData := by
  have hcalendars : (structured (.map fields) (some words)).calendars = (prose words).calendars := by
    unfold Reply.calendars
    dsimp only
    rw [h.recordsOf "calendars"]
  unfold calendarsData
  rw [hcalendars]

theorem Wraps.freeBusyData_eq (h : Wraps t fields)
    : (structured (.map fields) (some words)).freeBusyData false
        = (prose words).freeBusyData false := by
  have hentries : calendarEntries fields = [] := by
    rw [calendarEntries, h.get_eq_null (by decide : "freebusy" ∉ _)]
    dsimp only
    rw [h.get_eq_null (by decide : "calendars" ∉ _)]
  unfold freeBusyData
  rw [Reply.freeBusy, hentries]
  rfl

theorem Wraps.data_eq_iff (h : Wraps t fields) (herror : Fields.has fields "error" = true)
    (kind : Kind)
    : (structured (.map fields) (some words)).data kind requested targetId
          = (prose words).data kind requested targetId
        ↔ OverlooksError kind requested targetId words := by
  cases kind with
  | create | update => exact h.eventData_eq_iff targetId
  | list | search => exact iff_of_true h.eventsData_eq trivial
  | delete =>
    rw [data, data, Except.ok.injEq]
    exact h.deletionData_eq_iff
  | listCalendars => exact iff_of_true h.calendarsData_eq trivial
  | freeBusy => exact iff_of_true h.freeBusyData_eq trivial
  | availability | listColors | currentTime =>
    rw [data, data, Except.ok.injEq]
    exact iff_of_false (Wraps.plainData_ne herror) id

theorem Wraps.normalize_eq_iff (h : Wraps t fields) (hink : Text.isBlankText t = false) (kind : Kind)
    (requested : Option Event) (targetId : Option String)
    : normalize kind (.map fields) requested targetId = normalize kind (.text t) requested targetId
        ↔ (Fields.has fields "error" = true
            → OverlooksError kind requested targetId (Text.strip t)) := by
  unfold normalize
  rw [h.ofValue hink, ofValue_text hink]
  by_cases herror : Fields.has fields "error" = true
  . rw [if_pos herror]
    exact (h.data_eq_iff herror kind).trans ⟨fun hsame _ => hsame, fun hsame => hsame herror⟩
  . rw [if_neg herror]
    exact iff_of_true rfl fun hfalse => absurd hfalse herror

/--
Words come to the same, bare or as the message of a map that only wraps them, unless an `error` that
does not count as given stands beside them and the kind of command does not overlook it. They also come
to the same as the text of a tool's answer, provided that they are not in the interchange format.
-/
theorem normalize_wrapped (kind : Kind) (requested : Option Event) (targetId : Option String)
    (hink : Text.isBlankText t = false)
    : (∀ fields, Wraps t fields →
        (normalize kind (.map fields) requested targetId
              = normalize kind (.text t) requested targetId
          ↔ (Fields.has fields "error" = true
              → OverlooksError kind requested targetId (Text.strip t))))
      ∧ ∀ (r : ToolResult) (operation : String), r.Tells t → Json.strict? t.toList = none →
        ∃ v, r.decode operation = .ok v
          ∧ normalize kind v requested targetId = normalize kind (.text t) requested targetId := by
  constructor
  . intro fields h
    exact h.normalize_eq_iff hink kind requested targetId
  . intro r operation htells hwords
    refine ⟨_, htells.decode hink hwords operation, ?_⟩
    rw [(wraps_message t).normalize_eq_iff hink]
    rintro ⟨⟩

end

def tidings : String :=
  "1. Event: Standup\nEvent ID: e1\nStart: 2025-08-20T10:00:00Z\nEnd: 2025-08-20T10:15:00Z"

def announced : Event :=
  { title := "Standup"
    start := "2025-08-20T10:00:00.000Z"
    finish := "2025-08-20T10:15:00.000Z"
    id := some "e1" }

def flagged (t : String) : Fields :=
  [("status", .text "ok"), ("message", .text t), ("success", .bool true), ("error", .null)]

theorem wraps_flagged (t : String) : Wraps t (flagged t) where
  message := rfl
  success := by rintro ⟨⟩
  error := rfl
  names := by simp [flagged]

open scoped Rehearsal

theorem normalize_wrapped_tidings
    : normalize .list (.map (flagged tidings)) none none = normalize .list (.text tidings) none none
      ∧ normalize .currentTime (.map (flagged tidings)) none none
          ≠ normalize .currentTime (.text tidings) none none
      ∧ ∃ v, ToolResult.decode "create-event" { content := [⟨some "text", some tidings⟩] } = .ok v
          ∧ normalize .create v none none = normalize .create (.text tidings) none none := by
  have hink : Text.isBlankText tidings = false := by decide
  refine ⟨?_, ?_, ?_⟩
  . exact ((normalize_wrapped .list none none hink).1 _ (wraps_flagged tidings)).mpr fun _ => trivial
  . exact fun heq =>
      ((normalize_wrapped .currentTime none none hink).1 _ (wraps_flagged tidings)).mp heq rfl
  . apply (normalize_wrapped .create none none hink).2
    . exact ⟨rfl, rfl, [], [], rfl, by simp⟩
    . exact Option.isNone_iff_eq_none.mp (by decide +kernel)

/--
So a service that says that there is no error, beside the words for the event that it created, is not
understood.
-/
theorem not_forall_normalize_wrapped
    : ¬ ∀ (kind : Kind) (requested : Option Event) (targetId : Option String) (t : String)
        (fields : Fields), Text.isBlankText t = false → Wraps t fields
          → normalize kind (.map fields) requested targetId
              = normalize kind (.text t) requested targetId := by
  intro hall
  have hink : Text.isBlankText tidings = false := by decide
  have hevents : Listing.events (Text.strip tidings) = .ok [announced] := by decide +kernel
  have hsame := hall .create none none tidings _ hink (wraps_flagged tidings)
  rw [(wraps_flagged tidings).normalize_eq_iff hink] at hsame
  obtain ⟨events, hread, hnone⟩ := hsame rfl
  rw [hevents] at hread
  injection hread with hread
  cases hnone announced (hread ▸ rfl)

end Reply

end Datebook
