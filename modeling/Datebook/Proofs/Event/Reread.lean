import Datebook.Operation.Target
import Datebook.Proofs.Event
import Datebook.Rehearsal.Host

/-!
This module contains the verification of events that are read from their own records: what becomes of
each part of an event on the way, and that an event which came from a record comes back as it is.
-/

namespace Datebook

def Fields.optional (name : String) (v : Option Value) : Fields :=
  (v.map fun v => (name, v)).toList

theorem Fields.lookup_optional (name other : String) (v : Option Value)
    : (optional other v).lookup name = if name = other then v else none := by
  unfold optional
  cases v with
  | none => simp
  | some v =>
    by_cases hname : name = other
    . simp [hname]
    . simp [hname, List.lookup_cons, beq_false_of_ne hname]

/--
A text that may be missing, as it is read: without the blanks around it, and missing if it is blank.
-/
def Field.heard (s : Option String) : Option String :=
  s.bind fun s => Listing.nonempty? (Text.strip s)

namespace Field

variable {texts collected : List String} {s : Option String}

theorem heard_filter (s : Option String) : heard (s.filter (· ≠ "")) = heard s := by
  cases s with
  | none => rfl
  | some s =>
    by_cases hs : s = ""
    . rw [hs]
      rfl
    . rw [Option.filter_some, if_pos (by simpa using hs)]

theorem heard_eq_self (h : ∀ t ∈ s, Text.IsTrimmed t ∧ t ≠ "") : heard s = s := by
  cases s with
  | none => rfl
  | some t =>
    obtain ⟨htrimmed, hne⟩ := h t rfl
    unfold heard Listing.nonempty?
    rw [Option.bind_some, htrimmed, if_neg hne]

theorem distinctTexts_eq_append (hne : "" ∉ texts) (hnodup : (collected ++ texts).Nodup)
    : distinctTexts collected texts = collected ++ texts := by
  induction texts generalizing collected with
  | nil => rw [distinctTexts, List.append_nil]
  | cons t texts ih =>
    rw [List.mem_cons, not_or] at hne
    have hnew : t ∉ collected := by
      intro hmem
      rw [List.nodup_append] at hnodup
      exact hnodup.2.2 t hmem t List.mem_cons_self rfl
    rw [List.append_cons] at hnodup ⊢
    rw [distinctTexts, if_neg (by simp [Ne.symm hne.1, hnew]), ih hne.2 hnodup]

variable [Host]

theorem nonemptyText?_ofText? (s : Option String)
    : nonemptyText? (.ofText? s) = .ok (heard s) := by
  cases s with
  | none => rfl
  | some s => rfl

theorem nonemptyText?_ofText?_orElse (s : Option String)
    : nonemptyText? ((Value.ofText? s).orElse .null) = .ok (heard s) := by
  cases s with
  | none => rfl
  | some s =>
    unfold Value.orElse
    split
    . rfl
    . next hempty =>
      have hs : s = "" := by simpa [Value.ofText?, Value.isTruthy] using hempty
      rw [hs]
      rfl

end Field

namespace Event

variable {record : Fields} {e : Event} {start finish : String}

theorem optionalField_eq (name : String) (s : Option String)
    : optionalField name s = Fields.optional name (s.map .text) := by
  cases s with
  | none => rfl
  | some s => rfl

theorem getD_map_text (s : Option String) : (s.map Value.text).getD .null = .ofText? s := by
  cases s with
  | none => rfl
  | some s => rfl

theorem get_toRecord (e : Event)
    : Fields.get e.toRecord "id" = .ofText? e.id
      ∧ Fields.get e.toRecord "eventId" = .null
      ∧ Fields.get e.toRecord "summary" = .null
      ∧ Fields.get e.toRecord "title" = .text e.title
      ∧ Fields.get e.toRecord "description" = .text e.description
      ∧ Fields.get e.toRecord "start" = .text e.start
      ∧ Fields.get e.toRecord "end" = .text e.finish
      ∧ Fields.get e.toRecord "location" = .text e.location
      ∧ Fields.get e.toRecord "attendees" = .list (e.attendees.map .text)
      ∧ Fields.get e.toRecord "colorId" = .ofText? e.colorId
      ∧ Fields.get e.toRecord "status" = .ofText? e.status
      ∧ Fields.get e.toRecord "htmlLink" = .ofText? (e.link.filter (· ≠ ""))
      ∧ Fields.get e.toRecord "calendarId" = .ofText? e.calendarId := by
  unfold Fields.get toRecord
  simp [optionalField_eq, List.lookup_append, Fields.lookup_optional, List.lookup_cons,
    getD_map_text]

/--
An event as it reads from its own record, where its times read as `start` and `finish`.
-/
def reread (start finish : String) (e : Event) : Event :=
  { title := (Listing.nonempty? (Text.strip e.title)).getD untitled
    start
    finish
    id := Field.heard e.id
    description := Text.strip e.description
    location := Text.strip e.location
    attendees := Field.distinctTexts [] (e.attendees.map Text.strip)
    colorId := Field.heard e.colorId
    status := Field.heard e.status
    link := Field.heard e.link
    calendarId := Field.heard e.calendarId }

/--
Whether each part of an event is such as a record gives it: the times are canonical, the texts are
trimmed, those that may be missing are not empty, and no attendee is named twice.
-/
structure IsSettled (e : Event) : Prop where
  title : Text.IsTrimmed e.title ∧ e.title ≠ ""
  start : EventTime.read (.text e.start) = .ok e.start
  finish : EventTime.read (.text e.finish) = .ok e.finish
  description : Text.IsTrimmed e.description
  location : Text.IsTrimmed e.location
  attendees : ∀ a ∈ e.attendees, Text.IsTrimmed a ∧ a ≠ ""
  distinct : e.attendees.Nodup
  optional : ∀ part ∈ [e.id, e.colorId, e.status, e.link, e.calendarId],
    ∀ s ∈ part, Text.IsTrimmed s ∧ s ≠ ""

theorem IsSettled.reread_eq (h : e.IsSettled) : e.reread e.start e.finish = e := by
  have hgiven : "" ∉ e.attendees := fun hmem => (h.attendees "" hmem).2 rfl
  have hattendees : Field.distinctTexts [] (e.attendees.map Text.strip) = e.attendees := by
    rw [List.map_congr_left fun a ha => (h.attendees a ha).1, List.map_id',
      Field.distinctTexts_eq_append hgiven (by simpa using h.distinct), List.nil_append]
  have htitle : Listing.nonempty? (Text.strip e.title) = some e.title := by
    rw [h.title.1, Listing.nonempty?, if_neg h.title.2]
  have hoptional := h.optional
  simp only [List.forall_mem_cons] at hoptional
  obtain ⟨hid, hcolorId, hstatus, hlink, hcalendarId, -⟩ := hoptional
  unfold reread
  rw [htitle, h.description, h.location, hattendees, Field.heard_eq_self hid, Field.heard_eq_self hcolorId, Field.heard_eq_self hstatus,
    Field.heard_eq_self hlink, Field.heard_eq_self hcalendarId, Option.getD_some]

section

variable [Host]

theorem attendeeTexts_texts (attendees : List String)
    : attendeeTexts (.list (attendees.map .text))
        = .ok (Field.distinctTexts [] (attendees.map Text.strip)) := by
  have hmap : (attendees.map Value.text).mapM attendeeText = .ok (attendees.map Text.strip) := by
    induction attendees with
    | nil => rfl
    | cons a attendees ih =>
      rw [List.map_cons, List.mapM_cons, ih]
      rfl
  unfold attendeeTexts
  dsimp only
  rw [hmap]
  rfl

theorem ofRecord_toRecord_eq (hstart : EventTime.read (.text e.start) = .ok start)
    (hfinish : EventTime.read (.text e.finish) = .ok finish)
    : ofRecord e.toRecord = .ok (e.reread start finish) := by
  obtain ⟨hid, heventId, hsummary, htitle, hdescription, hstarts, hfinishes, hlocation, hattendees,
    hcolorId, hstatus, hlink, hcalendarId⟩ := get_toRecord e
  have htext : Field.nonemptyText? (Value.null.orElse (.text e.title))
      = .ok (Listing.nonempty? (Text.strip e.title)) := rfl
  unfold ofRecord
  dsimp only
  rw [hid, heventId, hsummary, htitle, hdescription, hstarts, hfinishes, hlocation, hattendees,
    hcolorId, hstatus, hlink, hcalendarId, Field.nonemptyText?_ofText?_orElse, htext, hstart, hfinish,
    attendeeTexts_texts, Field.nonemptyText?_ofText?, Field.nonemptyText?_ofText?,
    Field.nonemptyText?_ofText?, Field.nonemptyText?_ofText?, Field.heard_filter]
  rfl

theorem nodup_of_attendeeTexts {v : Value} {attendees : List String}
    (h : attendeeTexts v = .ok attendees) : attendees.Nodup := by
  unfold attendeeTexts at h
  split at h
  . rw [Except.bind_eq_ok] at h
    obtain ⟨texts, -, h⟩ := h
    cases h
    exact (Field.distinctTexts_spec texts List.nodup_nil (by simp)).1
  . cases h
    exact List.nodup_nil

theorem isSettled_of_ofRecord (h : ofRecord record = .ok e) : e.IsSettled := by
  unfold ofRecord at h
  simp only [Except.bind_eq_ok] at h
  obtain ⟨id, hid, title, htitle, description, hdescription, start, hstart, finish, hfinish, location,
    hlocation, attendees, hattendees, colorId, hcolorId, status, hstatus, link, hlink, calendarId,
    hcalendarId, h⟩ := h
  cases h
  refine
    { title := ?_
      start := EventTime.read_again hstart
      finish := EventTime.read_again hfinish
      description := Field.isTrimmed_of_text hdescription
      location := Field.isTrimmed_of_text hlocation
      attendees := attendeeTexts_eq_ok hattendees
      distinct := nodup_of_attendeeTexts hattendees
      optional := ?_ }
  . have huntitled : Text.IsTrimmed untitled ∧ untitled ≠ "" := ⟨rfl, by decide⟩
    cases title with
    | none => exact huntitled
    | some s => exact Field.nonemptyText?_eq_ok htitle s rfl
  . simp only [List.forall_mem_cons]
    exact ⟨Field.nonemptyText?_eq_ok hid, Field.nonemptyText?_eq_ok hcolorId,
      Field.nonemptyText?_eq_ok hstatus, Field.nonemptyText?_eq_ok hlink,
      Field.nonemptyText?_eq_ok hcalendarId, nofun⟩

theorem IsSettled.ofRecord_eq (h : e.IsSettled) : ofRecord e.toRecord = .ok e := by
  rw [ofRecord_toRecord_eq h.start h.finish, h.reread_eq]

theorem firstNamed_append {nameless : List Event} (h : ∀ e ∈ nameless, e.id = none)
    (rest : List Event) : Target.firstNamed (nameless ++ rest) = Target.firstNamed rest := by
  induction nameless with
  | nil => rfl
  | cons e nameless ih =>
    rw [List.forall_mem_cons] at h
    rw [List.cons_append, Target.firstNamed, h.1, ih h.2]
    rfl

/--
Reading a record settles an event: written as a record and read again, it is the same event. So the
search for a target, which reads the events of a reply once more, takes the first that has an identifier
just as it was listed.
-/
theorem ofRecord_settles (h : ofRecord record = .ok e)
    : ofRecord e.toRecord = .ok e
      ∧ ∀ nameless rest, (∀ e' ∈ nameless, e'.id = none) → e.id ≠ none
        → Target.firstNamed (nameless ++ e :: rest) = .ok (some e) := by
  have hsettled := isSettled_of_ofRecord h
  refine ⟨hsettled.ofRecord_eq, ?_⟩
  intro nameless rest hnone hnamed
  obtain ⟨id, hid⟩ := Option.ne_none_iff_exists'.mp hnamed
  have hne : id ≠ "" := (hsettled.optional e.id (by simp) id hid).2
  rw [firstNamed_append hnone, Target.firstNamed, hid, if_neg (by simpa using hne),
    hsettled.ofRecord_eq]
  rfl

end

/--
A record in which nothing is as it would be written: names of the second choice, numbers, blanks, and
attendees of several kinds, one of them twice.
-/
def untidy : Fields :=
  [("eventId", .int 7), ("summary", .text " \t"), ("title", .text "Review"), ("location", .list []),
   ("start", .map [("dateTime", .text "Wed Aug 20 2025 15:00:00 GMT+0530")]),
   ("end", .text " 2025-08-20t10:30 "),
   ("attendees", .list [.text " a@x ", .null, .map [("email", .text "b@x")], .text "a@x", .bool true]),
   ("colorId", .int 0), ("status", .text ""), ("htmlLink", .text " https://x "), ("mood", .text "good")]

def tidied : Event :=
  { title := untitled
    start := "2025-08-20T09:30:00.000Z"
    finish := "2025-08-20T10:30:00.000Z"
    id := some "7"
    location := "[]"
    attendees := ["a@x", "b@x", "True"]
    colorId := some "0"
    link := some "https://x" }

section

open scoped Rehearsal

theorem ofRecord_settles_untidy
    : ofRecord untidy = .ok tidied ∧ ofRecord tidied.toRecord = .ok tidied
      ∧ Target.firstNamed [{ tidied with id := none }, tidied] = .ok (some tidied) := by
  have hread : ofRecord untidy = .ok tidied := by decide +kernel
  obtain ⟨hagain, hfirst⟩ := ofRecord_settles hread
  exact ⟨hread, hagain, hfirst [{ tidied with id := none }] [] (by simp) (by decide)⟩

end

end Event

end Datebook
