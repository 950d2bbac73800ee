import Datebook.Calendar
import Datebook.Proofs.Text.Line
import Mathlib.Data.List.Induction

/-!
This module contains the verification of what the parts of a calendar listing do to each other: a part
adds its calendars after those before it, and the details that it tells before its first calendar go to
the last calendar before it.
-/

namespace Datebook.Calendar

open Text (SetsApart inkedLines)

/--
The calendar that a line announces. A labelled line announces none.
-/
def announced? (line : List Char) : Option Calendar :=
  match Listing.labelled? line with
  | some _ => none
  | none => ofLine? line

/--
A calendar with the detail that a line tells, if it tells one.
-/
def detailed (line : List Char) (calendar : Calendar) : Calendar :=
  match Listing.labelled? line with
  | some l => addDetail l.label l.value calendar
  | none => calendar

/--
A calendar with the details that some lines tell before one of them announces a calendar.
-/
def strayed : List (List Char) → Calendar → Calendar
  | [], calendar => calendar
  | line :: rest, calendar =>
    if (announced? line).isSome then calendar else strayed rest (detailed line calendar)

section

variable {line : List Char} {lines : List (List Char)} {calendar : Calendar}
  {calendars : List Calendar}

@[simp]
theorem updateLast_nil (f : Calendar → Calendar) : updateLast f [] = [] := rfl

@[simp]
theorem updateLast_concat (f : Calendar → Calendar) (calendars : List Calendar) (calendar : Calendar)
    : updateLast f (calendars ++ [calendar]) = calendars ++ [f calendar] := by
  induction calendars with
  | nil => rfl
  | cons first rest ih =>
    cases rest with
    | nil => rfl
    | cons second rest => exact congrArg (first :: ·) ih

theorem updateLast_updateLast (f g : Calendar → Calendar) (calendars : List Calendar)
    : updateLast g (updateLast f calendars) = updateLast (fun c => g (f c)) calendars := by
  cases calendars using List.reverseRecOn with
  | nil => rfl
  | append_singleton calendars calendar => simp

theorem updateLast_eq_self_iff {f : Calendar → Calendar}
    : updateLast f calendars = calendars ↔ ∀ calendar ∈ calendars.getLast?, f calendar = calendar := by
  cases calendars using List.reverseRecOn with
  | nil => simp
  | append_singleton calendars calendar => simp

theorem updateLast_of_forall {f : Calendar → Calendar} (h : ∀ calendar, f calendar = calendar)
    : updateLast f calendars = calendars :=
  updateLast_eq_self_iff.mpr fun calendar _ => h calendar

theorem length_updateLast (f : Calendar → Calendar) (calendars : List Calendar)
    : (updateLast f calendars).length = calendars.length := by
  cases calendars using List.reverseRecOn with
  | nil => rfl
  | append_singleton calendars calendar => simp

theorem detailed_of_announced (h : (announced? line).isSome = true) : detailed line calendar = calendar := by
  unfold announced? at h
  unfold detailed
  cases hlabel : Listing.labelled? line with
  | none => rfl
  | some l =>
    rw [hlabel] at h
    cases h

theorem addLine_eq (h : line.all Text.isBlank = false) (calendars : List Calendar)
    : addLine calendars line
        = updateLast (detailed line) calendars ++ (announced? line).toList := by
  unfold addLine announced?
  rw [h]
  cases hlabel : Listing.labelled? line with
  | some l =>
    have hdetailed : detailed line = addDetail l.label l.value := by
      funext calendar
      rw [detailed, hlabel]
    simp [hdetailed]
  | none =>
    have hsame (calendar : Calendar) : detailed line calendar = calendar := by
      rw [detailed, hlabel]
    simp [updateLast_of_forall hsame]

theorem foldl_addLine (h : ∀ line ∈ lines, line.all Text.isBlank = false) (calendars : List Calendar)
    : lines.foldl addLine calendars
        = updateLast (strayed lines) calendars ++ lines.foldl addLine [] := by
  induction lines generalizing calendars with
  | nil =>
    rw [updateLast_of_forall (f := strayed []) fun _ => rfl]
    exact (List.append_nil calendars).symm
  | cons line rest ih =>
    rw [List.forall_mem_cons] at h
    rw [List.foldl_cons, List.foldl_cons, addLine_eq h.1, addLine_eq h.1]
    cases hannounced : announced? line with
    | none =>
      have hstrayed : strayed (line :: rest) = fun calendar => strayed rest (detailed line calendar) := by
        funext calendar
        simp [strayed, hannounced]
      rw [Option.toList_none, List.append_nil, List.append_nil, ih h.2, updateLast_updateLast,
        hstrayed, updateLast_nil]
    | some calendar =>
      -- From here on the details go to the calendar that was announced.
      have hstrayed (other : Calendar) : strayed (line :: rest) other = other := by
        simp [strayed, hannounced]
      have hdetailed (other : Calendar) : detailed line other = other :=
        detailed_of_announced (by rw [hannounced]; rfl)
      rw [updateLast_of_forall hstrayed, updateLast_of_forall hdetailed, updateLast_nil,
        Option.toList_some, List.nil_append, ih h.2, ih h.2 [calendar], updateLast_concat,
        List.append_assoc]
      rfl

theorem foldl_addLine_filter (lines : List (List Char)) (calendars : List Calendar)
    : (lines.filter fun line => !line.all Text.isBlank).foldl addLine calendars
        = lines.foldl addLine calendars := by
  rw [List.foldl_filter]
  congr 1
  funext calendars line
  unfold addLine
  cases line.all Text.isBlank with
  | true => rfl
  | false => rfl

theorem ofListing_eq (s : String) : ofListing s = (inkedLines s.toList).foldl addLine [] :=
  (foldl_addLine_filter _ []).symm

theorem not_blank_of_inked {s line : List Char} (h : line ∈ inkedLines s)
    : line.all Text.isBlank = false := by
  simpa using (List.mem_filter.mp h).2

theorem ofListing_append {gap : String} (h : SetsApart gap) (s t : String)
    : ofListing (s ++ gap ++ t)
        = updateLast (strayed (inkedLines t.toList)) (ofListing s) ++ ofListing t := by
  rw [ofListing_eq, ofListing_eq, ofListing_eq, Text.inkedLines_apart h, List.foldl_append,
    foldl_addLine fun line hline => not_blank_of_inked hline]

/--
Whether a text has nothing to tell before its first calendar: it begins with a line that announces one,
or all of its lines are blank.
-/
def Opens (s : String) : Prop :=
  ∀ line ∈ (inkedLines s.toList).head?, (announced? line).isSome = true

theorem Opens.strayed_eq {s : String} (h : Opens s) (calendar : Calendar)
    : strayed (inkedLines s.toList) calendar = calendar := by
  unfold Opens at h
  cases hlines : inkedLines s.toList with
  | nil => rfl
  | cons line rest =>
    rw [hlines] at h
    rw [strayed, if_pos (h line rfl)]

theorem ofListing_append_opens {gap s t : String} (hgap : SetsApart gap) (h : Opens t)
    : ofListing (s ++ gap ++ t) = ofListing s ++ ofListing t := by
  rw [ofListing_append hgap, updateLast_of_forall h.strayed_eq]

theorem addDetail_same (label value : String) (calendar : Calendar)
    : (addDetail label value calendar).id = calendar.id
        ∧ (addDetail label value calendar).summary = calendar.summary
        ∧ (addDetail label value calendar).primary = calendar.primary := by
  unfold addDetail
  split
  . exact ⟨rfl, rfl, rfl⟩
  . exact ⟨rfl, rfl, rfl⟩
  . exact ⟨rfl, rfl, rfl⟩
  . exact ⟨rfl, rfl, rfl⟩
  . exact ⟨rfl, rfl, rfl⟩

theorem strayed_same (lines : List (List Char)) (calendar : Calendar)
    : (strayed lines calendar).id = calendar.id
        ∧ (strayed lines calendar).summary = calendar.summary
        ∧ (strayed lines calendar).primary = calendar.primary := by
  induction lines generalizing calendar with
  | nil => exact ⟨rfl, rfl, rfl⟩
  | cons line rest ih =>
    unfold strayed
    split
    . exact ⟨rfl, rfl, rfl⟩
    . obtain ⟨hid, hsummary, hprimary⟩ := ih (detailed line calendar)
      rw [hid, hsummary, hprimary]
      unfold detailed
      split
      . apply addDetail_same
      . exact ⟨rfl, rfl, rfl⟩

/--
Whether a text is a block of lines, none of them blank, of which the first has the form of a line that
announces a calendar and announces none.
-/
def IsRefused (s : String) : Prop :=
  (∀ line ∈ Text.lines s.toList, line.all Text.isBlank = false)
    ∧ ∃ line ∈ (Text.lines s.toList).head?,
      ((nameStarts line).findSome? nameAndId?).isSome = true ∧ announced? line = none

/--
A text between two others adds its own calendars between theirs, and the details that it tells before
its first calendar are written over those of the last calendar before it; no other part of a calendar
changes. So it makes no difference exactly if it announces no calendar and tells that last calendar
nothing new.
-/
theorem ofListing_between {gap gap' gap'' s t u : String} (hgap : SetsApart gap)
    (hgap' : SetsApart gap') (hgap'' : SetsApart gap'') (h : Opens u)
    : ofListing (s ++ gap ++ t ++ gap' ++ u)
          = updateLast (strayed (inkedLines t.toList)) (ofListing s) ++ ofListing t ++ ofListing u
        ∧ (∀ calendar, (strayed (inkedLines t.toList) calendar).id = calendar.id
          ∧ (strayed (inkedLines t.toList) calendar).summary = calendar.summary
          ∧ (strayed (inkedLines t.toList) calendar).primary = calendar.primary)
        ∧ (ofListing (s ++ gap ++ t ++ gap' ++ u) = ofListing (s ++ gap'' ++ u)
          ↔ ofListing t = [] ∧ ∀ calendar ∈ (ofListing s).getLast?,
            strayed (inkedLines t.toList) calendar = calendar) := by
  have heq : ofListing (s ++ gap ++ t ++ gap' ++ u)
      = updateLast (strayed (inkedLines t.toList)) (ofListing s) ++ ofListing t ++ ofListing u := by
    rw [ofListing_append_opens hgap' h, ofListing_append hgap]
  refine ⟨heq, strayed_same _, ?_⟩
  rw [heq, ofListing_append_opens hgap'' h, List.append_left_inj, ← updateLast_eq_self_iff]
  constructor
  . intro hsame
    have hlength := congrArg List.length hsame
    rw [List.length_append, length_updateLast, Nat.add_eq_left] at hlength
    have hnone := List.eq_nil_of_length_eq_zero hlength
    rw [hnone, List.append_nil] at hsame
    exact ⟨hnone, hsame⟩
  . rintro ⟨hnone, hsame⟩
    rw [hnone, hsame, List.append_nil]

/--
The time zone of a block that is no calendar's is written over that of the calendar before it.
-/
theorem ofListing_between_work_and_home
    : ofListing ("Work (w@x)\nTimezone: UTC" ++ "\n\n"
          ++ "Team room (third floor)\nTimezone: Asia/Kolkata" ++ "\n\n" ++ "Home (h@x)")
        = [{ id := "w@x", summary := "Work", timeZone := some "Asia/Kolkata" },
           { id := "h@x", summary := "Home" }] := by
  have hopens : Opens "Home (h@x)" := by
    intro line hline
    have hhead : (inkedLines "Home (h@x)".toList).head? = some "Home (h@x)".toList := by
      decide +kernel
    rw [hhead, Option.mem_some_iff] at hline
    rw [← hline]
    decide +kernel
  rw [(ofListing_between Text.setsApart_newlines Text.setsApart_newlines Text.setsApart_newlines
    hopens).1]
  decide +kernel

/--
So there are blocks that are no calendar's and do not leave the calendars before them alone.
-/
theorem not_forall_ofListing_between
    : ¬ ∀ s t u : String, IsRefused t → Opens u
        → ofListing (s ++ "\n\n" ++ t ++ "\n\n" ++ u) = ofListing (s ++ "\n\n" ++ u) := by
  intro hall
  have hrefused : IsRefused "Team room (third floor)\nTimezone: Asia/Kolkata" := by
    refine ⟨by decide +kernel, "Team room (third floor)".toList, ?_, ?_, ?_⟩
    . decide +kernel
    . decide +kernel
    . decide +kernel
  have hsame := hall "Work (w@x)\nTimezone: UTC" _ "" hrefused nofun
  revert hsame
  decide +kernel

end

end Datebook.Calendar
