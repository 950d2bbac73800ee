import Datebook.Proofs.Event.Printed

/-!
This module contains the verification of the reading of whole listings of events: the events that are
printed one after the other, with blank lines between them, come back as they are.
-/

namespace Datebook

namespace Listing

open Text (IsSingle)

inductive IsSpacing : List Char → Prop
  | last {line : List Char} (hline : ∀ c ∈ line, isGap c = true)
      : IsSpacing ('\n' :: (line ++ ['\n']))
  | next {line rest : List Char} (hline : ∀ c ∈ line, isGap c = true) (hrest : IsSpacing rest)
      : IsSpacing ('\n' :: (line ++ rest))

inductive Continues : List Event → String → Prop
  | none : Continues [] ""
  | next {e : Event} {es : List Event} {gap block rest : String} (hgap : IsSpacing gap.toList)
      (hblock : IsPrinted e block) (hrest : Continues es rest)
      : Continues (e :: es) (gap ++ block ++ rest)

/--
Whether a text is a listing of some events: a heading that is no record, then the events as they are
printed, with blank lines before each.
-/
inductive Lists : List Event → String → Prop
  | intro {es : List Event} {heading rest : String} (hsingle : '\n' ∉ heading.toList)
      (hheading : ¬ IsNumbered heading.toList) (hrest : Continues es rest)
      : Lists es (heading ++ rest)

section

variable {e : Event} {separator : String} {s t after : List Char}

theorem isBlank_of_isGap {c : Char} (h : isGap c = true) : Text.isBlank c = true := by
  rw [isGap, Bool.or_eq_true, decide_eq_true_eq, decide_eq_true_eq] at h
  obtain rfl | rfl := h
  . rfl
  . rfl

theorem not_isGap_of_isLetter {c : Char} (h : LongDate.isLetter c = true) : isGap c = false := by
  rw [← Bool.not_eq_true]
  intro hgap
  have hink := LongDate.isBlank_of_isLetter h
  rw [isBlank_of_isGap hgap] at hink
  cases hink

theorem afterDelimiter_of_ne {c : Char} (hc : c ≠ '\n') (s : List Char)
    : afterDelimiter (c :: s) = none := by
  unfold afterDelimiter
  split
  . next heq =>
    injection heq with heq
    exact absurd heq hc
  . rfl

theorem blocksFrom_of_not_mem (h : '\n' ∉ s) (rest : List Char)
    : blocksFrom 0 (s ++ rest) = (s ++ (blocksFrom 0 rest).1, (blocksFrom 0 rest).2) := by
  induction s with
  | nil => rfl
  | cons c s ih =>
    rw [List.mem_cons, not_or] at h
    rw [List.cons_append, blocksFrom_zero_cons, afterDelimiter_of_ne (Ne.symm h.1), ih h.2]
    rfl

theorem afterDelimiter_of_isLetter {c : Char} (hc : LongDate.isLetter c = true) (s : List Char)
    : afterDelimiter ('\n' :: c :: s) = none := by
  rw [afterDelimiter, List.dropWhile_cons_of_neg (by simp [not_isGap_of_isLetter hc])]
  split
  . next heq =>
    injection heq with heq
    rw [heq] at hc
    cases hc
  . rfl

theorem blocksFrom_joined {ls : List String}
    (h : ∀ l ∈ ls, '\n' ∉ l.toList ∧ ∃ c rest, l.toList = c :: rest ∧ LongDate.isLetter c = true)
    (rest : List Char)
    : blocksFrom 0 ((Text.joined "\n" ls).toList ++ rest)
        = ((Text.joined "\n" ls).toList ++ (blocksFrom 0 rest).1, (blocksFrom 0 rest).2) := by
  induction ls with
  | nil => rfl
  | cons l ls ih =>
    rw [List.forall_mem_cons] at h
    obtain ⟨⟨hl, -⟩, hall⟩ := h
    cases ls with
    | nil => exact blocksFrom_of_not_mem hl rest
    | cons next ls =>
      have hsplit : (Text.joined "\n" (l :: next :: ls)).toList
          = l.toList ++ '\n' :: (Text.joined "\n" (next :: ls)).toList := by
        simp [Text.joined]
      obtain ⟨⟨-, c, tail, hnext, hc⟩, -⟩ := List.forall_mem_cons.mp hall
      obtain ⟨others, hothers⟩ := Text.exists_joined_cons "\n" next ls
      have hdelimiter : afterDelimiter ('\n' :: ((Text.joined "\n" (next :: ls)).toList ++ rest))
          = none := by
        rw [hothers, hnext]
        exact afterDelimiter_of_isLetter hc _
      rw [hsplit, List.append_assoc, List.cons_append, blocksFrom_of_not_mem hl, blocksFrom_zero_cons,
        hdelimiter, ih hall, List.append_assoc]
      rfl

theorem afterNumber_of_gaps (h : ∀ c ∈ s, isGap c = true) : afterNumber s = none := by
  unfold afterNumber
  rw [List.dropWhile_eq_nil_iff.mpr h]
  rfl

theorem IsSpacing.exists_line (h : IsSpacing s)
    : ∃ line rest, s = '\n' :: (line ++ '\n' :: rest) ∧ ∀ c ∈ line, isGap c = true := by
  induction h with
  | last hline => exact ⟨_, [], rfl, hline⟩
  | next hline hrest ih =>
    obtain ⟨line, rest, rfl, -⟩ := ih
    exact ⟨_, _, rfl, hline⟩

theorem newline_not_mem (h : ∀ c ∈ s, isGap c = true) : '\n' ∉ s :=
  fun hmem => absurd (h _ hmem) (by decide)

def IsTrailing (s : List Char) : Prop :=
  ∀ body, Text.inkedLines (body ++ s) = Text.inkedLines body

theorem isTrailing_nil : IsTrailing [] := by
  intro body
  rw [List.append_nil]

theorem IsTrailing.append (hs : IsTrailing s) (ht : IsTrailing t) : IsTrailing (s ++ t) := by
  intro body
  rw [← List.append_assoc, ht, hs]

theorem isTrailing_newline (h : ∀ c ∈ s, Text.isBlank c = true) : IsTrailing ('\n' :: s) := by
  intro body
  rw [Text.inkedLines_append_newline, Text.inkedLines_of_blank h, List.append_nil]

theorem IsSpacing.blocksFrom_append (h : IsSpacing s) (hafter : afterNumber t = some after)
    : ∃ trailing, blocksFrom 0 (s ++ t) = (trailing, blocks t) ∧ IsTrailing trailing := by
  induction h with
  | last hline =>
    refine ⟨[], ?_, isTrailing_nil⟩
    rw [List.cons_append, List.append_assoc]
    exact blocksFrom_number hline hafter
  | @next line rest hline hrest ih =>
    obtain ⟨trailing, hblocks, htrailing⟩ := ih
    have hblank : ∀ c ∈ line, Text.isBlank c = true := fun c hc => isBlank_of_isGap (hline c hc)
    have hdelimiter : afterDelimiter ('\n' :: (line ++ (rest ++ t))) = none := by
      obtain ⟨line', rest', rfl, hline'⟩ := hrest.exists_line
      have hnewline : isGap '\n' = false := rfl
      rw [afterDelimiter, List.dropWhile_append_of_pos hline, List.cons_append,
        List.dropWhile_cons_of_neg (by simp [hnewline]), List.append_assoc, List.cons_append]
      show afterNumber (line' ++ '\n' :: (rest' ++ t)) = none
      rw [afterNumber_append, afterNumber_of_gaps hline']
      rfl
    refine ⟨'\n' :: line ++ trailing, ?_, (isTrailing_newline hblank).append htrailing⟩
    rw [List.cons_append, List.append_assoc, blocksFrom_zero_cons, hdelimiter,
      blocksFrom_of_not_mem (newline_not_mem hline), hblocks]
    rfl

theorem exists_head_bodyOf (separator : String) (e : Event) (order : List Item)
    : ∃ c rest, (bodyOf separator e order).toList = c :: rest ∧ LongDate.isLetter c = true := by
  obtain ⟨c, rest, hline, hc⟩ := exists_head_lineOf separator e .title
  obtain ⟨tail, hbody⟩ := Text.exists_joined_cons "\n" (lineOf separator e .title)
    (order.map (lineOf separator e))
  exact ⟨c, rest ++ tail, by rw [bodyOf, List.map_cons, hbody, hline, List.cons_append], hc⟩

theorem afterNumber_bodyOf {number : String} (hnumbered : number ≠ "")
    (hnumber : ∀ c ∈ number.toList, Text.isDigit c = true) (separator : String) (e : Event)
    (order : List Item) (rest : List Char)
    : afterNumber ((number ++ ". ").toList ++ ((bodyOf separator e order).toList ++ rest))
        = some ((bodyOf separator e order).toList ++ rest) := by
  obtain ⟨c, tail, hbody, hc⟩ := exists_head_bodyOf separator e order
  have hnumbered : number.toList ≠ [] := fun hnil => hnumbered (String.toList_eq_nil_iff.mp hnil)
  have hafter := afterNumber_number (List.forall_mem_nil _) hnumbered hnumber
    (by decide : isGap ' ' = true) ((bodyOf separator e order).toList ++ rest)
  rw [hbody, List.cons_append, List.dropWhile_cons_of_neg (by simp [not_isGap_of_isLetter hc])]
    at hafter
  rw [hbody]
  simpa using hafter

theorem blocksFrom_bodyOf (h : IsListable e) (htold : IsTold e) (hseparator : IsSingle separator)
    (order : List Item) (rest : List Char)
    : blocksFrom 0 ((bodyOf separator e order).toList ++ rest)
        = ((bodyOf separator e order).toList ++ (blocksFrom 0 rest).1, (blocksFrom 0 rest).2) := by
  apply blocksFrom_joined
  rw [List.forall_mem_map]
  intro item _
  refine ⟨?_, exists_head_lineOf separator e item⟩
  intro hmem
  exact absurd (h.isSingle_lineOf htold hseparator item _ hmem) (by decide)

theorem Continues.exists_blocks {es : List Event} {text : String} (h : Continues es text)
    (hall : ∀ e ∈ es, IsListable e ∧ IsTold e)
    : ∃ trailing blocks, blocksFrom 0 text.toList = (trailing, blocks) ∧ IsTrailing trailing
        ∧ eventsOf blocks = .ok es := by
  -- What stands before the first event adds nothing to the block before it.
  induction h with
  | none => exact ⟨[], [], rfl, isTrailing_nil, rfl⟩
  | @next e es gap block rest hgap hblock hrest ih =>
    rw [List.forall_mem_cons] at hall
    obtain ⟨⟨hlistable, htold⟩, hall⟩ := hall
    obtain ⟨trailing, others, hothers, htrailing, hevents⟩ := ih hall
    obtain @⟨number, separator, order, hnumbered, hnumber, hseparator, horder⟩ := hblock
    have hsplit : (gap ++ (number ++ ". " ++ bodyOf separator e order) ++ rest).toList
        = gap.toList ++ ((number ++ ". ").toList
          ++ ((bodyOf separator e order).toList ++ rest.toList)) := by
      simp
    have hafter := afterNumber_bodyOf hnumbered hnumber separator e order rest.toList
    obtain ⟨before, hbefore, hblank⟩ := hgap.blocksFrom_append hafter
    have hblocks := blocksFrom_bodyOf hlistable htold (isSingle_separator hseparator) order rest.toList
    rw [blocks, hafter] at hbefore
    dsimp only at hbefore
    rw [hblocks, hothers] at hbefore
    refine ⟨before, _, (congrArg (blocksFrom 0) hsplit).trans hbefore, hblank, ?_⟩
    rw [eventsOf, hlistable.eventOf_bodyOf htold hseparator horder (htrailing _), hevents]
    rfl

theorem Continues.opens {es : List Event} {text : String} (h : Continues es text)
    : text = "" ∨ ∃ rest, text.toList = '\n' :: rest := by
  cases h with
  | none => exact .inl rfl
  | next hgap hblock hrest =>
    obtain ⟨line, rest, hline, -⟩ := hgap.exists_line
    right
    rw [String.toList_append, String.toList_append, hline]
    exact ⟨_, rfl⟩

theorem Lists.events_eq {es : List Event} {text : String} (h : Lists es text)
    (hall : ∀ e ∈ es, IsListable e ∧ IsTold e) : Listing.events text = .ok es := by
  obtain @⟨heading, rest, hsingle, hheading, hrest⟩ := h
  obtain ⟨trailing, blocks, hblocks, -, hevents⟩ := hrest.exists_blocks hall
  have hunnumbered : afterNumber heading.toList = none := by
    rw [Option.eq_none_iff_forall_not_mem]
    exact fun after hafter => hheading (isNumbered_of_afterNumber hafter)
  have hnone : afterNumber (heading.toList ++ rest.toList) = none := by
    cases hrest.opens with
    | inl hempty =>
      rw [hempty]
      simpa using hunnumbered
    | inr hnewline =>
      obtain ⟨others, hnewline⟩ := hnewline
      rw [hnewline, afterNumber_append, hunnumbered]
      rfl
  rw [Listing.events, String.toList_append, Listing.blocks, hnone]
  dsimp only
  rw [blocksFrom_of_not_mem hsingle, hblocks]
  exact hevents

/--
The events of a listing come back, all of them, in order and with all their parts, exactly if each of
them is told completely.
-/
theorem events_listed {es : List Event} {text : String} (h : Lists es text)
    (hall : ∀ e ∈ es, IsListable e) : Listing.events text = .ok es ↔ ∀ e ∈ es, IsTold e := by
  constructor
  . exact isTold_of_eventsOf
  . exact fun htold => h.events_eq fun e he => ⟨hall e he, htold e he⟩

end

theorem isSpacing_newlines : IsSpacing "\n\n".toList :=
  .last (List.forall_mem_nil _)

theorem isListable_of_quarter {e : Event} (hstart : e.start = "2025-08-20T10:00:00.000Z")
    (hfinish : e.finish = "2025-08-20T10:15:00.000Z") (hid : e.id.getD "" ≠ "") (htitle : e.title ≠ "")
    (htexts : ∀ s ∈ textsOf e, Text.IsTrimmed s ∧ IsSingle s)
    (hattendees : ∀ a ∈ e.attendees, Text.IsTrimmed a ∧ a ≠ "" ∧ ',' ∉ a.toList)
    (hcalendar : e.calendarId = none) : IsListable e := by
  have hten : EventTime.read (.text "2025-08-20T10:00:00Z") = .ok "2025-08-20T10:00:00.000Z" := by
    decide +kernel
  have hquarter : EventTime.read (.text "2025-08-20T10:15:00Z") = .ok "2025-08-20T10:15:00.000Z" := by
    decide +kernel
  refine ⟨hid, htitle, htexts, hattendees, ?_, ?_, hcalendar⟩
  . rw [hstart]
    exact EventTime.exists_stamp hten
  . rw [hfinish]
    exact EventTime.exists_stamp hquarter

def lab : Event :=
  { Rehearsal.standup "e2" with
    title := "2. Lab: Event ID: e9"
    description := "Start: now (10:30)"
    location := "Room 5, 2. floor"
    attendees := ["a@x", "Ana <b@x>"]
    colorId := some "11"
    status := some "confirmed"
    link := some "https://x/?a=1:2" }

def disorder : String :=
  "Found 2 event(s):"
    ++ ("\n\n" ++ ("12" ++ ". " ++ bodyOf "," lab
          [.link, .attendees, .finish, .colorId, .description, .start, .id, .status, .location])
    ++ ("\n\n \t\n" ++ ("3" ++ ". " ++ bodyOf ", " (Rehearsal.standup "e1") [.finish, .start, .id])
    ++ ""))

theorem events_listed_disorder
    : Lists [lab, Rehearsal.standup "e1"] disorder
      ∧ Listing.events disorder = .ok [lab, Rehearsal.standup "e1"] := by
  have hspacing : IsSpacing "\n\n \t\n".toList :=
    .next (List.forall_mem_nil _) (.last (List.all_eq_true.mp (rfl : [' ', '\t'].all isGap = true)))
  have hprinted := IsPrinted.intro (e := lab) (by decide : "12" ≠ "") (List.all_eq_true.mp rfl) (.inl rfl)
    (by decide +kernel : List.Perm [.link, .attendees, .finish, .colorId, .description, .start, .id,
      .status, .location] (printedItems "," lab))
  have hnext := IsPrinted.intro (e := Rehearsal.standup "e1") (by decide : "3" ≠ "")
    (List.all_eq_true.mp rfl) (.inr rfl)
    (by decide +kernel : List.Perm [.finish, .start, .id] (printedItems ", " (Rehearsal.standup "e1")))
  have hlists : Lists [lab, Rehearsal.standup "e1"] disorder :=
    .intro (by decide) (by decide)
      (.next isSpacing_newlines hprinted (.next hspacing hnext .none))
  have hlab : IsListable lab :=
    isListable_of_quarter rfl rfl (by decide) (by decide) (by decide +kernel) (by decide +kernel) rfl
  have hstandup : IsListable (Rehearsal.standup "e1") :=
    isListable_of_quarter rfl rfl (by decide) (by decide) (by decide +kernel) nofun rfl
  refine ⟨hlists, (events_listed hlists ?_).mpr ?_⟩
  . simp [hlab, hstandup]
  . simp only [List.forall_mem_cons]
    exact ⟨⟨by decide, by decide +kernel⟩, ⟨by decide, by decide +kernel⟩, nofun⟩

def listed (e : Event) : String :=
  "Found 1 event(s):" ++ ("\n\n" ++ ("1" ++ ". " ++ bodyOf ", " e (printedItems ", " e)) ++ "")

theorem lists_listed (e : Event) : Lists [e] (listed e) :=
  have hprinted := IsPrinted.intro (by decide) (List.all_eq_true.mp rfl) (.inr rfl) (List.Perm.refl _)
  .intro (by decide) (by decide) (.next isSpacing_newlines hprinted .none)

def vague : Event :=
  { Rehearsal.standup "e1" with status := some "" }

def crowded : Event :=
  { Rehearsal.standup "e1" with attendees := ["ana@x\nbob@x"] }

/--
So there are events that do not come back, for either reason: an empty status is not printed and comes
back as none, and of an attendee on two lines only the first comes back.
-/
theorem not_forall_events_listed
    : (¬ ∀ (es : List Event) (text : String), Lists es text
        → (∀ e ∈ es, IsListable e ∧ ∀ a ∈ e.attendees, IsSingle a) → Listing.events text = .ok es)
      ∧ ¬ ∀ (es : List Event) (text : String), Lists es text
        → (∀ e ∈ es, IsListable e ∧ ∀ s ∈ [e.colorId, e.status, e.link], s ≠ some "")
        → Listing.events text = .ok es := by
  constructor
  . intro hall
    have hvague : IsListable vague :=
      isListable_of_quarter rfl rfl (by decide) (by decide) (by decide +kernel) nofun rfl
    have hread : Listing.events (listed vague) = .ok [Rehearsal.standup "e1"] := by decide +kernel
    have hsame := hall [vague] _ (lists_listed vague) (by simpa using ⟨hvague, nofun⟩)
    rw [hread] at hsame
    revert hsame
    decide
  . intro hall
    have hcrowded : IsListable crowded :=
      isListable_of_quarter rfl rfl (by decide) (by decide) (by decide +kernel) (by decide +kernel) rfl
    have hread : Listing.events (listed crowded)
        = .ok [{ Rehearsal.standup "e1" with attendees := ["ana@x"] }] := by
      decide +kernel
    have hsame := hall [crowded] _ (lists_listed crowded) (by simpa using ⟨hcrowded, by decide⟩)
    rw [hread] at hsame
    revert hsame
    decide

end Listing

end Datebook
