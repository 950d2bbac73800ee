import Datebook.Proofs.Fault
import Datebook.Proofs.Text.Line
import Datebook.Rehearsal.Service
import Datebook.Reply

/-!
This module contains the verification that listings of events are read record by record: a listing
that a numbered one follows after an empty line tells the events of the two, and what is no event
leaves the events around it as they are.
-/

namespace Datebook.Listing

theorem afterNumber_append (s t : List Char)
    : afterNumber (s ++ '\n' :: t) = (afterNumber s).map (· ++ '\n' :: t) := by
  have hgap : isGap '\n' = false := rfl
  have hdigit : Text.isDigit '\n' = false := rfl
  unfold afterNumber
  dsimp only
  rw [List.dropWhile_append_cons hgap, List.takeWhile_append_cons hdigit, List.dropWhile_append_cons hdigit]
  split
  . rfl
  . cases (s.dropWhile isGap).dropWhile Text.isDigit with
    | nil => rfl
    | cons point rest =>
      by_cases hpoint : point = '.'
      . rw [hpoint]
        cases rest with
        | nil => rfl
        | cons gap rest =>
          show (if isGap gap = true then some ((rest ++ '\n' :: t).dropWhile isGap) else none)
            = Option.map _ (if isGap gap = true then some (rest.dropWhile isGap) else none)
          rw [List.dropWhile_append_cons hgap]
          split
          . rfl
          . rfl
      . simp [hpoint]

theorem afterDelimiter_append {s : List Char} (hs : s ≠ []) (t : List Char)
    : afterDelimiter (s ++ '\n' :: '\n' :: t)
        = (afterDelimiter s).map (· ++ '\n' :: '\n' :: t) := by
  obtain ⟨c, s, rfl⟩ := List.exists_cons_of_ne_nil hs
  unfold afterDelimiter
  by_cases hc : c = '\n'
  . have hline : isGap '\n' = false := rfl
    simp only [hc, List.cons_append, List.dropWhile_append_cons hline]
    cases s.dropWhile isGap with
    | nil => rfl
    | cons d rest =>
      by_cases hd : d = '\n'
      . rw [hd]
        exact afterNumber_append rest ('\n' :: t)
      . simp [hd]
  . simp [hc]

theorem afterNumber_suffix {s after : List Char} (h : afterNumber s = some after) : after <:+ s := by
  unfold afterNumber at h
  dsimp only at h
  split at h
  . cases h
  . split at h
    . next gap rest heq =>
      split at h
      . cases h
        have hrest : rest <:+ s.dropWhile isGap :=
          ((List.suffix_cons gap rest).trans (List.suffix_cons '.' _)).trans
            (heq ▸ List.dropWhile_suffix _)
        exact (List.dropWhile_suffix _).trans (hrest.trans (List.dropWhile_suffix _))
      . cases h
    . cases h

theorem afterDelimiter_suffix {c : Char} {s after : List Char}
    (h : afterDelimiter (c :: s) = some after) : after <:+ s := by
  unfold afterDelimiter at h
  split at h
  . next rest heq =>
    cases heq
    split at h
    . next rest' heq =>
      have hrest : rest' <:+ s := (List.suffix_cons '\n' _).trans (heq ▸ List.dropWhile_suffix _)
      exact (afterNumber_suffix h).trans hrest
    . cases h
  . cases h

/--
The blocks of two texts put together: the last block of the first one goes on with what stands before
the first number of the second.
-/
def join : List Char → List (List Char) → List Char × List (List Char) →
    List Char × List (List Char)
  | block, [], (rest, others) => (block ++ rest, others)
  | block, next :: blocks, other =>
    let joined := join next blocks other
    (block, joined.1 :: joined.2)

theorem join_cons (c : Char) (block : List Char) (blocks : List (List Char))
    (other : List Char × List (List Char))
    : join (c :: block) blocks other
        = (c :: (join block blocks other).1, (join block blocks other).2) := by
  cases blocks with
  | nil => rfl
  | cons next blocks => rfl

theorem blocksFrom_zero_cons (c : Char) (s : List Char)
    : blocksFrom 0 (c :: s)
        = match afterDelimiter (c :: s) with
          | none => (c :: (blocksFrom 0 s).1, (blocksFrom 0 s).2)
          | some after =>
            ([], (blocksFrom (s.length - after.length) s).1
              :: (blocksFrom (s.length - after.length) s).2) :=
  rfl

theorem blocksFrom_length (s t : List Char) : blocksFrom s.length (s ++ t) = blocksFrom 0 t := by
  induction s with
  | nil => rfl
  | cons c s ih => exact ih

theorem blocksFrom_after {s after : List Char} (h : after <:+ s)
    : blocksFrom (s.length - after.length) s = blocksFrom 0 after := by
  obtain ⟨number, rfl⟩ := h
  rw [List.length_append, Nat.add_sub_cancel]
  exact blocksFrom_length number after

/--
Where an empty line stands in a text, no number is found across it: the blocks before it and those
after it are cut apart from each other.
-/
theorem blocksFrom_append (s t : List Char) {skip : Nat} (h : skip ≤ s.length)
    : blocksFrom skip (s ++ '\n' :: '\n' :: t)
        = join (blocksFrom skip s).1 (blocksFrom skip s).2 (blocksFrom 0 ('\n' :: '\n' :: t)) := by
  induction s generalizing skip with
  | nil =>
    rw [Nat.le_zero.mp h]
    rfl
  | cons c s ih =>
    cases skip with
    | succ skip => exact ih (Nat.le_of_succ_le_succ h)
    | zero =>
      have hdelimiter := afterDelimiter_append (s := c :: s) nofun t
      rw [List.cons_append] at hdelimiter ⊢
      rw [blocksFrom_zero_cons, blocksFrom_zero_cons, hdelimiter]
      cases hafter : afterDelimiter (c :: s) with
      | none =>
        simp only [Option.map_none]
        rw [ih (Nat.zero_le _), join_cons]
      | some after =>
        have hlength := (afterDelimiter_suffix hafter).length_le
        simp only [Option.map_some]
        rw [List.length_append, List.length_append, Nat.add_sub_add_right, ih (Nat.sub_le ..)]
        rfl

theorem join_number (block : List Char) (blocks others : List (List Char))
    : join block blocks ([], others) = (block, blocks ++ others) := by
  induction blocks generalizing block with
  | nil => exact congrArg (·, others) (List.append_nil block)
  | cons next blocks ih => rw [join, ih]; rfl

theorem blocksFrom_number {gaps t after : List Char} (hgaps : ∀ c ∈ gaps, isGap c = true)
    (h : afterNumber t = some after) : blocksFrom 0 ('\n' :: (gaps ++ '\n' :: t)) = ([], blocks t) := by
  have hline : isGap '\n' = false := rfl
  have hdelimiter : afterDelimiter ('\n' :: (gaps ++ '\n' :: t)) = some after := by
    rw [afterDelimiter, List.dropWhile_append_of_pos hgaps, List.dropWhile_cons_of_neg (by simp [hline])]
    exact h
  have hsuffix : after <:+ gaps ++ '\n' :: t :=
    ((afterNumber_suffix h).trans (List.suffix_cons _ _)).trans (List.suffix_append _ _)
  rw [blocksFrom_zero_cons, hdelimiter]
  dsimp only
  rw [blocksFrom_after hsuffix, blocks, h]

theorem blocks_append {t after : List Char} (h : afterNumber t = some after) (s : List Char)
    : blocks (s ++ '\n' :: '\n' :: t) = blocks s ++ blocks t := by
  have hnumber : blocksFrom 0 ('\n' :: '\n' :: t) = ([], blocks t) :=
    blocksFrom_number (List.forall_mem_nil _) h
  have hjoin (s : List Char) : blocksFrom 0 (s ++ '\n' :: '\n' :: t)
      = ((blocksFrom 0 s).1, (blocksFrom 0 s).2 ++ blocks t) := by
    rw [blocksFrom_append s t (Nat.zero_le _), hnumber, join_number]
  rw [blocks, blocks, afterNumber_append]
  cases afterNumber s with
  | none => rw [Option.map_none, hjoin]
  | some rest =>
    dsimp only [Option.map_some]
    rw [hjoin]
    rfl

theorem eventsOf_append {blocks blocks' : List (List Char)} {events events' : List Event}
    (h : eventsOf blocks = .ok events) (h' : eventsOf blocks' = .ok events')
    : eventsOf (blocks ++ blocks') = .ok (events ++ events') := by
  induction blocks generalizing events with
  | nil =>
    cases h
    exact h'
  | cons block blocks ih =>
    unfold eventsOf at h
    simp only [Except.bind_eq_ok] at h
    obtain ⟨event, hevent, rest, hrest, h⟩ := h
    cases h
    rw [List.cons_append, eventsOf, hevent, ih hrest, List.append_assoc]
    rfl

def IsNumbered (s : List Char) : Prop :=
  ∃ gaps digits gap rest, s = gaps ++ (digits ++ '.' :: gap :: rest)
    ∧ (∀ c ∈ gaps, isGap c = true) ∧ digits ≠ [] ∧ (∀ c ∈ digits, Text.isDigit c = true)
    ∧ isGap gap = true

theorem not_isGap_of_isDigit {c : Char} (h : Text.isDigit c = true) : isGap c = false := by
  unfold isGap
  rw [Bool.or_eq_false_iff, decide_eq_false_iff_not, decide_eq_false_iff_not]
  constructor
  . rintro rfl
    cases h
  . rintro rfl
    cases h

theorem afterNumber_number {gaps digits : List Char} {gap : Char}
    (hgaps : ∀ c ∈ gaps, isGap c = true) (hdigits : digits ≠ [])
    (hall : ∀ c ∈ digits, Text.isDigit c = true) (hgap : isGap gap = true) (rest : List Char)
    : afterNumber (gaps ++ (digits ++ '.' :: gap :: rest)) = some (rest.dropWhile isGap) := by
  obtain ⟨d, digits, rfl⟩ := List.exists_cons_of_ne_nil hdigits
  rw [List.forall_mem_cons] at hall
  have hpoint : Text.isDigit '.' = false := rfl
  unfold afterNumber
  dsimp only
  rw [List.dropWhile_append_of_pos hgaps, List.cons_append,
    List.dropWhile_cons_of_neg (by simp [not_isGap_of_isDigit hall.1]),
    List.takeWhile_cons_of_pos hall.1, List.dropWhile_cons_of_pos hall.1,
    List.dropWhile_append_of_pos hall.2, List.dropWhile_cons_of_neg (by simp [hpoint])]
  exact if_pos hgap

theorem IsNumbered.exists_after {s : List Char} (h : IsNumbered s)
    : ∃ after, afterNumber s = some after := by
  obtain ⟨gaps, digits, gap, rest, rfl, hgaps, hdigits, hall, hgap⟩ := h
  exact ⟨_, afterNumber_number hgaps hdigits hall hgap rest⟩

theorem isNumbered_of_afterNumber {s after : List Char} (h : afterNumber s = some after)
    : IsNumbered s := by
  unfold afterNumber at h
  dsimp only at h
  split at h
  . cases h
  . next hdigits =>
    split at h
    . next gap rest heq =>
      split at h
      . next hgap =>
        refine ⟨s.takeWhile isGap, (s.dropWhile isGap).takeWhile Text.isDigit, gap, rest, ?_, ?_, ?_,
          ?_, hgap⟩
        . rw [← heq, List.takeWhile_append_dropWhile, List.takeWhile_append_dropWhile]
        . exact List.all_eq_true.mp List.all_takeWhile
        . rwa [List.isEmpty_iff] at hdigits
        . exact List.all_eq_true.mp List.all_takeWhile
      . cases h
    . cases h

instance (s : List Char) : Decidable (IsNumbered s) :=
  decidable_of_iff ((afterNumber s).isSome = true)
    ⟨fun h => isNumbered_of_afterNumber (Option.isSome_iff_exists.mp h).choose_spec,
      fun h => Option.isSome_iff_exists.mpr h.exists_after⟩

/--
Whether a text between two empty lines is prose: no line of it tells anything about an event, and no
record number follows an empty line in it.
-/
structure IsProse (s : List Char) : Prop where
  unlabelled : ∀ line ∈ Text.lines s, itemOf false line = none
  unnumbered : ∀ before gaps after, '\n' :: '\n' :: s = before ++ '\n' :: (gaps ++ '\n' :: after)
    → (∀ c ∈ gaps, isGap c = true) → ¬ IsNumbered after

theorem exists_of_afterDelimiter {s after : List Char} (h : afterDelimiter s = some after)
    : ∃ gaps rest, s = '\n' :: (gaps ++ '\n' :: rest) ∧ (∀ c ∈ gaps, isGap c = true)
        ∧ IsNumbered rest := by
  unfold afterDelimiter at h
  split at h
  . next rest =>
    split at h
    . next numbered heq =>
      refine ⟨rest.takeWhile isGap, numbered, ?_, List.all_eq_true.mp List.all_takeWhile,
        isNumbered_of_afterNumber h⟩
      rw [← heq, List.takeWhile_append_dropWhile]
    . cases h
  . cases h

theorem blocksFrom_of_unnumbered {s : List Char}
    (h : ∀ before rest, s = before ++ rest → afterDelimiter rest = none)
    : blocksFrom 0 s = (s, []) := by
  induction s with
  | nil => rfl
  | cons c s ih =>
    have hrest := ih fun before rest hs => h (c :: before) rest (by rw [hs]; rfl)
    rw [blocksFrom_zero_cons, h [] (c :: s) rfl, hrest]

theorem IsProse.blocksFrom_eq {s : List Char} (h : IsProse s)
    : blocksFrom 0 ('\n' :: '\n' :: s) = ('\n' :: '\n' :: s, []) := by
  apply blocksFrom_of_unnumbered
  intro before rest hs
  rw [Option.eq_none_iff_forall_not_mem]
  intro after hafter
  obtain ⟨gaps, numbered, rfl, hgaps, hnumbered⟩ := exists_of_afterDelimiter hafter
  exact h.unnumbered before gaps numbered hs hgaps hnumbered

theorem items_eq (block : List Char) : items block = itemsOf (Text.inkedLines block) := rfl

theorem eventOf_congr {block block' : List Char} (h : items block = items block')
    : eventOf block = eventOf block' := by
  unfold eventOf
  rw [h]

theorem eventOf_of_no_id {block : List Char} (h : (items block).lookup .id = none)
    : eventOf block = .ok none := by
  have hid : first (items block) .id = "" := by
    unfold first
    rw [h]
    rfl
  unfold eventOf
  exact if_pos (.inl hid)

theorem lookup_id_of_unlabelled {line : List Char} (h : itemOf false line = none)
    : (itemOf true line).toList.lookup .id = none := by
  unfold itemOf at h ⊢
  dsimp only at h ⊢
  split at h
  . rfl
  . split at h
    . rfl
    . cases h

theorem IsProse.eventOf_append {s : List Char} (h : IsProse s) (block : List Char)
    : eventOf (block ++ '\n' :: '\n' :: s) = eventOf block := by
  have hlines : Text.inkedLines (block ++ '\n' :: '\n' :: s)
      = Text.inkedLines block ++ Text.inkedLines s := by
    rw [Text.inkedLines_append_newline, ← List.nil_append ('\n' :: s),
      Text.inkedLines_append_newline]
    rfl
  have hnone : (Text.inkedLines s).filterMap (itemOf false) = [] := by
    rw [List.filterMap_eq_nil_iff]
    exact fun line hline => h.unlabelled line (List.mem_filter.mp hline).1
  cases hblock : Text.inkedLines block with
  | nil =>
    -- Without any line of its own the block has no identifier, and prose gives it a title at most.
    have hempty : (items block).lookup .id = none := by
      rw [items_eq, hblock]
      rfl
    rw [eventOf_of_no_id hempty]
    apply eventOf_of_no_id
    rw [items_eq, hlines, hblock, List.nil_append]
    cases hprose : Text.inkedLines s with
    | nil => rfl
    | cons line others =>
      rw [hprose, List.filterMap_eq_nil_iff, List.forall_mem_cons] at hnone
      rw [itemsOf, List.filterMap_eq_nil_iff.mpr hnone.2, List.append_nil]
      exact lookup_id_of_unlabelled hnone.1
  | cons line others =>
    apply eventOf_congr
    rw [items_eq, items_eq, hlines, hblock, List.cons_append, itemsOf, itemsOf,
      List.filterMap_append, hnone, List.append_nil]

theorem eventsOf_join {rest : List Char} (h : ∀ block, eventOf (block ++ rest) = eventOf block)
    (block : List Char) (blocks : List (List Char))
    : eventsOf ((join block blocks (rest, [])).1 :: (join block blocks (rest, [])).2)
          = eventsOf (block :: blocks)
        ∧ eventsOf (join block blocks (rest, [])).2 = eventsOf blocks := by
  induction blocks generalizing block with
  | nil =>
    refine ⟨?_, rfl⟩
    rw [join, eventsOf, h]
    exact (eventsOf.eq_2 block []).symm
  | cons next blocks ih =>
    obtain ⟨hnext, -⟩ := ih next
    refine ⟨?_, hnext⟩
    rw [join, eventsOf, hnext]
    exact (eventsOf.eq_2 block (next :: blocks)).symm

theorem events_append_prose {p : String} (h : IsProse p.toList) (a : String)
    : events (a ++ "\n\n" ++ p) = events a := by
  have hsplit : (a ++ "\n\n" ++ p).toList = a.toList ++ '\n' :: '\n' :: p.toList := by simp
  have hjoin (s : List Char) : blocksFrom 0 (s ++ '\n' :: '\n' :: p.toList)
      = join (blocksFrom 0 s).1 (blocksFrom 0 s).2 ('\n' :: '\n' :: p.toList, []) := by
    rw [blocksFrom_append s p.toList (Nat.zero_le _), h.blocksFrom_eq]
  rw [events, events, hsplit, blocks, blocks, afterNumber_append]
  cases afterNumber a.toList with
  | none =>
    rw [Option.map_none, hjoin]
    exact (eventsOf_join h.eventOf_append _ _).2
  | some after =>
    dsimp only [Option.map_some]
    rw [hjoin]
    exact (eventsOf_join h.eventOf_append _ _).1

theorem events_append_numbered {a b : String} {before after : List Event}
    (hb : IsNumbered b.toList) (hbefore : events a = .ok before) (hafter : events b = .ok after)
    : events (a ++ "\n\n" ++ b) = .ok (before ++ after) := by
  have hsplit : (a ++ "\n\n" ++ b).toList = a.toList ++ '\n' :: '\n' :: b.toList := by simp
  obtain ⟨rest, hrest⟩ := hb.exists_after
  rw [events, hsplit, blocks_append hrest]
  exact eventsOf_append hbefore hafter

/--
A listing that a numbered one follows after an empty line tells the events of the first and then those
of the second. So a record between them that tells no event, whatever it lacks, changes nothing about
the others, nor does prose.
-/
theorem events_concat {a b : String} {before after : List Event} (hb : IsNumbered b.toList)
    (hbefore : events a = .ok before) (hafter : events b = .ok after)
    : events (a ++ "\n\n" ++ b) = .ok (before ++ after)
      ∧ (∀ m : String, IsNumbered m.toList → events m = .ok []
        → events (a ++ "\n\n" ++ m ++ "\n\n" ++ b) = .ok (before ++ after))
      ∧ ∀ p : String, IsProse p.toList
        → events (a ++ "\n\n" ++ p ++ "\n\n" ++ b) = .ok (before ++ after) := by
  refine ⟨events_append_numbered hb hbefore hafter, ?_, ?_⟩
  . intro m hm hnone
    apply events_append_numbered hb
    . rw [← List.append_nil before]
      exact events_append_numbered hm hbefore hnone
    . exact hafter
  . intro p hp
    apply events_append_numbered hb
    . rw [events_append_prose hp]
      exact hbefore
    . exact hafter

theorem events_concat_around_undated
    : events ("Found 3 event(s):\n\n" ++ Rehearsal.record "1" "e1" "2025-08-20T10:00:00Z" ++ "\n\n"
          ++ Rehearsal.record "2" "e2" "sometime soon" ++ "\n\n"
          ++ Rehearsal.record "3" "e3" "2025-08-20T10:00:00Z")
        = .ok [Rehearsal.standup "e1", Rehearsal.standup "e3"] := by
  have hbefore : events ("Found 3 event(s):\n\n" ++ Rehearsal.record "1" "e1" "2025-08-20T10:00:00Z")
      = .ok [Rehearsal.standup "e1"] := by
    decide +kernel
  have hlost : events (Rehearsal.record "2" "e2" "sometime soon") = .ok [] := by decide +kernel
  have hafter : events (Rehearsal.record "3" "e3" "2025-08-20T10:00:00Z")
      = .ok [Rehearsal.standup "e3"] := by
    decide +kernel
  exact (events_concat (by decide +kernel) hbefore hafter).2.1 _ (by decide +kernel) hlost

end Datebook.Listing
