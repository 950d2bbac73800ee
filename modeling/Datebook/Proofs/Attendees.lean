import Datebook.Proofs.Event.Reread
import Datebook.Rehearsal.Host
import Datebook.Rehearsal.Service

/-!
This module contains the verification of the attendees of a command: which addresses a value gives and
in which order, over which candidate it is refused, and that the addresses are read back as they were
sent.
-/

namespace Datebook

namespace Field

variable {v : Value} {found seen texts : List String} {s : String}

/--
Whether the first list holds the texts of the second that are not empty, each once, in the order in
which they first occur there.
-/
structure ListsOnce (found texts : List String) : Prop where
  mem : ∀ s, s ∈ found ↔ s ∈ texts ∧ s ≠ ""
  order : found.Pairwise fun s t => texts.idxOf s < texts.idxOf t

namespace ListsOnce

theorem nil : ListsOnce [] [] := ⟨by simp, .nil⟩

theorem idxOf_lt_append (h : ListsOnce found seen) (more : List String)
    : found.Pairwise fun s t => (seen ++ more).idxOf s < (seen ++ more).idxOf t := by
  apply h.order.imp_of_mem
  intro s t hs ht hlt
  rwa [List.idxOf_append_of_mem ((h.mem s).mp hs).1, List.idxOf_append_of_mem ((h.mem t).mp ht).1]

theorem skip (h : ListsOnce found seen) (hold : s = "" ∨ s ∈ found)
    : ListsOnce found (seen ++ [s]) := by
  refine ⟨?_, h.idxOf_lt_append [s]⟩
  intro t
  rw [h.mem, List.mem_append, List.mem_singleton]
  constructor
  . rintro ⟨hmem, hne⟩
    exact ⟨.inl hmem, hne⟩
  . rintro ⟨hmem | rfl, hne⟩
    . exact ⟨hmem, hne⟩
    . cases hold with
      | inl hempty => exact absurd hempty hne
      | inr hfound => exact (h.mem t).mp hfound

theorem add (h : ListsOnce found seen) (hne : s ≠ "") (hnew : s ∉ found)
    : ListsOnce (found ++ [s]) (seen ++ [s]) := by
  have hunseen : s ∉ seen := fun hmem => hnew ((h.mem s).mpr ⟨hmem, hne⟩)
  constructor
  . intro t
    rw [List.mem_append, List.mem_append, List.mem_singleton, h.mem]
    grind
  . rw [List.pairwise_append]
    refine ⟨h.idxOf_lt_append [s], List.pairwise_singleton _ _, ?_⟩
    intro t ht u hu
    rw [List.mem_singleton] at hu
    have hseen := ((h.mem t).mp ht).1
    rw [hu, List.idxOf_append_of_mem hseen, List.idxOf_append_of_notMem hunseen]
    exact Nat.lt_add_right _ (List.idxOf_lt_length_of_mem hseen)

theorem distinctTexts (h : ListsOnce found seen) (texts : List String)
    : ListsOnce (distinctTexts found texts) (seen ++ texts) := by
  induction texts generalizing found seen with
  | nil => rwa [Field.distinctTexts, List.append_nil]
  | cons s texts ih =>
    rw [List.append_cons, Field.distinctTexts]
    split
    . next hold => exact ih (h.skip hold)
    . next hnew =>
      rw [not_or] at hnew
      exact ih (h.add hnew.1 hnew.2)

theorem nodup (h : ListsOnce found texts) : found.Nodup := by
  apply h.order.imp
  rintro s t hlt rfl
  exact Nat.lt_irrefl _ hlt

theorem unique {found' : List String} (h : ListsOnce found texts) (h' : ListsOnce found' texts)
    : found = found' := by
  have hperm : found.Perm found' :=
    (List.perm_ext_iff_of_nodup h.nodup h'.nodup).mpr fun s => (h.mem s).trans (h'.mem s).symm
  apply hperm.eq_of_pairwise ?_ h.order h'.order
  intro s t _ _ hlt hgt
  exact absurd hgt (Nat.lt_asymm hlt)

end ListsOnce

theorem eq_distinctTexts_iff : found = distinctTexts [] texts ↔ ListsOnce found texts := by
  have hlists : ListsOnce (distinctTexts [] texts) texts := ListsOnce.nil.distinctTexts texts
  constructor
  . rintro rfl
    exact hlists
  . intro h
    exact h.unique hlists

def attendeeValue : Value → Value
  | .map fields => Fields.get fields "email"
  | v => v

def addressOf (w : Value) : String :=
  plainText (attendeeValue w)

/--
The candidates of a value for attendees: nobody, the parts of a text between commas, a map, or the
items of a list. No other value has any.
-/
def candidates? : Value → Option (List Value)
  | .null => some []
  | .text s => some ((Text.parts ',' s.toList).map fun part => .text (String.ofList part))
  | .map fields => some [.map fields]
  | .list items => some items
  | _ => none

def isMisaddressed (w : Value) : Bool :=
  addressOf w ≠ "" && !isAddress (addressOf w)

theorem AreAttendees.map_addressOf (h : AreAttendees found) (name : String → Value)
    (hname : ∀ a, attendeeValue (name a) = .text a) : (found.map name).map addressOf = found := by
  rw [List.map_map]
  conv_rhs => rw [← List.map_id found]
  apply List.map_congr_left
  intro a ha
  show plainText (attendeeValue (name a)) = a
  rw [hname]
  exact (h.given a ha).1

theorem AreAttendees.listsOnce (h : AreAttendees found) : ListsOnce found found := by
  have hgiven : "" ∉ found := fun hmem => (h.given "" hmem).2 rfl
  rw [← eq_distinctTexts_iff,
    distinctTexts_eq_append hgiven (by simpa using h.addresses.1), List.nil_append]

section

variable [Host]

theorem attendeeText_eq (w : Value)
    : attendeeText w
        = match (attendeeValue w).flaw? with
          | none => .ok (addressOf w)
          | some flaw => .error (.crash (.unshown flaw)) := by
  have hvalue : attendeeText w = text (attendeeValue w) := by
    cases w with
    | map fields => rfl
    | _ => rfl
  rw [hvalue, text_eq]
  rfl

theorem mapM_attendeeText {candidates : List Value}
    (h : ∀ w ∈ candidates, (attendeeValue w).flaw? = none)
    : candidates.mapM Event.attendeeText = .ok (candidates.map addressOf) := by
  have hsame (w : Value) : Event.attendeeText w = attendeeText w := by
    cases w with
    | map fields => rfl
    | _ => rfl
  induction candidates with
  | nil => rfl
  | cons w candidates ih =>
    rw [List.forall_mem_cons] at h
    rw [List.mapM_cons, ih h.2, hsame, attendeeText_eq, h.1]
    rfl

/--
Whether a candidate cannot be taken: what it says cannot be shown, or it gives a text that is not an
address.
-/
def isUnfit (w : Value) : Bool :=
  !(attendeeValue w).isShowable || isMisaddressed w

def faultOver (w : Value) : Fault :=
  match (attendeeValue w).flaw? with
  | none => .field (.address (addressOf w))
  | some flaw => .crash (.unshown flaw)

theorem collectAddresses_eq (collected : List String) (candidates : List Value)
    : collectAddresses collected candidates
        = match candidates.find? isUnfit with
          | some w => .error (faultOver w)
          | none => .ok (distinctTexts collected (candidates.map addressOf)) := by
  induction candidates generalizing collected with
  | nil => rfl
  | cons w candidates ih =>
    rw [collectAddresses, attendeeText_eq, List.find?_cons, isUnfit, isMisaddressed,
      Value.isShowable]
    cases hflaw : (attendeeValue w).flaw? with
    | some flaw => simp [faultOver, hflaw]
    | none =>
      by_cases hempty : addressOf w = ""
      . simp [hempty, ih, distinctTexts]
      . cases haddress : isAddress (addressOf w) with
        | false => simp [hempty, haddress, faultOver, hflaw]
        | true =>
          by_cases hold : addressOf w ∈ collected
          . simp [hempty, haddress, hold, ih, distinctTexts]
          . simp [hempty, haddress, hold, ih, distinctTexts]

theorem attendees_eq (v : Value)
    : attendees v
        = match candidates? v with
          | none => .error (.field .attendeesShape)
          | some candidates =>
            match candidates.find? isUnfit with
            | some w => .error (faultOver w)
            | none => .ok (distinctTexts [] (candidates.map addressOf)) := by
  cases v with
  | null => rfl
  | text s => exact collectAddresses_eq [] _
  | map fields => exact collectAddresses_eq [] _
  | list items => exact collectAddresses_eq [] _
  | _ => rfl

theorem attendees_eq_error_iff {candidates : List Value} (h : candidates? v = some candidates)
    {e : Fault}
    : attendees v = .error e ↔ ∃ w, candidates.find? isUnfit = some w ∧ e = faultOver w := by
  rw [attendees_eq, h]
  dsimp only
  cases candidates.find? isUnfit with
  | none => simp
  | some w => simp [eq_comm]

theorem attendees_eq_ok_iff {candidates : List Value} (h : candidates? v = some candidates)
    : attendees v = .ok found
        ↔ (∀ w ∈ candidates, isUnfit w = false) ∧ ListsOnce found (candidates.map addressOf) := by
  rw [attendees_eq, h]
  dsimp only
  cases hfind : candidates.find? isUnfit with
  | none =>
    rw [List.find?_eq_none] at hfind
    rw [Except.ok.injEq, eq_comm, eq_distinctTexts_iff, and_iff_right]
    intro w hw
    simpa using hfind w hw
  | some w =>
    simp only [reduceCtorEq, false_iff, not_and]
    intro hfit
    have hunfit := List.find?_some hfind
    rw [hfit w (List.mem_of_find?_eq_some hfind)] at hunfit
    cases hunfit

theorem attendees_eq_shape_iff
    : attendees v = .error (.field .attendeesShape) ↔ candidates? v = none := by
  cases hcandidates : candidates? v with
  | none => simp [attendees_eq, hcandidates]
  | some candidates =>
    simp only [attendees_eq_error_iff hcandidates, reduceCtorEq, iff_false]
    rintro ⟨w, -, hfault⟩
    unfold faultOver at hfault
    split at hfault
    . cases hfault
    . cases hfault

theorem AreAttendees.attendees_texts (h : AreAttendees found)
    : attendees (.list (found.map .text)) = .ok found := by
  rw [attendees_eq_ok_iff rfl, h.map_addressOf .text fun _ => rfl]
  refine ⟨?_, h.listsOnce⟩
  intro w hw
  rw [List.mem_map] at hw
  obtain ⟨a, ha, rfl⟩ := hw
  have haddress : addressOf (.text a) = a := (h.given a ha).1
  rw [isUnfit, isMisaddressed, haddress, h.addresses.2 a ha]
  simp [attendeeValue, Value.isShowable]

theorem AreAttendees.attendeeTexts_args (h : AreAttendees found)
    : Event.attendeeTexts (Operation.attendeeArgs found) = .ok found := by
  have hplain : ∀ w ∈ found.map fun a => Value.map [("email", .text a)],
      (attendeeValue w).flaw? = none := by
    intro w hw
    rw [List.mem_map] at hw
    obtain ⟨a, -, rfl⟩ := hw
    rfl
  unfold Operation.attendeeArgs Event.attendeeTexts
  dsimp only
  rw [mapM_attendeeText hplain, h.map_addressOf _ fun _ => rfl]
  exact congrArg Except.ok (eq_distinctTexts_iff.mpr h.listsOnce).symm

/--
The attendees of a value. A value of no kind that has candidates is refused. Otherwise the first
candidate that cannot be taken decides: it is reported, or breaks the work off where it cannot be shown.
Where all can be taken, the attendees are the texts of the candidates that are not empty, each once, in
the order in which they first occur. Named once more they are the same, and so they are when they are
read back from the argument in which the service gets them.
-/
theorem attendees_lists_candidates (v : Value)
    : (attendees v = .error (.field .attendeesShape) ↔ candidates? v = none)
      ∧ (∀ candidates, candidates? v = some candidates →
          (∀ e, attendees v = .error e ↔ ∃ w, candidates.find? isUnfit = some w ∧ e = faultOver w)
          ∧ ∀ found, attendees v = .ok found
              ↔ (∀ w ∈ candidates, isUnfit w = false)
                ∧ ListsOnce found (candidates.map addressOf))
      ∧ ∀ found, attendees v = .ok found →
          attendees (.list (found.map .text)) = .ok found
            ∧ Event.attendeeTexts (Operation.attendeeArgs found) = .ok found := by
  refine ⟨attendees_eq_shape_iff, ?_, ?_⟩
  . intro candidates hcandidates
    exact ⟨fun e => attendees_eq_error_iff hcandidates, fun found => attendees_eq_ok_iff hcandidates⟩
  . intro found hfound
    have hattendees := attendees_eq_ok hfound
    exact ⟨hattendees.attendees_texts, hattendees.attendeeTexts_args⟩

end

def invited : List Value :=
  [.text " b@x.org\n", .null, .map [("email", .text "a@x.org"), ("name", .text "A")],
   .map [("name", .text "B")], .text "b@x.org"]

section

open scoped Rehearsal

theorem attendees_lists_candidates_invited
    : (attendees (.list invited) = .ok ["b@x.org", "a@x.org"]
        ∧ attendees (.list [.text "b@x.org", .text "a@x.org"]) = .ok ["b@x.org", "a@x.org"]
        ∧ Event.attendeeTexts (Operation.attendeeArgs ["b@x.org", "a@x.org"])
          = .ok ["b@x.org", "a@x.org"])
      ∧ attendees (.text "a@x.org, b@x, c") = .error (.field (.address "b@x")) := by
  obtain ⟨-, htaken, hagain⟩ := attendees_lists_candidates (.list invited)
  have hlists : ListsOnce ["b@x.org", "a@x.org"] (invited.map addressOf) :=
    eq_distinctTexts_iff.mp (by decide +kernel)
  have hfound := ((htaken invited rfl).2 _).mpr ⟨by decide +kernel, hlists⟩
  refine ⟨⟨hfound, hagain _ hfound⟩, ?_⟩
  have hparts : candidates? (.text "a@x.org, b@x, c")
      = some [.text "a@x.org", .text " b@x", .text " c"] := rfl
  have hfirst : isUnfit (.text "a@x.org") = false := by decide +kernel
  have hsecond : isUnfit (.text " b@x") = true := by decide +kernel
  obtain ⟨-, hrefused, -⟩ := attendees_lists_candidates (.text "a@x.org, b@x, c")
  refine ((hrefused _ hparts).1 _).mpr ⟨.text " b@x", ?_, by decide +kernel⟩
  simp [hfirst, hsecond]

end

theorem not_isAddress_of_not_mem (h : '@' ∉ s.toList) : isAddress s = false := by
  have hbody (t : List Char) (ht : '@' ∉ t) : isAddressBody t = false := by
    have hnone : t.dropWhile (· ≠ '@') = [] := by
      rw [List.dropWhile_eq_nil_iff]
      intro c hc
      simpa using ne_of_mem_of_not_mem hc ht
    unfold isAddressBody
    dsimp only
    rw [hnone]
  unfold isAddress
  dsimp only
  split
  . exact hbody _ fun hmem => h ((List.dropLast_sublist _).subset hmem)
  . exact hbody _ h

theorem mem_quoted_nested {n : Nat} {c : Char} (h : c ∈ (Rehearsal.nested n).quoted.toList)
    : c = '[' ∨ c = ']' := by
  induction n with
  | zero => simpa [Rehearsal.nested, Value.quoted, Value.quotedItems, Text.joined] using h
  | succ n ih =>
    simp only [Rehearsal.nested, Value.quoted, Value.quotedItems, Text.joined,
      String.toList_append, List.mem_append] at h
    obtain (h | h) | h := h
    . exact .inl (by simpa using h)
    . exact ih h
    . exact .inr (by simpa using h)

section

open scoped Rehearsal

/--
There is a list with a candidate that is no address over which the list is not refused, as the refusal
would have to show it.
-/
theorem not_forall_attendees_refuses
    : ¬ ∀ (items : List Value) (w : Value), w ∈ items → isMisaddressed w = true →
        ∃ fault, attendees (.list items) = .error (.field fault) := by
  intro hall
  let w := Rehearsal.nested 1014
  have hflaw : w.flaw? = some .tooDeep := Rehearsal.flaw?_nested (by decide)
  have htext : addressOf w = Text.strip w.quoted := rfl
  have hmisaddressed : isMisaddressed w = true := by
    have hne : Text.strip w.quoted ≠ "" := (Value.hasInk_shown (v := w) rfl).strip_ne_empty
    have haddress : isAddress (Text.strip w.quoted) = false := by
      apply not_isAddress_of_not_mem
      intro hmem
      unfold Text.strip at hmem
      rw [String.toList_ofList] at hmem
      cases mem_quoted_nested (Text.mem_of_mem_trim hmem) with
      | inl h => cases h
      | inr h => cases h
    simp [isMisaddressed, htext, hne, haddress]
  obtain ⟨fault, hfault⟩ := hall [w] w List.mem_cons_self hmisaddressed
  obtain ⟨found, hfound, hfault⟩ := (attendees_eq_error_iff rfl).mp hfault
  cases List.mem_singleton.mp (List.mem_of_find?_eq_some hfound)
  have hvalue : (attendeeValue w).flaw? = some .tooDeep := hflaw
  rw [faultOver, hvalue] at hfault
  cases hfault

end

end Field

end Datebook
