import Datebook.Proofs.Event
import Datebook.Proofs.Event.Listing
import Mathlib.Data.List.Basic

/-!
This module contains the verification of the reading of events against the way in which they are
printed: which events come back from their listing, whatever the order of their lines.
-/

namespace Datebook

namespace Listing

open Text (IsSingle)

def Item.label : Item → String
  | title => "Event"
  | id => "Event ID"
  | description => "Description"
  | start => "Start"
  | finish => "End"
  | location => "Location"
  | link => "View"
  | status => "Status"
  | attendees => "Attendees"
  | colorId => "Color ID"

/--
The value with which an item of an event is printed; the empty text if there is none. The separator
stands between the attendees.
-/
def valueOf (separator : String) (e : Event) : Item → String
  | .title => e.title
  | .id => e.id.getD ""
  | .description => e.description
  | .start => e.start
  | .finish => e.finish
  | .location => e.location
  | .link => e.link.getD ""
  | .status => e.status.getD ""
  | .attendees => Text.joined separator e.attendees
  | .colorId => e.colorId.getD ""

def lineOf (separator : String) (e : Event) (item : Item) : String :=
  item.label ++ ": " ++ valueOf separator e item

def printedItems (separator : String) (e : Event) : List Item :=
  [Item.id, .start, .finish, .description, .location, .attendees, .status, .colorId, .link].filter
    fun item => valueOf separator e item ≠ ""

def bodyOf (separator : String) (e : Event) (order : List Item) : String :=
  Text.joined "\n" ((Item.title :: order).map (lineOf separator e))

/--
Whether a text is an event as it is printed: a number, then its title, then a line for each of its other
items, in any order.
-/
inductive IsPrinted (e : Event) : String → Prop
  | intro {number separator : String} {order : List Item} (hnumbered : number ≠ "")
      (hnumber : ∀ c ∈ number.toList, Text.isDigit c = true)
      (hseparator : separator = "," ∨ separator = ", ")
      (horder : order.Perm (printedItems separator e))
      : IsPrinted e (number ++ ". " ++ bodyOf separator e order)

def textsOf (e : Event) : List String :=
  [e.title, e.description, e.location] ++ e.id.toList ++ e.colorId.toList ++ e.status.toList
    ++ e.link.toList

/--
Whether an event can be listed: it has an identifier and a title, its times are canonical, its texts
are trimmed and fit on a line, and its attendees can be told apart by commas.
-/
structure IsListable (e : Event) : Prop where
  identified : e.id.getD "" ≠ ""
  titled : e.title ≠ ""
  texts : ∀ s ∈ textsOf e, Text.IsTrimmed s ∧ IsSingle s
  attendees : ∀ a ∈ e.attendees, Text.IsTrimmed a ∧ a ≠ "" ∧ ',' ∉ a.toList
  start : ∃ t, Instant.isSupported t = true ∧ e.start = Instant.stamp t
  finish : ∃ t, Instant.isSupported t = true ∧ e.finish = Instant.stamp t
  calendarId : e.calendarId = none

/--
Whether an event is told completely when it is printed: what may be missing is not there as an empty
text, and each attendee fits on a line.
-/
structure IsTold (e : Event) : Prop where
  optional : ∀ s ∈ [e.colorId, e.status, e.link], s ≠ some ""
  attendees : ∀ a ∈ e.attendees, IsSingle a

section

variable {e : Event} {separator : String} {block : List Char} {events : List Event} {order : List Item}

/-! What is read is told completely. -/

theorem isSingle_first (block : List Char) (item : Item) : IsSingle (first (items block) item) := by
  by_cases hempty : first (items block) item = ""
  . rw [hempty]
    nofun
  . obtain ⟨before, rest, hline, hvalue⟩ := exists_of_mem_items (mem_items_of_first hempty)
    rw [hvalue]
    intro c hc
    rw [String.toList_ofList] at hc
    exact Text.not_isLineBreak_of_mem_lines block _ hline c
      (List.mem_append_right before (Text.mem_of_mem_trim hc))

theorem isSingle_of_mem_commaList {s a : String} (hs : IsSingle s) (h : a ∈ commaList s)
    : IsSingle a := by
  unfold commaList at h
  rw [List.mem_filter, List.mem_map] at h
  obtain ⟨⟨part, hpart, rfl⟩, -⟩ := h
  intro c hc
  rw [String.toList_ofList] at hc
  exact hs c (Text.mem_of_mem_parts hpart (Text.mem_of_mem_trim hc))

theorem nonempty?_ne_some_empty (s : String) : nonempty? s ≠ some "" :=
  fun h => nonempty?_ne_empty h rfl

theorem isTold_of_eventsOf {blocks : List (List Char)} (h : eventsOf blocks = .ok events)
    : ∀ e ∈ events, IsTold e := by
  intro e he
  obtain ⟨block, -, hread⟩ := exists_block_of_eventsOf h he
  obtain ⟨-, -, -, heq⟩ := eventOf_eq_ok_some hread
  rw [heq]
  constructor
  . simp [nonempty?_ne_some_empty]
  . exact fun a ha => isSingle_of_mem_commaList (isSingle_first block .attendees) ha

/-! The lines of a block. -/

theorem labelled?_label (item : Item) (value : String)
    : labelled? (item.label ++ ": " ++ value).toList
        = some ⟨String.ofList (item.label.toList.map Char.toLower), Text.strip value⟩ := by
  obtain ⟨htake, hdrop, htrim, hlabel⟩ :
      item.label.toList.takeWhile (· ≠ ':') = item.label.toList
      ∧ item.label.toList.dropWhile (· ≠ ':') = []
      ∧ Text.trim item.label.toList = item.label.toList ∧ isLabel item.label.toList = true := by
    cases item <;> decide
  have hsplit : (item.label ++ ": " ++ value).toList
      = item.label.toList ++ ':' :: ([' '] ++ value.toList) := by
    simp
  unfold labelled?
  dsimp only
  rw [hsplit, List.takeWhile_append_cons (p := (· ≠ ':')) rfl,
    List.dropWhile_append_cons (p := (· ≠ ':')) rfl, htake, hdrop, htrim, List.nil_append]
  dsimp only
  rw [if_pos hlabel, Text.trim_append_of_blank (List.forall_mem_singleton.mpr rfl)]
  rfl

theorem ofLabel?_label (item : Item)
    : Item.ofLabel? (String.ofList (item.label.toList.map Char.toLower)) = some item := by
  cases item <;> rfl

theorem itemOf_lineOf (isFirst : Bool) (separator : String) (e : Event) (item : Item)
    : itemOf isFirst (lineOf separator e item).toList
        = some (item, Text.strip (valueOf separator e item)) := by
  unfold itemOf lineOf
  dsimp only
  rw [labelled?_label]
  dsimp only
  rw [ofLabel?_label]

theorem exists_gap_of_separator (h : separator = "," ∨ separator = ", ")
    : ∃ gap : List Char, (∀ c ∈ gap, c = ' ') ∧ separator.toList = ',' :: gap := by
  obtain rfl | rfl := h
  . exact ⟨[], List.forall_mem_nil _, rfl⟩
  . exact ⟨[' '], List.forall_mem_singleton.mpr rfl, rfl⟩

theorem map_trim_parts_joined (hseparator : separator = "," ∨ separator = ", ") {as : List String}
    (hsome : as ≠ []) (h : ∀ a ∈ as, Text.IsTrimmed a ∧ ',' ∉ a.toList) {before : List Char}
    (hbefore : ∀ c ∈ before, c = ' ')
    : (Text.parts ',' (before ++ (Text.joined separator as).toList)).map Text.trim
        = as.map String.toList := by
  induction as generalizing before with
  | nil => exact absurd rfl hsome
  | cons a as ih =>
    rw [List.forall_mem_cons] at h
    obtain ⟨⟨htrimmed, ha⟩, hall⟩ := h
    have hblank : ∀ c ∈ before, Text.isBlank c = true := by
      intro c hc
      rw [hbefore c hc]
      rfl
    have hcomma : ',' ∉ before ++ a.toList := by
      rw [List.mem_append, not_or]
      exact ⟨fun hmem => absurd (hbefore _ hmem) (by decide), ha⟩
    cases as with
    | nil =>
      rw [Text.joined, Text.parts_of_not_mem hcomma]
      simp [Text.trim_append_of_blank hblank, htrimmed.trim_eq]
    | cons b as =>
      obtain ⟨gap, hgap, hseparated⟩ := exists_gap_of_separator hseparator
      have hsplit : before ++ (Text.joined separator (a :: b :: as)).toList
          = before ++ a.toList ++ ',' :: (gap ++ (Text.joined separator (b :: as)).toList) := by
        simp [Text.joined, hseparated]
      rw [hsplit, Text.parts_append_cons hcomma, List.map_cons, ih (List.cons_ne_nil b as) hall hgap,
        Text.trim_append_of_blank hblank, htrimmed.trim_eq]
      rfl

theorem isSingle_separator (h : separator = "," ∨ separator = ", ") : IsSingle separator := by
  obtain rfl | rfl := h
  . decide
  . decide

theorem commaList_joined (hseparator : separator = "," ∨ separator = ", ") {as : List String}
    (h : ∀ a ∈ as, Text.IsTrimmed a ∧ a ≠ "" ∧ ',' ∉ a.toList)
    : commaList (Text.joined separator as) = as := by
  by_cases hsome : as = []
  . rw [hsome]
    rfl
  . have hparts := map_trim_parts_joined hseparator hsome (fun a ha => ⟨(h a ha).1, (h a ha).2.2⟩)
      (List.forall_mem_nil _)
    have hkept : as.filter (· ≠ "") = as := by
      rw [List.filter_eq_self]
      intro a ha
      simpa using (h a ha).2.1
    have hmap := congrArg (List.map String.ofList) hparts
    simp only [List.nil_append, List.map_map, Function.comp_def, String.ofList_toList,
      List.map_id'] at hmap
    rw [commaList, hmap, hkept]

/-! An event that can be listed, line by line. -/

theorem IsListable.forall_valueOf (h : IsListable e) {p : String → Prop} (hempty : p "")
    (htexts : ∀ s ∈ textsOf e, p s) (htimes : ∀ t, Instant.isSupported t = true → p (Instant.stamp t))
    (hattendees : p (Text.joined separator e.attendees)) (item : Item)
    : p (valueOf separator e item) := by
  have hoption (o : Option String) (ho : ∀ s ∈ o, s ∈ textsOf e) : p (o.getD "") := by
    cases o with
    | none => exact hempty
    | some s => exact htexts s (ho s rfl)
  cases item with
  | title | description | location => exact htexts _ (by simp [textsOf, valueOf])
  | id => exact hoption e.id (by simp +contextual [textsOf])
  | colorId => exact hoption e.colorId (by simp +contextual [textsOf])
  | status => exact hoption e.status (by simp +contextual [textsOf])
  | link => exact hoption e.link (by simp +contextual [textsOf])
  | attendees => exact hattendees
  | start =>
    obtain ⟨t, ht, hstart⟩ := h.start
    rw [valueOf, hstart]
    exact htimes t ht
  | finish =>
    obtain ⟨t, ht, hfinish⟩ := h.finish
    rw [valueOf, hfinish]
    exact htimes t ht

theorem IsListable.strip_valueOf (h : IsListable e) (item : Item)
    : Text.strip (valueOf separator e item) = valueOf separator e item := by
  apply h.forall_valueOf (p := Text.IsTrimmed)
  . rfl
  . exact fun s hs => (h.texts s hs).1
  . intro t ht
    have hblank := Timestamp.isBlank_of_isStamp (Timestamp.isStamp_stamp ht)
    rw [Text.IsTrimmed, Text.strip, Text.trim_of_all hblank, String.ofList_toList]
  . exact Text.isTrimmed_joined fun a ha => ⟨(h.attendees a ha).1, (h.attendees a ha).2.1⟩

theorem IsListable.isSingle_valueOf (h : IsListable e) (htold : IsTold e)
    (hseparator : IsSingle separator) (item : Item) : IsSingle (valueOf separator e item) := by
  apply h.forall_valueOf
  . nofun
  . exact fun s hs => (h.texts s hs).2
  . intro t ht c hc
    rw [← Bool.not_eq_true]
    intro hbreak
    have hink := Timestamp.isBlank_of_isStamp (Timestamp.isStamp_stamp ht) c hc
    rw [Text.isBlank_of_isLineBreak hbreak] at hink
    cases hink
  . exact Text.isSingle_joined hseparator htold.attendees

theorem exists_head_lineOf (separator : String) (e : Event) (item : Item)
    : ∃ c rest, (lineOf separator e item).toList = c :: rest ∧ LongDate.isLetter c = true := by
  obtain ⟨c, rest, hlabel, hc⟩ : ∃ c rest, item.label.toList = c :: rest
      ∧ LongDate.isLetter c = true := by
    cases item <;> exact ⟨_, _, rfl, by decide⟩
  refine ⟨c, rest ++ ':' :: ' ' :: (valueOf separator e item).toList, ?_, hc⟩
  simp [lineOf, hlabel]

theorem IsListable.isSingle_lineOf (h : IsListable e) (htold : IsTold e)
    (hseparator : IsSingle separator) (item : Item) : IsSingle (lineOf separator e item) := by
  have hlabel : IsSingle item.label := by
    cases item <;> decide
  exact Text.isSingle_append (Text.isSingle_append hlabel (by decide))
    (h.isSingle_valueOf htold hseparator item)

/-! The items of a block. -/

theorem inkedLines_bodyOf (h : IsListable e) (htold : IsTold e) (hseparator : IsSingle separator)
    (order : List Item)
    : Text.inkedLines (bodyOf separator e order).toList
        = (Item.title :: order).map fun item => (lineOf separator e item).toList := by
  unfold bodyOf
  rw [Text.inkedLines_joined, List.map_map]
  . rfl
  . rw [List.forall_mem_map]
    intro item _
    obtain ⟨c, rest, hline, hc⟩ := exists_head_lineOf separator e item
    refine ⟨h.isSingle_lineOf htold hseparator item, ?_⟩
    rw [hline, List.all_cons, LongDate.isBlank_of_isLetter hc, Bool.false_and]

theorem itemsOf_lines (h : IsListable e) (separator : String) (order : List Item)
    : itemsOf ((Item.title :: order).map fun item => (lineOf separator e item).toList)
        = (Item.title :: order).map fun item => (item, valueOf separator e item) := by
  have hline (isFirst : Bool) (item : Item) : itemOf isFirst (lineOf separator e item).toList
      = some (item, valueOf separator e item) := by
    rw [itemOf_lineOf, h.strip_valueOf]
  have hrest : (order.map fun item => (lineOf separator e item).toList).filterMap (itemOf false)
      = order.map fun item => (item, valueOf separator e item) := by
    rw [List.filterMap_map, ← List.filterMap_eq_map]
    exact List.filterMap_congr fun item _ => hline false item
  rw [List.map_cons, itemsOf, hline, hrest]
  rfl

/--
The first value of each item is that of the event, whichever way the lines are ordered, for no item is
printed twice with different values.
-/
theorem first_eq_valueOf (horder : order.Perm (printedItems separator e))
    {told : List (Item × String)}
    (htold : told = (Item.title :: order).map fun item => (item, valueOf separator e item))
    (item : Item) : first told item = valueOf separator e item := by
  unfold first
  rw [htold]
  by_cases hmem : item ∈ Item.title :: order
  . rw [List.lookup_graph _ hmem]
    rfl
  . have hnone : valueOf separator e item = "" := by
      by_contra hsome
      rw [List.mem_cons, not_or, horder.mem_iff, printedItems, List.mem_filter] at hmem
      obtain ⟨htitle, hitem⟩ := hmem
      apply hitem
      refine ⟨?_, by simpa using hsome⟩
      cases item with
      | title => exact absurd rfl htitle
      | _ => simp
    rw [hnone, List.lookup_eq_none_iff.mpr]
    . rfl
    . intro pair hpair
      obtain ⟨other, hother, rfl⟩ := List.mem_map.mp hpair
      rw [bne_iff_ne]
      rintro rfl
      exact hmem hother

theorem stamp_ne_empty {t : Int} (h : Instant.isSupported t = true) : Instant.stamp t ≠ "" := by
  intro hempty
  have hstamp := Timestamp.isStamp_stamp h
  rw [hempty] at hstamp
  cases hstamp

theorem nonempty?_getD {o : Option String} (h : o ≠ some "") : nonempty? (o.getD "") = o := by
  cases o with
  | none => rfl
  | some s =>
    rw [Option.getD_some, nonempty?, if_neg]
    rintro rfl
    exact h rfl

theorem IsListable.eventOf_eq (h : IsListable e) (htold : IsTold e)
    (hseparator : separator = "," ∨ separator = ", ")
    (hfirst : ∀ item, first (items block) item = valueOf separator e item)
    : eventOf block = .ok (some e) := by
  obtain ⟨t, ht, hstart⟩ := h.start
  obtain ⟨u, hu, hfinish⟩ := h.finish
  have htimes : (do
      let start ← EventTime.read (.text e.start)
      let finish ← EventTime.read (.text e.finish)
      Except.ok (start, finish)) = Except.ok (e.start, e.finish) := by
    rw [hstart, hfinish, EventTime.read_stamp ht, EventTime.read_stamp hu]
    rfl
  have hstartSome : e.start ≠ "" := hstart ▸ stamp_ne_empty ht
  have hfinishSome : e.finish ≠ "" := hfinish ▸ stamp_ne_empty hu
  have hid : some (e.id.getD "") = e.id := by
    cases hid : e.id with
    | none => exact absurd (by rw [hid]; rfl) h.identified
    | some id => rfl
  have htitle : (nonempty? e.title).getD Event.untitled = e.title := by
    rw [nonempty?, if_neg h.titled]
    rfl
  have hattendees : commaList (Text.joined separator e.attendees) = e.attendees :=
    commaList_joined hseparator h.attendees
  have hoptional := htold.optional
  simp only [List.forall_mem_cons] at hoptional
  unfold eventOf
  simp only [hfirst, valueOf]
  rw [if_neg (by simp [h.identified, hstartSome, hfinishSome]), htimes]
  simp only [Event.readable?, htitle, hid, hattendees, nonempty?_getD hoptional.1,
    nonempty?_getD hoptional.2.1, nonempty?_getD hoptional.2.2.1]
  rw [← h.calendarId]

theorem IsListable.eventOf_bodyOf (h : IsListable e) (htold : IsTold e)
    (hseparator : separator = "," ∨ separator = ", ")
    (horder : order.Perm (printedItems separator e)) {blank : List Char}
    (hblank : Text.inkedLines ((bodyOf separator e order).toList ++ blank)
      = Text.inkedLines (bodyOf separator e order).toList)
    : eventOf ((bodyOf separator e order).toList ++ blank) = .ok (some e) := by
  apply h.eventOf_eq htold hseparator
  apply first_eq_valueOf horder
  rw [items_eq, hblank, inkedLines_bodyOf h htold (isSingle_separator hseparator), itemsOf_lines h]

end

end Listing

end Datebook
