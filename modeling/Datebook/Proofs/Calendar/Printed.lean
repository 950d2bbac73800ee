import Datebook.Proofs.Calendar.Title

/-!
This module contains the verification of the reading of calendars against the way in which they are
printed: which calendars come back from their listing, and that only those do.
-/

namespace Datebook

section

variable {α : Type} {part : List α} {a : α}

theorem List.prefix_append_cons_iff (h : a ∉ part) (s t : List α)
    : part <+: s ++ a :: t ↔ part <+: s := by
  induction s generalizing part with
  | nil =>
    cases part with
    | nil => simp
    | cons b part =>
      rw [List.mem_cons, not_or] at h
      simp [List.cons_prefix_cons, Ne.symm h.1]
  | cons c s ih =>
    cases part with
    | nil => simp
    | cons b part =>
      rw [List.mem_cons, not_or] at h
      rw [List.cons_append, List.cons_prefix_cons, List.cons_prefix_cons, ih h.2]

theorem List.infix_append_cons_iff (h : a ∉ part) (s t : List α)
    : part <:+: s ++ a :: t ↔ part <:+: s ∨ part <:+: t := by
  induction s with
  | nil =>
    rw [List.nil_append, List.infix_cons_iff, ← List.nil_append (a :: t),
      List.prefix_append_cons_iff h, List.prefix_nil, List.infix_nil]
  | cons c s ih =>
    rw [List.cons_append, List.infix_cons_iff, ← List.cons_append, List.prefix_append_cons_iff h,
      ih, List.infix_cons_iff, or_assoc]

end

namespace Calendar

open Text (SetsApart IsSingle inkedLines isSingle_append not_blank_append)

/--
What is printed after the identifier of a calendar.
-/
def mark (c : Calendar) : String :=
  if c.primary then " - PRIMARY" else ""

def title (c : Calendar) : String :=
  c.summary ++ " (" ++ c.id ++ ")" ++ c.mark

def detailLines (c : Calendar) : List String :=
  (c.timeZone.map ("Timezone: " ++ ·)).toList ++ (c.accessRole.map ("Access Role: " ++ ·)).toList

def printed (c : Calendar) : String :=
  Text.joined "\n" (c.title :: c.detailLines)

/--
Whether a text is a listing of some calendars: each one printed, with blank lines between them.
-/
inductive Lists : List Calendar → String → Prop
  | none : Lists [] ""
  | last (c : Calendar) : Lists [c] c.printed
  | next (c : Calendar) {gap s : String} {rest : List Calendar} (hgap : SetsApart gap)
    (hrest : Lists rest s) : Lists (c :: rest) (c.printed ++ gap ++ s)

def details (c : Calendar) : List String :=
  c.timeZone.toList ++ c.accessRole.toList

/--
Whether a calendar can be printed: its name is trimmed and not empty, its identifier holds no blanks
and no parentheses, and everything fits on its line.
-/
structure IsListable (c : Calendar) : Prop where
  named : c.summary ≠ ""
  trimmed : Text.IsTrimmed c.summary
  single : IsSingle c.summary
  plain : ∀ d ∈ c.id.toList, Text.isBlank d = false ∧ d ≠ '(' ∧ d ≠ ')'
  detailed : ∀ d ∈ c.details, IsSingle d

instance (c : Calendar) : Decidable c.IsListable :=
  decidable_of_iff
    (c.summary ≠ "" ∧ Text.strip c.summary = c.summary ∧ IsSingle c.summary
      ∧ (c.id.toList.all fun d => !Text.isBlank d && isPlain d) = true
      ∧ (c.details.all fun d => decide (IsSingle d)) = true)
    (by
      simp only [List.all_eq_true, Bool.and_eq_true, Bool.not_eq_true', isPlain_iff,
        decide_eq_true_eq]
      exact ⟨fun ⟨named, trimmed, single, plain, detailed⟩ =>
          ⟨named, trimmed, single, plain, detailed⟩,
        fun h => ⟨h.named, h.trimmed, h.single, h.plain, h.detailed⟩⟩)

/--
Whether a calendar is told apart from everything else that its lines could mean.
-/
structure IsLegible (c : Calendar) : Prop where
  identified : c.id ≠ ""
  unlabelled : ¬ IsLabelled c.summary.toList
  unnumbered : ¬ IsNumbered c.summary.toList
  bare : ¬ Encloses c.summary.toList
  unmarked : c.primary = false → ¬ "PRIMARY".toList <:+: c.summary.toList
    ∧ ¬ "PRIMARY".toList <:+: c.id.toList
  detailed : ∀ d ∈ c.details, Text.IsTrimmed d ∧ d ≠ ""

section

variable {c r : Calendar}

theorem containsText_iff {part s : List Char} : containsText part s = true ↔ part <:+: s := by
  induction s with
  | nil => simp [containsText]
  | cons c s ih =>
    rw [containsText, Bool.or_eq_true, ih, List.isPrefixOf_iff_prefix, List.infix_cons_iff]

theorem toList_title (c : Calendar)
    : c.title.toList
        = c.summary.toList ++ ' ' :: '(' :: (c.id.toList ++ ')' :: c.mark.toList) := by
  simp [title]

theorem paren_not_mem_mark (c : Calendar) : '(' ∉ c.mark.toList := by
  unfold mark
  split
  . decide
  . decide

theorem IsListable.trim_summary (h : c.IsListable) : Text.trim c.summary.toList = c.summary.toList :=
  h.trimmed.trim_eq

theorem IsListable.summary_ne_nil (h : c.IsListable) : c.summary.toList ≠ [] :=
  fun hnil => h.named (String.toList_eq_nil_iff.mp hnil)

theorem IsListable.isPlain_id (h : c.IsListable) : ∀ d ∈ c.id.toList, isPlain d = true :=
  fun d hd => isPlain_iff.mpr (h.plain d hd).2

theorem announced?_title (h : c.IsListable) (hid : c.id ≠ "")
    (hlabel : ¬ IsLabelled c.summary.toList) (hnumber : ¬ IsNumbered c.summary.toList)
    (hbare : ¬ Encloses c.summary.toList)
    : announced? c.title.toList
        = some
          { id := c.id
            summary := c.summary
            primary := containsText "PRIMARY".toList c.title.toList } := by
  have hidne : c.id.toList ≠ [] := fun hnil => hid (String.toList_eq_nil_iff.mp hnil)
  have hunlabelled : Listing.labelled? c.title.toList = none := by
    rw [labelled?_eq_none_iff, toList_title, isLabelled_append]
    exact hlabel
  have hfind : (nameStarts c.title.toList).findSome? nameAndId?
      = some (c.summary.toList, c.id.toList) := by
    rw [toList_title]
    exact findSome?_title_eq h.trim_summary h.summary_ne_nil hidne h.isPlain_id (paren_not_mem_mark c)
      hnumber hbare
  have hspace : ' ' ∉ c.id.toList := fun hmem => absurd (h.plain ' ' hmem).1 (by decide)
  unfold announced? ofLine?
  rw [hunlabelled, hfind]
  dsimp only
  rw [Text.trim_of_all fun d hd => (h.plain d hd).1, h.trim_summary, if_neg (by simp [hid, hspace]),
    String.ofList_toList, String.ofList_toList]

theorem of_announced?_title (h : c.IsListable) (hr : announced? c.title.toList = some r)
    (hid : r.id = c.id) (hsummary : r.summary = c.summary)
    : c.id ≠ "" ∧ ¬ IsLabelled c.summary.toList ∧ ¬ IsNumbered c.summary.toList
        ∧ ¬ Encloses c.summary.toList := by
  obtain ⟨hunlabelled, name, id, hfind, hread, rfl⟩ := announced?_eq_some hr
  rw [labelled?_eq_none_iff, toList_title, isLabelled_append] at hunlabelled
  rw [toList_title] at hfind
  dsimp only at hid hsummary
  have hidne : c.id ≠ "" := by
    rw [← hid, Ne, String.ofList_eq_empty_iff]
    exact hread
  have hshort : ¬ (IsNumbered c.summary.toList ∨ Encloses c.summary.toList) := by
    intro hshort
    obtain ⟨shorter, other, heq, hlength⟩ := exists_shorter_title h.trim_summary h.summary_ne_nil
      (fun hnil => hidne (String.toList_eq_nil_iff.mp hnil)) h.isPlain_id (paren_not_mem_mark c)
      hshort
    rw [heq] at hfind
    cases hfind
    rw [← hsummary, String.toList_ofList] at hlength
    exact absurd (Text.length_trim_le name) (Nat.not_le.mpr hlength)
  rw [not_or] at hshort
  exact ⟨hidne, hunlabelled, hshort⟩

theorem containsText_title
    : containsText "PRIMARY".toList c.title.toList = c.primary
      ↔ (c.primary = false → ¬ "PRIMARY".toList <:+: c.summary.toList
        ∧ ¬ "PRIMARY".toList <:+: c.id.toList) := by
  cases hprimary : c.primary with
  | true =>
    have hmark : c.mark = " - PRIMARY" := by simp [mark, hprimary]
    simp only [reduceCtorEq, false_implies, iff_true]
    rw [containsText_iff]
    refine ⟨c.summary.toList ++ ' ' :: '(' :: (c.id.toList ++ ") - ".toList), [], ?_⟩
    rw [toList_title, hmark]
    simp
  | false =>
    have hmark : c.mark = "" := by simp [mark, hprimary]
    rw [← Bool.not_eq_true, containsText_iff, toList_title, hmark,
      List.infix_append_cons_iff (by decide), ← List.nil_append ('(' :: _),
      List.infix_append_cons_iff (by decide), List.infix_append_cons_iff (by decide)]
    simp

/-! The lines of a calendar -/

theorem not_blank_title (c : Calendar) : c.title.toList.all Text.isBlank = false := by
  rw [toList_title, List.all_eq_false]
  exact ⟨'(', by simp, by decide⟩

theorem IsListable.isSingle_title (h : c.IsListable) : IsSingle c.title := by
  have hid : IsSingle c.id := by
    intro d hd
    by_contra hbreak
    have hblank := Text.isBlank_of_isLineBreak (by simpa using hbreak)
    rw [(h.plain d hd).1] at hblank
    cases hblank
  have hmark : IsSingle c.mark := by
    unfold mark
    split
    . decide
    . decide
  unfold title
  exact isSingle_append (isSingle_append (isSingle_append
    (isSingle_append h.single (by decide)) hid) (by decide)) hmark

theorem inkedLines_printed (h : c.IsListable)
    : inkedLines c.printed.toList = c.title.toList :: c.detailLines.map String.toList := by
  unfold printed
  apply Text.inkedLines_joined
  rw [List.forall_mem_cons]
  refine ⟨⟨h.isSingle_title, not_blank_title c⟩, ?_⟩
  intro s hs
  rw [detailLines, List.mem_append, Option.mem_toList, Option.mem_toList, Option.map_eq_some_iff,
    Option.map_eq_some_iff] at hs
  obtain ⟨detail, hdetail, rfl⟩ | ⟨detail, hdetail, rfl⟩ := hs
  . have hmem : detail ∈ c.details := by simp [details, hdetail]
    exact ⟨isSingle_append (by decide) (h.detailed detail hmem), not_blank_append (by decide)⟩
  . have hmem : detail ∈ c.details := by simp [details, hdetail]
    exact ⟨isSingle_append (by decide) (h.detailed detail hmem), not_blank_append (by decide)⟩

def heard? (detail : String) : Option String :=
  Listing.nonempty? (Text.strip detail)

theorem fields_of_announced? {line : List Char} (h : announced? line = some r)
    : r.primary = containsText "PRIMARY".toList line ∧ r.timeZone = none ∧ r.accessRole = none := by
  obtain ⟨-, name, id, -, -, rfl⟩ := announced?_eq_some h
  exact ⟨rfl, rfl, rfl⟩

theorem addLine_detail (lead label : String) (hlead : lead.toList.all Text.isBlank = false)
    (hlabel : ∀ s, Listing.labelled? (lead ++ s).toList = some ⟨label, Text.strip s⟩)
    (detail : String) (calendars : List Calendar)
    : addLine calendars (lead ++ detail).toList
        = updateLast (addDetail label (Text.strip detail)) calendars := by
  unfold addLine
  rw [not_blank_append hlead, hlabel]
  rfl

theorem foldl_detail {lead : String} {tell : Option String → Calendar → Calendar}
    (hline : ∀ detail calendars,
      addLine calendars (lead ++ detail).toList = updateLast (tell (heard? detail)) calendars)
    {announced : Option Calendar} (hnone : ∀ r ∈ announced, tell none r = r)
    (detail : Option String)
    : ((detail.map (lead ++ ·)).toList.map String.toList).foldl addLine announced.toList
        = (announced.map (tell (detail.bind heard?))).toList := by
  cases detail with
  | none =>
    cases announced with
    | none => rfl
    | some r => exact congrArg (fun told => [told]) (hnone r rfl).symm
  | some detail =>
    show addLine announced.toList (lead ++ detail).toList = _
    rw [hline]
    cases announced with
    | none => rfl
    | some r => rfl

def withTimeZone (timeZone : Option String) (c : Calendar) : Calendar :=
  { c with timeZone }

def withAccessRole (accessRole : Option String) (c : Calendar) : Calendar :=
  { c with accessRole }

theorem addLine_timeZone (detail : String) (calendars : List Calendar)
    : addLine calendars ("Timezone: " ++ detail).toList
        = updateLast (withTimeZone (heard? detail)) calendars := by
  apply addLine_detail "Timezone: " "timezone" (by decide)
  intro s
  rw [String.toList_append]
  rfl

theorem addLine_accessRole (detail : String) (calendars : List Calendar)
    : addLine calendars ("Access Role: " ++ detail).toList
        = updateLast (withAccessRole (heard? detail)) calendars := by
  apply addLine_detail "Access Role: " "access role" (by decide)
  intro s
  rw [String.toList_append]
  rfl

theorem ofListing_printed (h : c.IsListable)
    : ofListing c.printed
        = ((announced? c.title.toList).map fun r =>
          withAccessRole (c.accessRole.bind heard?)
            (withTimeZone (c.timeZone.bind heard?) r)).toList := by
  rw [ofListing_eq, inkedLines_printed h, List.foldl_cons, addLine_eq (not_blank_title c),
    updateLast_nil, List.nil_append, detailLines, List.map_append, List.foldl_append,
    foldl_detail addLine_timeZone, foldl_detail addLine_accessRole, Option.map_map]
  . rfl
  . intro r hr
    obtain ⟨told, htold, rfl⟩ := Option.map_eq_some_iff.mp hr
    obtain ⟨-, -, hnone⟩ := fields_of_announced? htold
    unfold withAccessRole withTimeZone
    rw [← hnone]
  . intro r hr
    obtain ⟨-, hnone, -⟩ := fields_of_announced? hr
    unfold withTimeZone
    rw [← hnone]

theorem bind_heard?_eq_iff {detail : Option String}
    : detail.bind heard? = detail ↔ ∀ s ∈ detail, Text.IsTrimmed s ∧ s ≠ "" := by
  cases detail with
  | none => simp
  | some s =>
    simp only [Option.bind_some, Option.mem_def, Option.some.injEq, forall_eq']
    unfold heard? Listing.nonempty? Text.IsTrimmed
    split
    . next hempty =>
      rw [hempty]
      constructor
      . nofun
      . rintro ⟨heq, hne⟩
        exact absurd heq.symm hne
    . next hempty =>
      rw [Option.some.injEq]
      exact ⟨fun heq => ⟨heq, heq ▸ hempty⟩, And.left⟩

theorem forall_mem_details {p : String → Prop}
    : (∀ d ∈ c.details, p d) ↔ (∀ d ∈ c.timeZone, p d) ∧ ∀ d ∈ c.accessRole, p d := by
  simp [details, or_imp, forall_and]

theorem ofListing_printed_iff (h : c.IsListable) : ofListing c.printed = [c] ↔ c.IsLegible := by
  rw [ofListing_printed h]
  constructor
  . intro heq
    cases hannounced : announced? c.title.toList with
    | none =>
      rw [hannounced] at heq
      cases heq
    | some r =>
      rw [hannounced, Option.map_some, Option.toList_some, List.cons.injEq] at heq
      unfold withAccessRole withTimeZone at heq
      have hprimary : r.primary = c.primary := by rw [← heq.1]
      have hzone := bind_heard?_eq_iff.mp (congrArg timeZone heq.1)
      have hrole := bind_heard?_eq_iff.mp (congrArg accessRole heq.1)
      obtain ⟨hid, hlabel, hnumber, hbare⟩ := of_announced?_title h hannounced (by rw [← heq.1])
        (by rw [← heq.1])
      rw [(fields_of_announced? hannounced).1] at hprimary
      exact ⟨hid, hlabel, hnumber, hbare, containsText_title.mp hprimary,
        forall_mem_details.mpr ⟨hzone, hrole⟩⟩
  . intro hlegible
    obtain ⟨hzone, hrole⟩ := forall_mem_details.mp hlegible.detailed
    rw [announced?_title h hlegible.identified hlegible.unlabelled hlegible.unnumbered hlegible.bare,
      containsText_title.mpr hlegible.unmarked, Option.map_some, Option.toList_some,
      bind_heard?_eq_iff.mpr hzone, bind_heard?_eq_iff.mpr hrole]
    rfl

theorem length_ofListing_printed (h : c.IsListable) : (ofListing c.printed).length ≤ 1 := by
  rw [ofListing_printed h]
  cases announced? c.title.toList with
  | none => exact Nat.zero_le 1
  | some r => exact Nat.le_refl 1

/-! Listings -/

variable {cs : List Calendar} {s : String}

theorem Lists.length_le (h : Lists cs s) (hall : ∀ c ∈ cs, c.IsListable)
    : (ofListing s).length ≤ cs.length := by
  induction h with
  | none => exact Nat.le_refl 0
  | last c => exact length_ofListing_printed (hall c List.mem_cons_self)
  | next c hgap hrest ih =>
    rw [List.forall_mem_cons] at hall
    have hfirst := length_ofListing_printed hall.1
    have hothers := ih hall.2
    rw [ofListing_append hgap, List.length_append, length_updateLast, List.length_cons]
    omega

theorem isSome_announced?_title (h : c.IsListable) (hread : ofListing c.printed = [c])
    : (announced? c.title.toList).isSome = true := by
  rw [ofListing_printed h] at hread
  cases hannounced : announced? c.title.toList with
  | none =>
    rw [hannounced] at hread
    cases hread
  | some r => rfl

theorem Lists.opens (h : Lists cs s) (hall : ∀ c ∈ cs, c.IsListable)
    (hread : ∀ c ∈ cs, ofListing c.printed = [c]) : Opens s := by
  intro line hline
  cases h with
  | none => cases hline
  | last c =>
    rw [List.forall_mem_singleton] at hall hread
    rw [inkedLines_printed hall, List.head?_cons, Option.mem_some_iff] at hline
    rw [← hline]
    exact isSome_announced?_title hall hread
  | next c hgap hrest =>
    rw [List.forall_mem_cons] at hall hread
    rw [Text.inkedLines_apart hgap, inkedLines_printed hall.1, List.cons_append, List.head?_cons,
      Option.mem_some_iff] at hline
    rw [← hline]
    exact isSome_announced?_title hall.1 hread.1

theorem Lists.ofListing_eq_iff (h : Lists cs s) (hall : ∀ c ∈ cs, c.IsListable)
    : ofListing s = cs ↔ ∀ c ∈ cs, ofListing c.printed = [c] := by
  induction h with
  | none => simp [ofListing, Text.lines]
  | last c => simp
  | @next c gap s rest hgap hrest ih =>
    rw [List.forall_mem_cons] at hall
    rw [List.forall_mem_cons]
    constructor
    . intro heq
      have heq : updateLast (strayed (inkedLines s.toList)) (ofListing c.printed) ++ ofListing s
          = [c] ++ rest := by
        rw [← ofListing_append hgap]
        exact heq
      -- No text gives more calendars than it lists, so each of the two parts gives its own.
      have hlength := congrArg List.length heq
      have hfirst := length_ofListing_printed hall.1
      have hothers := hrest.length_le hall.2
      rw [List.length_append, length_updateLast, List.length_append, List.length_singleton] at hlength
      obtain ⟨hc, hothers⟩ := List.append_inj heq
        (by rw [length_updateLast, List.length_singleton]; omega)
      have hread := (ih hall.2).mp hothers
      rw [updateLast_of_forall (hrest.opens hall.2 hread).strayed_eq] at hc
      exact ⟨hc, hread⟩
    . rintro ⟨hfirst, hread⟩
      rw [ofListing_append_opens hgap (hrest.opens hall.2 hread), hfirst, (ih hall.2).mpr hread]
      rfl

/--
The calendars of a listing come back, all of them, in order and with their details, exactly if each of
them is legible.
-/
theorem ofListing_listed (h : Lists cs s) (hall : ∀ c ∈ cs, c.IsListable)
    : ofListing s = cs ↔ ∀ c ∈ cs, c.IsLegible := by
  rw [h.ofListing_eq_iff hall]
  constructor
  . intro hread c hc
    exact (ofListing_printed_iff (hall c hc)).mp (hread c hc)
  . intro hlegible c hc
    exact (ofListing_printed_iff (hall c hc)).mpr (hlegible c hc)

end

def home : Calendar :=
  { id := "h@x", summary := "(Home) 10:30", primary := true, accessRole := some "reader" }

def work : Calendar :=
  { id := "w@x", summary := "Work", timeZone := some "UTC" }

def birthdays : Calendar :=
  { id := "f@x", summary := "Family: birthdays", timeZone := some "Asia/Kolkata" }

def school : Calendar :=
  { id := "s@x", summary := "PRIMARY school" }

theorem ofListing_listed_home_and_work
    : ofListing (home.printed ++ "\n\n" ++ work.printed) = [home, work]
        ∧ home.IsLegible ∧ work.IsLegible := by
  have hlists : Lists [home, work] (home.printed ++ "\n\n" ++ work.printed) :=
    .next home Text.setsApart_newlines (.last work)
  have hread : ofListing (home.printed ++ "\n\n" ++ work.printed) = [home, work] := by
    decide +kernel
  have hlegible := (ofListing_listed hlists
    (by decide +kernel)).mp hread
  exact ⟨hread, hlegible home (by simp), hlegible work (by simp)⟩

/--
So there are listings whose calendars do not come back. In one of them a calendar is lost and its time
zone goes to the calendar before it, and the calendar after it is taken for the primary one.
-/
theorem not_forall_ofListing_listed
    : ¬ ∀ (cs : List Calendar) (s : String), Lists cs s → (∀ c ∈ cs, c.IsListable)
        → ofListing s = cs := by
  intro hall
  have hlists : Lists [work, birthdays, school]
      (work.printed ++ "\n\n" ++ (birthdays.printed ++ "\n\n" ++ school.printed)) :=
    .next work Text.setsApart_newlines (.next birthdays Text.setsApart_newlines (.last school))
  have heq := hall _ _ hlists (by decide +kernel)
  have hread : ofListing
      (work.printed ++ "\n\n" ++ (birthdays.printed ++ "\n\n" ++ school.printed))
        = [{ work with timeZone := some "Asia/Kolkata" }, { school with primary := true }] := by
    decide +kernel
  rw [hread] at heq
  revert heq
  decide

end Calendar

end Datebook
