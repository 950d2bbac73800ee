import Datebook.Command
import Datebook.Field
import Datebook.Proofs.Fault
import Datebook.Proofs.Text

/-!
This module contains the verification of the fields of a command: what holds of a text, of addresses
and of calendars once they are accepted, and what keeps them from being accepted.
-/

namespace Datebook

namespace Value

theorem hasInk_shown {v : Value} (h : v.isAbsent = false) : Text.HasInk v.shown.toList := by
  cases v with
  | null => cases h
  | bool b =>
    cases b with
    | true => exact ⟨'T', by decide, by decide⟩
    | false => exact ⟨'F', by decide, by decide⟩
  | int i => exact Text.hasInk_toString i
  | float x => exact Binary64.hasInk_write _ x
  | text s =>
    unfold isAbsent at h
    rw [List.all_eq_false] at h
    obtain ⟨c, hmem, hc⟩ := h
    exact ⟨c, hmem, by simpa using hc⟩
  | list items =>
    refine ⟨'[', ?_, by decide⟩
    simp [shown, quoted]
  | map fields =>
    refine ⟨'\x7b', ?_, by decide⟩
    simp [shown, quoted]
  | date d =>
    refine ⟨'-', ?_, by decide⟩
    simp [shown, ClockReading.dateText]
  | moment m =>
    refine ⟨'-', ?_, by decide⟩
    simp [shown, Moment.text, ClockReading.text, ClockReading.dateText]

@[simp]
theorem flaw?_null [Host] : Value.null.flaw? = none :=
  rfl

@[simp]
theorem flaw?_text [Host] (s : String) : (Value.text s).flaw? = none :=
  rfl

theorem isShowable_eq_true [Host] {v : Value} : v.isShowable = true ↔ v.flaw? = none :=
  Option.isNone_iff_eq_none

theorem isShowable_eq_false [Host] {v : Value}
    : v.isShowable = false ↔ ∃ flaw, v.flaw? = some flaw := by
  unfold isShowable
  rw [Option.isNone_eq_false_iff, Option.isSome_iff_exists]

theorem ne_null_of_not_showable [Host] {v : Value} (h : v.isShowable = false) : v ≠ .null := by
  rintro rfl
  cases h

end Value

namespace Command

theorem isAbsent_param (params : Fields) (names : List String)
    : (param params names).isAbsent = names.all fun name => (Fields.get params name).isAbsent := by
  induction names with
  | nil => rfl
  | cons name rest ih =>
    unfold param
    dsimp only
    rw [List.all_cons]
    split
    . next h => rw [ih, h, Bool.true_and]
    . next h => simp [h]

theorem param_eq_null {params : Fields} {names : List String}
    (h : (param params names).isAbsent = true) : param params names = .null := by
  induction names with
  | nil => rfl
  | cons name rest ih =>
    unfold param at h ⊢
    dsimp only at h ⊢
    split at h
    . next habsent =>
      rw [if_pos habsent]
      exact ih h
    . next hgiven => exact absurd h hgiven

end Command

namespace Field

variable {v : Value} {s : String}

def plainText : Value → String
  | .null => ""
  | v => Text.strip v.shown

theorem isTrimmed_plainText (v : Value) : Text.IsTrimmed (plainText v) := by
  unfold plainText
  split
  . rfl
  . apply Text.isTrimmed_strip

theorem plainText_eq_empty_iff : plainText v = "" ↔ v.isAbsent = true := by
  constructor
  . intro hempty
    cases hgiven : v.isAbsent with
    | true => rfl
    | false =>
      have hink := (Value.hasInk_shown hgiven).strip_ne_empty
      cases v with
      | null => cases hgiven
      | _ => exact absurd hempty hink
  . intro habsent
    cases v with
    | text s => exact Text.strip_eq_empty_iff.mpr habsent
    | null => rfl
    | _ => cases habsent

def AreAddresses (addresses : List String) : Prop :=
  addresses.Nodup ∧ ∀ a ∈ addresses, isAddress a = true

structure AreAttendees (texts : List String) : Prop where
  addresses : AreAddresses texts
  given : ∀ s ∈ texts, Text.IsTrimmed s ∧ s ≠ ""

theorem AreAttendees.concat {addresses : List String} (h : AreAttendees addresses)
    (hnew : s ∉ addresses) (haddress : isAddress s = true) (htrimmed : Text.IsTrimmed s)
    (hne : s ≠ "") : AreAttendees (addresses ++ [s]) := by
  refine ⟨⟨?_, ?_⟩, ?_⟩
  . rw [List.nodup_append]
    refine ⟨h.addresses.1, by simp, ?_⟩
    intro a ha b hb
    rw [List.mem_singleton] at hb
    rintro rfl
    exact hnew (hb ▸ ha)
  . intro a ha
    rw [List.mem_append, List.mem_singleton] at ha
    cases ha with
    | inl ha => exact h.addresses.2 a ha
    | inr ha => rwa [ha]
  . intro a ha
    rw [List.mem_append, List.mem_singleton] at ha
    cases ha with
    | inl ha => exact h.given a ha
    | inr ha =>
      rw [ha]
      exact ⟨htrimmed, hne⟩

theorem distinctTexts_spec {collected : List String} (texts : List String)
    (hnodup : collected.Nodup) (hne : "" ∉ collected)
    : (distinctTexts collected texts).Nodup ∧ "" ∉ distinctTexts collected texts := by
  induction texts generalizing collected with
  | nil => exact ⟨hnodup, hne⟩
  | cons s rest ih =>
    unfold distinctTexts
    split
    . exact ih hnodup hne
    . next hnew =>
      rw [not_or] at hnew
      apply ih
      . rw [List.nodup_append]
        refine ⟨hnodup, by simp, ?_⟩
        intro a ha b hb
        rw [List.mem_singleton] at hb
        rintro rfl
        exact hnew.2 (hb ▸ ha)
      . rw [List.mem_append, List.mem_singleton, not_or]
        exact ⟨hne, fun h => hnew.1 h.symm⟩

theorem mem_distinctTexts {collected texts : List String}
    : s ∈ distinctTexts collected texts ↔ s ∈ collected ∨ (s ∈ texts ∧ s ≠ "") := by
  induction texts generalizing collected with
  | nil => simp [distinctTexts]
  | cons t rest ih =>
    unfold distinctTexts
    split
    . next hold =>
      rw [ih, List.mem_cons]
      grind
    . next hnew =>
      rw [ih, List.mem_append, List.mem_singleton, List.mem_cons]
      grind

/--
Whether texts can name calendars: there is at least one, none of them is empty, each is there once.
-/
def AreCalendars (ids : List String) : Prop :=
  ids ≠ [] ∧ ids.Nodup ∧ "" ∉ ids

theorem minutes_failsOnly (v : Value) : FailsOnly Fault.IsLocal (minutes v) := by
  unfold minutes
  split
  . simp
  . simp [Fault.IsLocal, Fault.IsCrash]
  . split
    . simp
    . simp [Fault.IsLocal, Fault.IsRefusal]
  . split
    . simp
    . simp [Fault.IsLocal, Fault.IsRefusal]
  . simp [Fault.IsLocal, Fault.IsRefusal]

theorem duration_failsOnly (v default : Value) : FailsOnly Fault.IsLocal (duration v default) := by
  unfold duration
  split
  . simp
  . split
    . next e he =>
      rw [FailsOnly.error]
      exact minutes_failsOnly v e he
    . split
      . simp
      . simp [Fault.IsLocal, Fault.IsRefusal]

theorem duration_eq_ok {default minutes : Value} (h : duration v default = .ok minutes)
    : v.isAbsent = true ∧ minutes = default
        ∨ v.isAbsent = false ∧ ∃ n, minutes = .int n ∧ minDuration ≤ n ∧ n ≤ maxDuration := by
  unfold duration at h
  split at h
  . next habsent =>
    injection h with h
    exact .inl ⟨habsent, h.symm⟩
  . next hgiven =>
    split at h
    . cases h
    . split at h
      . next hrange =>
        injection h with h
        exact .inr ⟨by simpa using hgiven, _, h.symm, hrange⟩
      . cases h

variable [Host]

theorem text_eq (v : Value)
    : text v
        = match v.flaw? with
          | none => .ok (plainText v)
          | some flaw => .error (.crash (.unshown flaw)) := by
  cases v with
  | null => rfl
  | _ => rfl

theorem text_eq_ok : text v = .ok s ↔ v.isShowable = true ∧ s = plainText v := by
  rw [text_eq, Value.isShowable_eq_true]
  cases v.flaw? with
  | none => simp [eq_comm]
  | some flaw => simp

theorem text_failsOnly (v : Value) : FailsOnly Fault.IsCrash (text v) := by
  rw [text_eq]
  cases v.flaw? with
  | none => simp
  | some flaw => simp [Fault.IsCrash]

theorem text_crashes : Crashes (text v) ↔ v.isShowable = false := by
  rw [text_eq, Value.isShowable]
  cases v.flaw? with
  | none => simp
  | some flaw => simp [Fault.IsCrash]

theorem isTrimmed_of_text (h : text v = .ok s) : Text.IsTrimmed s := by
  rw [text_eq_ok] at h
  exact h.2 ▸ isTrimmed_plainText v

theorem text_eq_empty_iff (h : text v = .ok s) : s = "" ↔ v.isAbsent = true := by
  rw [(text_eq_ok.mp h).2, plainText_eq_empty_iff]

theorem nonemptyText?_eq_ok {found : Option String} (h : nonemptyText? v = .ok found)
    : ∀ s ∈ found, Text.IsTrimmed s ∧ s ≠ "" := by
  unfold nonemptyText? at h
  rw [Except.bind_eq_ok] at h
  obtain ⟨s, hs, h⟩ := h
  injection h with h
  subst h
  split
  . simp
  . next hne =>
    simp only [Option.mem_some]
    rintro _ rfl
    exact ⟨isTrimmed_of_text hs, hne⟩

theorem nonemptyText?_eq (v : Value)
    : nonemptyText? v
        = match v.flaw? with
          | none => .ok (if v.isAbsent then none else some (plainText v))
          | some flaw => .error (.crash (.unshown flaw)) := by
  unfold nonemptyText?
  rw [text_eq]
  cases v.flaw? with
  | none => simp [bind, Except.bind, plainText_eq_empty_iff]
  | some flaw => rfl

theorem nonemptyText?_failsOnly (v : Value) : FailsOnly Fault.IsCrash (nonemptyText? v) := by
  unfold nonemptyText?
  apply FailsOnly.bind (text_failsOnly v)
  simp

theorem nonemptyText?_crashes : Crashes (nonemptyText? v) ↔ v.isShowable = false := by
  unfold nonemptyText?
  simp [Crashes.bind, text_crashes]

theorem required_eq_ok {field : String} (h : required v field = .ok s)
    : Text.IsTrimmed s ∧ s ≠ "" := by
  unfold required at h
  split at h
  . cases h
  . rw [Except.bind_eq_ok] at h
    obtain ⟨found, hfound, h⟩ := h
    split at h
    . cases h
    . next hne =>
      injection h with h
      subst h
      exact ⟨isTrimmed_of_text hfound, hne⟩

theorem required_failsOnly (v : Value) (field : String)
    : FailsOnly Fault.IsLocal (required v field) := by
  unfold required
  split
  . simp [Fault.IsLocal, Fault.IsRefusal]
  . apply FailsOnly.bind (text_failsOnly _).isLocal
    intro found _
    split
    . simp [Fault.IsLocal, Fault.IsRefusal]
    . simp

theorem isTrimmed_of_attendeeText (h : attendeeText v = .ok s) : Text.IsTrimmed s := by
  unfold attendeeText at h
  split at h
  . exact isTrimmed_of_text h
  . exact isTrimmed_of_text h

theorem collectAddresses_eq_ok {collected addresses : List String} {candidates : List Value}
    (hcollected : AreAttendees collected) (h : collectAddresses collected candidates = .ok addresses)
    : AreAttendees addresses := by
  induction candidates generalizing collected with
  | nil =>
    injection h with h
    rwa [← h]
  | cons v rest ih =>
    unfold collectAddresses at h
    split at h
    . cases h
    . next s hs =>
      split at h
      . exact ih hcollected h
      . next hne =>
        split at h
        . cases h
        . next haddress =>
          split at h
          . exact ih hcollected h
          . next hnew =>
            -- Only here the collection grows, by an address that it does not have yet.
            rw [Bool.not_eq_true', Bool.not_eq_false] at haddress
            exact ih (hcollected.concat hnew haddress (isTrimmed_of_attendeeText hs) hne) h

theorem attendeeText_failsOnly (v : Value) : FailsOnly Fault.IsCrash (attendeeText v) := by
  unfold attendeeText
  split
  . apply text_failsOnly
  . apply text_failsOnly

theorem collectAddresses_failsOnly (collected : List String) (candidates : List Value)
    : FailsOnly Fault.IsLocal (collectAddresses collected candidates) := by
  induction candidates generalizing collected with
  | nil => simp [collectAddresses]
  | cons v rest ih =>
    unfold collectAddresses
    split
    . next e he =>
      rw [FailsOnly.error]
      exact .inr (attendeeText_failsOnly v e he)
    . split
      . apply ih
      . split
        . simp [Fault.IsLocal, Fault.IsRefusal]
        . split
          . apply ih
          . apply ih

theorem attendees_eq_ok {addresses : List String} (h : attendees v = .ok addresses)
    : AreAttendees addresses := by
  have hnil : AreAttendees [] := ⟨⟨List.nodup_nil, by simp⟩, by simp⟩
  unfold attendees at h
  split at h
  . injection h with h
    rwa [← h]
  . split at h
    . cases h
    . exact collectAddresses_eq_ok hnil h

theorem attendees_failsOnly (v : Value) : FailsOnly Fault.IsLocal (attendees v) := by
  unfold attendees
  split
  . simp
  . split
    . simp [Fault.IsLocal, Fault.IsRefusal]
    . apply collectAddresses_failsOnly

theorem calendars_eq_ok {default : String} {ids : List String} (hdefault : default ≠ "")
    (h : calendars v default = .ok ids) : AreCalendars ids := by
  unfold calendars at h
  dsimp only at h
  split at h
  . cases h
  . next items _ =>
    rw [Except.bind_eq_ok] at h
    obtain ⟨texts, -, h⟩ := h
    injection h with h
    subst h
    obtain ⟨hnodup, hne⟩ := distinctTexts_spec texts List.nodup_nil (by simp)
    split
    . refine ⟨by simp, by simp, ?_⟩
      simpa using hdefault
    . next hsome =>
      rw [List.isEmpty_iff] at hsome
      exact ⟨hsome, hnodup, hne⟩

theorem calendarText_failsOnly (v : Value) : FailsOnly Fault.IsCrash (calendarText v) := by
  unfold calendarText
  split
  . apply text_failsOnly
  . apply text_failsOnly

theorem calendars_failsOnly (v : Value) (default : String)
    : FailsOnly Fault.IsLocal (calendars v default) := by
  unfold calendars
  dsimp only
  split
  . simp [Fault.IsLocal, Fault.IsRefusal]
  . apply FailsOnly.bind (FailsOnly.mapM fun w _ => (calendarText_failsOnly w).isLocal)
    simp

end Field

end Datebook
