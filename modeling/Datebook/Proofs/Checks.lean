import Datebook.Proofs.Attendees
import Datebook.Proofs.Time.Zone
import Datebook.Proofs.Validation

/-!
This module contains the verification of which parameters break off the work on a command: its checks
in the order in which they are made, each told by what it accepts and by what it breaks off over.
-/

namespace Datebook

open Timestamp (ofValue)

inductive Value.IsPart : Value → Value → Prop
  | self (v : Value) : IsPart v v
  | item {w v : Value} {items : List Value} : v ∈ items → IsPart w v → IsPart w (.list items)
  | field {w v : Value} {name : String} {fields : Fields}
      : (name, v) ∈ fields → IsPart w v → IsPart w (.map fields)

/--
Whether two times are in order as far as they can be read, both cut down to a millisecond.
-/
def Timestamp.InOrder (v w : Value) : Prop :=
  ∀ t u, ofValue v = .ok t → ofValue w = .ok u → Instant.floorMilli t < Instant.floorMilli u

theorem Timestamp.exists_normalize {v : Value}
    : (∃ s, normalize v = .ok s) ↔ ∃ t, ofValue v = .ok t := by
  unfold normalize
  cases ofValue v with
  | error e => simp
  | ok t => simp

namespace Field

variable {v : Value}

inductive Lasts : Value → Int → Prop
  | int (i : Int) : Lasts (.int i) i
  | float {x : Binary64} {i : Int} : x.truncate? = some i → Lasts (.float x) i
  | text {s : String} {i : Int} : Numeral.int? s = some i → Lasts (.text s) i

theorem minutes_eq_ok {n : Int} : minutes v = .ok n ↔ Lasts v n := by
  constructor
  . intro h
    unfold minutes at h
    split at h
    . cases h
      exact .int _
    . cases h
    . split at h
      . next hn =>
        cases h
        exact .float hn
      . cases h
    . split at h
      . next hn =>
        cases h
        exact .text hn
      . cases h
    . cases h
  . intro h
    cases h with
    | int => rfl
    | @float x _ hn =>
      cases x with
      | infinite negative => cases hn
      | _ => simp [minutes, hn]
    | text hn => simp [minutes, hn]

theorem minutes_crashes : Crashes (minutes v) ↔ ∃ negative, v = .float (.infinite negative) := by
  unfold minutes
  split
  . simp
  . next negative => simp [Fault.IsCrash]
  . next x hx =>
    split
    . simpa using hx
    . simpa [Fault.IsCrash] using hx
  . split
    . simp
    . simp [Fault.IsCrash]
  . next hfloat _ =>
    simp only [Crashes.error, Fault.IsCrash, false_iff, not_exists]
    rintro negative rfl
    exact hfloat _ rfl

inductive Rules : Value → List String → Prop
  | null : Rules .null []
  | text (rule : String) : Rules (.text rule) [rule]
  | list (rules : List String) : Rules (.list (rules.map .text)) rules

theorem texts?_eq_some {items : List Value} {texts : List String}
    : texts? items = some texts ↔ items = texts.map .text := by
  induction items generalizing texts with
  | nil => cases texts <;> simp [texts?]
  | cons v rest ih =>
    cases v with
    | text s =>
      rw [texts?, Option.map_eq_some_iff]
      simp only [ih]
      constructor
      . rintro ⟨texts, rfl, rfl⟩
        rfl
      . intro h
        cases texts with
        | nil => cases h
        | cons t texts =>
          rw [List.map_cons, List.cons.injEq] at h
          cases h.1
          exact ⟨texts, h.2, rfl⟩
    | _ => cases texts <;> simp [texts?]

theorem recurrence_eq_ok {found : List String}
    : recurrence v = .ok found
        ↔ ∃ rules, Rules v rules ∧ (rules.map Text.strip).filter (· ≠ "") = found := by
  constructor
  . intro h
    unfold recurrence at h
    cases v with
    | null =>
      cases h
      exact ⟨[], .null, rfl⟩
    | text s =>
      cases h
      exact ⟨[s], .text s, rfl⟩
    | list items =>
      dsimp only at h
      split at h
      . cases h
      . next rules hrules =>
        cases h
        rw [texts?_eq_some.mp hrules]
        exact ⟨rules, .list rules, rfl⟩
    | _ => cases h
  . rintro ⟨rules, hrules, rfl⟩
    unfold recurrence
    cases hrules with
    | null => rfl
    | text s => rfl
    | list rules =>
      dsimp only
      rw [texts?_eq_some.mpr rfl]

theorem recurrence_ne_nil {found : List String} (h : recurrence v = .ok found)
    : found ≠ [] ↔ ∃ rules, Rules v rules ∧ ∃ rule ∈ rules, Text.strip rule ≠ "" := by
  have hsome (rules : List String) : (rules.map Text.strip).filter (· ≠ "") ≠ []
      ↔ ∃ rule ∈ rules, Text.strip rule ≠ "" := by
    simp
  constructor
  . intro hne
    obtain ⟨rules, hrules, rfl⟩ := recurrence_eq_ok.mp h
    exact ⟨rules, hrules, (hsome rules).mp hne⟩
  . rintro ⟨rules, hrules, hrule⟩
    rw [recurrence_eq_ok.mpr ⟨rules, hrules, rfl⟩] at h
    cases h
    exact (hsome rules).mpr hrule

def calendarValue : Value → Value
  | .map fields => Fields.get fields "id"
  | v => v

end Field

theorem Changes.eventArgs_isEmpty (c : Changes)
    : c.eventArgs.isEmpty = true
        ↔ c.title = "" ∧ c.description = "" ∧ c.location = "" ∧ c.start = none ∧ c.finish = none
          ∧ c.zone = none ∧ c.attendees = none ∧ c.colorId = "" ∧ c.recurrence = [] := by
  have htext (name s : String) : Operation.optionalArg name s = [] ↔ s = "" := by
    simp [Operation.optionalArg]
  have htime (name : String) (stamp : Option String) : optionalTime name stamp = [] ↔ stamp = none := by
    cases stamp <;> simp [optionalTime]
  have hlist (name : String) (texts : List String)
      : Operation.optionalList name texts = [] ↔ texts = [] := by
    simp [Operation.optionalList]
  unfold eventArgs
  simp only [List.isEmpty_iff, List.append_eq_nil_iff, htext, htime, hlist, and_assoc]
  cases c.attendees with
  | none => simp
  | some addresses => simp

theorem checkOrder_stamp {t u : Int} (ht : Instant.isSupported t = true)
    (hu : Instant.isSupported u = true)
    : checkOrder (.text (Instant.stamp t)) (.text (Instant.stamp u))
        = if Instant.floorMilli t < Instant.floorMilli u then .ok ()
          else .error (.field (.order "end")) := by
  unfold checkOrder
  rw [Timestamp.ofValue_of_denotes (Timestamp.denotes_stamp ht),
    Timestamp.ofValue_of_denotes (Timestamp.denotes_stamp hu)]
  simp only [Except.mapError_ok, bind, Except.bind]
  by_cases hlt : Instant.floorMilli t < Instant.floorMilli u
  . rw [if_pos hlt, if_neg (Int.not_le.mpr hlt)]
  . rw [if_neg hlt, if_pos (Int.not_lt.mp hlt)]

namespace Operation

variable {params : Fields} {name other : String}

theorem exists_of_requiredTime {stamp : String} (h : requiredTime params name other = .ok stamp)
    : ∃ t, ofValue (Command.param params [name, other]) = .ok t ∧ stamp = Instant.stamp t := by
  unfold requiredTime at h
  split at h
  . cases h
  . rw [Except.mapError_eq_ok] at h
    obtain ⟨t, ht, -, hstamp⟩ := Timestamp.exists_of_normalize h
    exact ⟨t, ht, hstamp⟩

theorem exists_of_optionalTime {found : Option String}
    (h : optionalTime params name other = .ok found)
    : (Command.param params [name, other] = .null ∧ found = none)
        ∨ ∃ t, ofValue (Command.param params [name, other]) = .ok t
          ∧ found = some (Instant.stamp t) := by
  unfold optionalTime at h
  split at h
  . next hnull =>
    cases h
    exact .inl ⟨hnull, rfl⟩
  . split at h
    . cases h
    . next s hs =>
      cases h
      obtain ⟨t, ht, -, rfl⟩ := Timestamp.exists_of_normalize hs
      exact .inr ⟨t, ht, rfl⟩

theorem optionalTime_eq_none {found : Option String}
    (h : optionalTime params name other = .ok found)
    : found = none ↔ Command.param params [name, other] = .null := by
  obtain ⟨hnull, rfl⟩ | ⟨t, ht, rfl⟩ := exists_of_optionalTime h
  . exact iff_of_true rfl hnull
  . refine iff_of_false nofun fun hnull => ?_
    rw [hnull] at ht
    cases ht

end Operation

variable [Host] {prefs : Preferences} {now : Instant} {params : Fields} {v : Value}

namespace Value

/--
Whether a value has a part that cannot be shown, or one that is infinite.
-/
def IsAwkward (v : Value) : Prop :=
  ∃ w : Value, w.IsPart v ∧ (w.isShowable = false ∨ ∃ negative, w = .float (.infinite negative))

theorem IsAwkward.of_not_showable (h : v.isShowable = false) : v.IsAwkward :=
  ⟨v, .self v, .inl h⟩

theorem isPart_get {fields : Fields} {name : String} (h : (Fields.get fields name).isShowable = false)
    : (Fields.get fields name).IsPart (.map fields) := by
  unfold Fields.get at h ⊢
  cases hlookup : fields.lookup name with
  | none =>
    rw [hlookup] at h
    cases h
  | some w =>
    obtain ⟨before, after, hfields, -⟩ := List.lookup_eq_some_iff.mp hlookup
    have hmem : (name, w) ∈ fields := by simp [hfields]
    exact .field hmem (.self w)

end Value

namespace Field

theorem isAwkward_of_candidate {candidates : List Value} {w : Value}
    (hcandidates : candidates? v = some candidates) (hmem : w ∈ candidates)
    (hunshown : (attendeeValue w).isShowable = false) : v.IsAwkward := by
  -- The candidates of a text are texts, and those can be shown.
  cases v with
  | null =>
    cases hcandidates
    cases hmem
  | text s =>
    cases hcandidates
    obtain ⟨part, -, rfl⟩ := List.mem_map.mp hmem
    cases hunshown
  | map fields =>
    cases hcandidates
    cases List.mem_singleton.mp hmem
    exact ⟨_, Value.isPart_get hunshown, .inl hunshown⟩
  | list items =>
    cases hcandidates
    refine ⟨_, .item hmem ?_, .inl hunshown⟩
    cases w with
    | map fields => exact Value.isPart_get hunshown
    | _ => exact .self _
  | _ => cases hcandidates

theorem isAwkward_of_item {items : List Value} {w : Value} (hmem : w ∈ items)
    (hunshown : (calendarValue w).isShowable = false) : (Value.list items).IsAwkward := by
  refine ⟨_, .item hmem ?_, .inl hunshown⟩
  cases w with
  | map fields => exact Value.isPart_get hunshown
  | _ => exact .self _

end Field

/--
A check of the parameters of a command. What it neither accepts nor breaks off over, it refuses; and it
breaks off only over a parameter with an awkward part.
-/
structure Check where
  Accepts : Fields → Prop
  Breaks : Fields → Prop
  awkward : ∀ params, Breaks params → ∃ names, (Command.param params names).IsAwkward

namespace Check

/--
Whether parameters break off a row of checks: they do so at one of them, and all before it accept them.
-/
def Break (params : Fields) : List Check → Prop
  | [] => False
  | check :: rest => check.Breaks params ∨ check.Accepts params ∧ Break params rest

theorem Break.awkward {checks : List Check} (h : Break params checks)
    : ∃ names, (Command.param params names).IsAwkward := by
  induction checks with
  | nil => cases h
  | cons check rest ih =>
    cases h with
    | inl hbreaks => exact check.awkward params hbreaks
    | inr hrest => exact ih hrest.2

/--
Whether a calculation has a result where a check accepts the parameters, and crashes where they break it
off.
-/
structure Settles {α : Type} (check : Check) (params : Fields) (x : Except Fault α) : Prop where
  accepts : (∃ a, x = .ok a) ↔ check.Accepts params
  breaks : Crashes x ↔ check.Breaks params

def plain (accepts : Fields → Prop) : Check := ⟨accepts, fun _ => False, fun _ => False.elim⟩

section

variable {α β : Type} {check : Check} {rest : List Check} {x : Except Fault α}
  {f : α → Except Fault β} {P : Fields → Prop}

theorem Settles.bind (h : check.Settles params x)
    (hrest : ∀ a, x = .ok a → (Crashes (f a) ↔ Break params rest))
    : Crashes (x >>= f) ↔ Break params (check :: rest) := by
  rw [Crashes.bind, Break, h.breaks, ← h.accepts, ← exists_and_right]
  apply or_congr_right
  apply exists_congr
  intro a
  exact and_congr_right (hrest a)

theorem Settles.map (h : check.Settles params x) {g : α → β} : check.Settles params (x.map g) where
  accepts := by
    rw [← h.accepts]
    simp only [Except.map_eq_ok]
    exact ⟨fun ⟨_, a, ha, _⟩ => ⟨a, ha⟩, fun ⟨a, ha⟩ => ⟨_, a, ha, rfl⟩⟩
  breaks := Crashes.map.trans h.breaks

theorem settles_plain (hfails : FailsOnly Fault.IsRefusal x) (hok : (∃ a, x = .ok a) ↔ P params)
    : (plain P).Settles params x where
  accepts := hok
  breaks := iff_of_false (Crashes.of_failsOnly_refusal hfails) id

theorem settles_ok (a : α) (hP : P params) : (plain P).Settles params (.ok a) :=
  settles_plain (FailsOnly.ok a) (iff_of_true ⟨a, rfl⟩ hP)

end

def shown (names : List String) : Check where
  Accepts params := (Command.param params names).isShowable = true
  Breaks params := (Command.param params names).isShowable = false
  awkward _ h := ⟨names, .of_not_showable h⟩

theorem break_plain_cons {P : Fields → Prop} {rest : List Check}
    : Break params (plain P :: rest) ↔ P params ∧ Break params rest :=
  or_iff_right id

theorem break_shown_cons {names : List String} {rest : List Check}
    : Break params (shown names :: rest)
        ↔ (Command.param params names).isShowable = false ∨ Break params rest := by
  rw [Break, shown]
  dsimp only
  cases (Command.param params names).isShowable with
  | true => simp
  | false => simp

def given (names : List String) : Check where
  Accepts params := (Command.param params names).isAbsent = false
    ∧ (Command.param params names).isShowable = true
  Breaks params := (Command.param params names).isShowable = false
  awkward _ h := ⟨names, .of_not_showable h⟩

/--
The check of attendees, which breaks off over the first candidate that it cannot take if this one cannot
be shown.
-/
def attendees : Check where
  Accepts params := ∃ candidates,
    Field.candidates? (Command.param params ["attendees"]) = some candidates
      ∧ candidates.find? Field.isUnfit = none
  Breaks params := ∃ candidates w,
    Field.candidates? (Command.param params ["attendees"]) = some candidates
      ∧ candidates.find? Field.isUnfit = some w ∧ (Field.attendeeValue w).isShowable = false
  awkward := by
    rintro params ⟨candidates, w, hcandidates, hfind, hunshown⟩
    exact ⟨_, Field.isAwkward_of_candidate hcandidates (List.mem_of_find?_eq_some hfind) hunshown⟩

def calendars : Check where
  Accepts params := Command.param params ["calendars"] = .null
    ∨ (∃ s, Command.param params ["calendars"] = .text s)
    ∨ ∃ items, Command.param params ["calendars"] = .list items
      ∧ ∀ w ∈ items, (Field.calendarValue w).isShowable = true
  Breaks params := ∃ items, Command.param params ["calendars"] = .list items
    ∧ ∃ w ∈ items, (Field.calendarValue w).isShowable = false
  awkward := by
    rintro params ⟨items, hitems, w, hmem, hunshown⟩
    exact ⟨_, hitems ▸ Field.isAwkward_of_item hmem hunshown⟩

def duration (names : List String) : Check where
  Accepts params := (Command.param params names).isAbsent = true
    ∨ ∃ n, Field.Lasts (Command.param params names) n
      ∧ Field.minDuration ≤ n ∧ n ≤ Field.maxDuration
  Breaks params := ∃ negative, Command.param params names = .float (.infinite negative)
  awkward _ h := ⟨names, _, .self _, .inr h⟩

def time (names : List String) : Check :=
  plain fun params => ∃ t, ofValue (Command.param params names) = .ok t

def optionalTime (names : List String) : Check :=
  plain fun params => Command.param params names = .null
    ∨ ∃ t, ofValue (Command.param params names) = .ok t

def order : Check :=
  plain fun params => Timestamp.InOrder (Command.param params ["start", "startTime"])
    (Command.param params ["end", "endTime"])

def zone (prefs : Preferences) : Check :=
  plain fun params => ∃ name, Zone.IsChosen (Preferences.zoneParam params) prefs.zone name
    ∧ Zone.isKnown name = true

def optionalZone (prefs : Preferences) : Check :=
  plain fun params => Preferences.zoneParam params = .null
    ∨ ∃ name, Zone.IsChosen (Preferences.zoneParam params) prefs.zone name
      ∧ Zone.isKnown name = true

def window (prefs : Preferences) (now : Instant) (horizon : Length) : Check :=
  plain fun params => ∃ name t u, Zone.IsChosen (Preferences.zoneParam params) prefs.zone name
    ∧ Zone.isKnown name = true
    ∧ Window.IsStart (Command.param params ["timeMin", "start"]) (some horizon) now t
    ∧ Window.IsFinish (Command.param params ["timeMax", "end"]) (some horizon) t u
    ∧ Instant.floorMilli t < Instant.floorMilli u

def rules : Check :=
  plain fun params => ∃ rules, Field.Rules (Command.param params ["recurrence"]) rules

def target : Check :=
  plain fun params => Command.param params ["eventId", "id"] ≠ .null
    ∨ Command.param params ["searchQuery", "query", "search"] ≠ .null

def change : Check :=
  plain fun params =>
    (∃ names ∈ [["title", "summary"], ["description"], ["location"], ["start", "startTime"],
          ["end", "endTime"], ["timeZone", "timezone"], ["attendees"], ["colorId"]],
        Command.param params names ≠ .null)
      ∨ ∃ rules, Field.Rules (Command.param params ["recurrence"]) rules
        ∧ ∃ rule ∈ rules, Text.strip rule ≠ ""

def ofAddress : List Check :=
  [shown ["eventId", "id"], shown ["searchQuery", "query", "search"], target, shown ["calendarId"]]

def ofChanges (prefs : Preferences) : List Check :=
  [shown ["title", "summary"], shown ["description"], shown ["location"],
   optionalTime ["start", "startTime"], optionalTime ["end", "endTime"], order, optionalZone prefs,
   attendees, shown ["colorId"], rules, change, shown ["sendUpdates"]]

end Check

def Kind.checks (kind : Kind) (prefs : Preferences) (now : Instant) : List Check :=
  match kind with
  | create =>
    [.given ["title", "summary"], .time ["start", "startTime"], .time ["end", "endTime"], .order,
     .shown ["calendarId"], .zone prefs, .shown ["description"], .shown ["location"], .attendees,
     .shown ["colorId"], .rules]
  | list => [.window prefs now prefs.listHorizon, .shown ["calendarId"]]
  | search =>
    [.given ["query", "searchQuery", "search"], .window prefs now prefs.searchHorizon,
     .shown ["calendarId"]]
  | freeBusy => [.shown ["calendarId"], .calendars, .window prefs now prefs.freeBusyHorizon]
  | availability =>
    [.duration ["duration", "durationMinutes"], .shown ["calendarId"],
     .window prefs now prefs.availabilityHorizon]
  | update => Check.ofAddress ++ Check.ofChanges prefs
  | delete => Check.ofAddress ++ [.shown ["sendUpdates"]]
  | listCalendars | listColors | currentTime => [.optionalZone prefs]

open Check (Break)

namespace Field

theorem exists_text_iff : (∃ s, text v = .ok s) ↔ v.isShowable = true := by
  simp only [text_eq_ok]
  exact ⟨fun ⟨_, h, _⟩ => h, fun h => ⟨_, h, rfl⟩⟩

theorem text_param_eq_empty_iff {names : List String} {s : String}
    (h : text (Command.param params names) = .ok s) : s = "" ↔ Command.param params names = .null := by
  rw [text_eq_empty_iff h]
  refine ⟨Command.param_eq_null, fun hnull => ?_⟩
  rw [hnull]
  rfl

theorem settles_text (params : Fields) (names : List String)
    : (Check.shown names).Settles params (text (Command.param params names)) :=
  ⟨exists_text_iff, text_crashes⟩

theorem settles_nonemptyText? (params : Fields) (names : List String)
    : (Check.shown names).Settles params (nonemptyText? (Command.param params names)) :=
  (settles_text params names).map (g := fun s => if s = "" then none else some s)

theorem required_eq (v : Value) (field : String)
    : required v field
        = match v.flaw? with
          | none =>
            if v.isAbsent then
              .error (.field (match v with | .null => .missing field | _ => .blank field))
            else .ok (plainText v)
          | some flaw => .error (.crash (.unshown flaw)) := by
  have hrest (hne : required v field
        = text v >>= fun s => if s = "" then .error (.field (.blank field)) else .ok s)
      : required v field
          = match v.flaw? with
            | none => if v.isAbsent then .error (.field (.blank field)) else .ok (plainText v)
            | some flaw => .error (.crash (.unshown flaw)) := by
    rw [hne, text_eq]
    cases v.flaw? with
    | none => simp [bind, Except.bind, plainText_eq_empty_iff]
    | some flaw => rfl
  cases v with
  | null => rfl
  | _ => exact hrest rfl

theorem settles_required (params : Fields) (names : List String) (field : String)
    : (Check.given names).Settles params (required (Command.param params names) field) := by
  rw [required_eq]
  constructor
  . show _ ↔ Value.isAbsent _ = false ∧ Value.isShowable _ = true
    rw [Value.isShowable]
    cases (Command.param params names).flaw? with
    | none => cases (Command.param params names).isAbsent <;> simp
    | some flaw => simp
  . show _ ↔ Value.isShowable _ = false
    rw [Value.isShowable]
    cases (Command.param params names).flaw? with
    | none => cases (Command.param params names).isAbsent <;> simp [Fault.IsCrash]
    | some flaw => simp [Fault.IsCrash]

theorem settles_attendees (params : Fields)
    : Check.attendees.Settles params (attendees (Command.param params ["attendees"])) := by
  rw [attendees_eq]
  constructor
  . show _ ↔ ∃ candidates, _ ∧ _
    cases candidates? (Command.param params ["attendees"]) with
    | none => simp
    | some candidates =>
      simp only [Option.some.injEq, exists_eq_left']
      cases candidates.find? isUnfit with
      | none => simp
      | some w => simp
  . show _ ↔ ∃ candidates w, _ ∧ _ ∧ Value.isShowable _ = false
    cases candidates? (Command.param params ["attendees"]) with
    | none => simp [Fault.IsCrash]
    | some candidates =>
      simp only [Option.some.injEq, exists_and_left, exists_eq_left']
      cases candidates.find? isUnfit with
      | none => simp
      | some w =>
        unfold faultOver Value.isShowable
        cases hflaw : (attendeeValue w).flaw? with
        | none => simp [Fault.IsCrash, hflaw]
        | some flaw => simp [Fault.IsCrash, hflaw]

theorem settles_duration (params : Fields) (names : List String) (default : Value)
    : (Check.duration names).Settles params (duration (Command.param params names) default) := by
  unfold duration
  constructor
  . show _ ↔ Value.isAbsent _ = true ∨ ∃ n, Lasts _ n ∧ _
    simp only [← minutes_eq_ok]
    cases (Command.param params names).isAbsent with
    | true => simp
    | false =>
      cases minutes (Command.param params names) with
      | error e => simp
      | ok n => by_cases hrange : minDuration ≤ n ∧ n ≤ maxDuration <;> simp [hrange]
  . show _ ↔ ∃ negative, _ = Value.float (.infinite negative)
    rw [← minutes_crashes]
    cases habsent : (Command.param params names).isAbsent with
    | true =>
      rw [Command.param_eq_null habsent]
      simp [minutes, Fault.IsCrash]
    | false =>
      cases minutes (Command.param params names) with
      | error e => simp
      | ok n => by_cases hrange : minDuration ≤ n ∧ n ≤ maxDuration <;> simp [hrange, Fault.IsCrash]

theorem calendarText_eq (w : Value) : calendarText w = text (calendarValue w) := by
  cases w with
  | map fields => rfl
  | _ => rfl

theorem calendarTexts_crashes {items : List Value}
    : Crashes (items.mapM calendarText) ↔ ∃ w ∈ items, (calendarValue w).isShowable = false := by
  rw [Crashes.mapM fun w _ => calendarText_failsOnly w]
  simp only [calendarText_eq, text_crashes]

theorem exists_calendarTexts_iff {items : List Value}
    : (∃ texts, items.mapM calendarText = .ok texts)
        ↔ ∀ w ∈ items, (calendarValue w).isShowable = true := by
  rw [(FailsOnly.mapM fun w _ => calendarText_failsOnly w).exists_ok_iff, calendarTexts_crashes]
  simp

theorem settles_calendars (params : Fields) (default : String)
    : Check.calendars.Settles params (calendars (Command.param params ["calendars"]) default) := by
  let named (texts : List String) : List String :=
    if (distinctTexts [] texts).isEmpty then [default] else distinctTexts [] texts
  have hbind (items : List Value)
      : ((∃ ids, (items.mapM calendarText).map named = .ok ids)
          ↔ ∀ w ∈ items, (calendarValue w).isShowable = true)
        ∧ (Crashes ((items.mapM calendarText).map named)
          ↔ ∃ w ∈ items, (calendarValue w).isShowable = false) := by
    rw [← exists_calendarTexts_iff, ← calendarTexts_crashes, Crashes.map]
    simp [Except.map_eq_ok]
  have hparts (parts : List (List Char))
      : ∀ w ∈ parts.map fun part => Value.text (String.ofList part),
          (calendarValue w).isShowable = true := by
    intro w hw
    obtain ⟨part, -, rfl⟩ := List.mem_map.mp hw
    rfl
  unfold calendars Check.calendars
  constructor
  . show _ ↔ _ ∨ _ ∨ _
    cases Command.param params ["calendars"] with
    | null => simp [pure, Except.pure, bind, Except.bind]
    | text s => exact (hbind _).1.trans (iff_of_true (hparts _) (by simp))
    | list items => exact (hbind items).1.trans (by simp)
    | _ => simp
  . show _ ↔ ∃ items, _ ∧ _
    cases Command.param params ["calendars"] with
    | null => simp [pure, Except.pure, bind, Except.bind]
    | text s =>
      refine (hbind _).2.trans (iff_of_false ?_ (by simp))
      rintro ⟨w, hw, hunshown⟩
      rw [hparts _ w hw] at hunshown
      cases hunshown
    | list items => exact (hbind items).2.trans (by simp)
    | _ => simp [Fault.IsCrash]

theorem settles_recurrence (params : Fields)
    : Check.rules.Settles params
        ((recurrence (Command.param params ["recurrence"])).mapError .field) := by
  apply Check.settles_plain (recurrence_failsOnly _)
  simp only [Except.mapError_eq_ok, recurrence_eq_ok]
  exact ⟨fun ⟨_, rules, h, _⟩ => ⟨rules, h⟩, fun ⟨rules, h⟩ => ⟨_, rules, h, rfl⟩⟩

end Field

namespace Preferences

theorem settles_calendarOf (prefs : Preferences) (params : Fields)
    : (Check.shown ["calendarId"]).Settles params (prefs.calendarOf params) :=
  (Field.settles_text params ["calendarId"]).map
    (g := fun given => if given = "" then prefs.calendarId else given)

theorem settles_zoneOf (prefs : Preferences) (params : Fields)
    : (Check.zone prefs).Settles params (prefs.zoneOf params) := by
  apply Check.settles_plain (prefs.zoneOf_failsOnly params)
  unfold zoneOf
  simp only [Zone.resolve_eq_ok]

theorem settles_givenZone (prefs : Preferences) (hgiven : zoneParam params ≠ .null)
    : (Check.optionalZone prefs).Settles params (prefs.zoneOf params) where
  accepts := (prefs.settles_zoneOf params).accepts.trans (or_iff_right hgiven).symm
  breaks := (prefs.settles_zoneOf params).breaks

theorem settles_listingWindow (hnow : Instant.isSupported now = true) (prefs : Preferences)
    (params : Fields) (horizon : Length)
    : (Check.window prefs now horizon).Settles params (prefs.listingWindow now params horizon) := by
  apply Check.settles_plain (prefs.listingWindow_failsOnly params now horizon)
  unfold listingWindow windowOf
  simp only [Window.resolve_eq_ok_iff hnow]
  constructor
  . rintro ⟨w, name, t, u, hchosen, hknown, ht, hu, hlt, -⟩
    exact ⟨name, t, u, hchosen, hknown, ht, hu, hlt⟩
  . rintro ⟨name, t, u, hchosen, hknown, ht, hu, hlt⟩
    exact ⟨_, name, t, u, hchosen, hknown, ht, hu, hlt, rfl⟩

end Preferences

namespace Operation

theorem settles_requiredTime (params : Fields) (name other : String)
    : (Check.time [name, other]).Settles params (requiredTime params name other) := by
  apply Check.settles_plain (requiredTime_failsOnly params name other)
  unfold requiredTime
  split
  . next hnull => simp [hnull, ofValue]
  . simp only [Except.mapError_eq_ok, Timestamp.exists_normalize]

theorem settles_optionalTime (params : Fields) (name other : String)
    : (Check.optionalTime [name, other]).Settles params (optionalTime params name other) := by
  apply Check.settles_plain (optionalTime_failsOnly params name other)
  unfold optionalTime
  split
  . next hnull => simp [hnull]
  . next hgiven =>
    have hne : Command.param params [name, other] ≠ .null := hgiven
    rw [← Timestamp.exists_normalize, or_iff_right hne]
    cases Timestamp.normalize (Command.param params [name, other]) with
    | error e => simp
    | ok s => simp

theorem settles_zoneArgs (prefs : Preferences) (params : Fields)
    : (Check.optionalZone prefs).Settles params (zoneArgs prefs params) := by
  unfold zoneArgs
  split
  . next hnull => exact Check.settles_ok _ (.inl hnull)
  . next hgiven => exact (prefs.settles_givenZone hgiven).map

end Operation

theorem settles_checkOrder {t u : Int}
    (ht : ofValue (Command.param params ["start", "startTime"]) = .ok t)
    (hu : ofValue (Command.param params ["end", "endTime"]) = .ok u)
    : Check.order.Settles params
        (checkOrder (.text (Instant.stamp t)) (.text (Instant.stamp u))) := by
  apply Check.settles_plain (checkOrder_failsOnly _ _)
  rw [checkOrder_stamp (Timestamp.isSupported_of_ofValue ht) (Timestamp.isSupported_of_ofValue hu)]
  unfold Timestamp.InOrder
  split
  . next hlt => simp [ht, hu, hlt]
  . next hnlt => simpa [ht, hu] using hnlt

theorem Draft.crashes_ofParams (prefs : Preferences) (now : Instant) (params : Fields)
    : Crashes (ofParams prefs params) ↔ Break params (Kind.create.checks prefs now) := by
  unfold ofParams
  refine (Field.settles_required params _ _).bind fun title _ => ?_
  refine (Operation.settles_requiredTime params _ _).bind fun start hstart => ?_
  refine (Operation.settles_requiredTime params _ _).bind fun finish hfinish => ?_
  obtain ⟨t, ht, rfl⟩ := Operation.exists_of_requiredTime hstart
  obtain ⟨u, hu, rfl⟩ := Operation.exists_of_requiredTime hfinish
  refine (settles_checkOrder ht hu).bind fun _ _ => ?_
  refine (prefs.settles_calendarOf params).bind fun calendarId _ => ?_
  refine (prefs.settles_zoneOf params).bind fun zone _ => ?_
  refine (Field.settles_text params _).bind fun description _ => ?_
  refine (Field.settles_text params _).bind fun location _ => ?_
  refine (Field.settles_attendees params).bind fun attendees _ => ?_
  refine (Field.settles_nonemptyText? params _).bind fun colorId _ => ?_
  refine (Field.settles_recurrence params).bind fun recurrence _ => ?_
  simp [Break]

namespace Changes

theorem settles_checkBounds {start finish : Option String}
    (hstart : Operation.optionalTime params "start" "startTime" = .ok start)
    (hfinish : Operation.optionalTime params "end" "endTime" = .ok finish)
    : Check.order.Settles params (checkBounds start finish) := by
  -- A bound that is not given does not read as a time, so there is nothing to be in order with.
  obtain ⟨hnull, rfl⟩ | ⟨t, ht, rfl⟩ := Operation.exists_of_optionalTime hstart
  . exact Check.settles_ok _ fun t u ht => by simp [hnull, ofValue] at ht
  . obtain ⟨hnull, rfl⟩ | ⟨u, hu, rfl⟩ := Operation.exists_of_optionalTime hfinish
    . exact Check.settles_ok _ fun t u _ hu => by simp [hnull, ofValue] at hu
    . exact settles_checkOrder ht hu

theorem settles_zoneOf (prefs : Preferences) (params : Fields)
    : (Check.optionalZone prefs).Settles params (zoneOf prefs params) := by
  unfold zoneOf
  split
  . next hnull => exact Check.settles_ok _ (.inl hnull)
  . next hgiven => exact (prefs.settles_givenZone hgiven).map

theorem settles_attendeesOf (params : Fields)
    : Check.attendees.Settles params (attendeesOf params) := by
  have h := Field.settles_attendees params
  unfold attendeesOf
  split
  . next hnull =>
    rw [hnull] at h
    exact h.map (g := fun _ => none)
  . exact h.map

theorem zoneOf_eq_none {found : Option String} (h : zoneOf prefs params = .ok found)
    : found = none ↔ Command.param params ["timeZone", "timezone"] = .null := by
  unfold zoneOf at h
  split at h
  . next hnull =>
    cases h
    exact iff_of_true rfl hnull
  . next hgiven =>
    obtain ⟨zone, -, rfl⟩ := Except.map_eq_ok.mp h
    exact iff_of_false nofun hgiven

theorem attendeesOf_eq_none {found : Option (List String)} (h : attendeesOf params = .ok found)
    : found = none ↔ Command.param params ["attendees"] = .null := by
  unfold attendeesOf at h
  split at h
  . next hnull =>
    cases h
    exact iff_of_true rfl hnull
  . next hgiven =>
    obtain ⟨texts, -, rfl⟩ := Except.map_eq_ok.mp h
    exact iff_of_false nofun hgiven

theorem accepts_change_iff {c : Changes}
    (htitle : Field.text (Command.param params ["title", "summary"]) = .ok c.title)
    (hdescription : Field.text (Command.param params ["description"]) = .ok c.description)
    (hlocation : Field.text (Command.param params ["location"]) = .ok c.location)
    (hstart : Operation.optionalTime params "start" "startTime" = .ok c.start)
    (hfinish : Operation.optionalTime params "end" "endTime" = .ok c.finish)
    (hzone : zoneOf prefs params = .ok c.zone)
    (hattendees : attendeesOf params = .ok c.attendees)
    (hcolorId : Field.text (Command.param params ["colorId"]) = .ok c.colorId)
    (hrecurrence : Field.recurrence (Command.param params ["recurrence"]) = .ok c.recurrence)
    : Check.change.Accepts params ↔ c.eventArgs.isEmpty = false := by
  rw [← Bool.not_eq_true, eventArgs_isEmpty]
  show _ ∨ _ ↔ _
  rw [Field.text_param_eq_empty_iff htitle, Field.text_param_eq_empty_iff hdescription,
    Field.text_param_eq_empty_iff hlocation, Field.text_param_eq_empty_iff hcolorId,
    Operation.optionalTime_eq_none hstart, Operation.optionalTime_eq_none hfinish,
    zoneOf_eq_none hzone, attendeesOf_eq_none hattendees, ← Field.recurrence_ne_nil hrecurrence]
  simp only [List.exists_mem_cons_iff, List.not_mem_nil, false_and, exists_false, or_false]
  tauto

theorem crashes_ofParams (prefs : Preferences) (params : Fields)
    : Crashes (ofParams prefs params) ↔ Break params (Check.ofChanges prefs) := by
  unfold ofParams
  refine (Field.settles_text params _).bind fun title htitle => ?_
  refine (Field.settles_text params _).bind fun description hdescription => ?_
  refine (Field.settles_text params _).bind fun location hlocation => ?_
  refine (Operation.settles_optionalTime params _ _).bind fun start hstart => ?_
  refine (Operation.settles_optionalTime params _ _).bind fun finish hfinish => ?_
  refine (settles_checkBounds hstart hfinish).bind fun _ _ => ?_
  refine (settles_zoneOf prefs params).bind fun zone hzone => ?_
  refine (settles_attendeesOf params).bind fun attendees hattendees => ?_
  refine (Field.settles_text params _).bind fun colorId hcolorId => ?_
  refine (Field.settles_recurrence params).bind fun recurrence hrecurrence => ?_
  rw [Except.mapError_eq_ok] at hrecurrence
  dsimp only
  have hgiven := accepts_change_iff (c := ⟨title, description, location, start, finish, zone, attendees,
    colorId, recurrence, ""⟩) htitle hdescription hlocation hstart hfinish hzone hattendees hcolorId
    hrecurrence
  split
  . next hempty =>
    refine iff_of_false (by simp [Fault.IsCrash]) ?_
    rw [Check.change, Check.break_plain_cons]
    rintro ⟨haccepts, -⟩
    have hsome := hgiven.mp haccepts
    rw [hempty] at hsome
    cases hsome
  . next hsome =>
    have haccepts := hgiven.mpr (Bool.eq_false_iff.mpr hsome)
    refine Iff.trans ?_ (Check.break_plain_cons.trans (and_iff_right haccepts)).symm
    exact (Field.settles_text params _).bind fun sendUpdates _ => by simp [Break]

end Changes

namespace Operation

theorem crashes_after_address {α : Type} {f : Address → String → Except Fault α} {rest : List Check}
    (hrest : ∀ address calendarId, Crashes (f address calendarId) ↔ Break params rest)
    : Crashes (do
          let address ← Address.ofParams params
          let calendarId ← prefs.calendarOf params
          f address calendarId)
        ↔ Break params (Check.ofAddress ++ rest) := by
  unfold Address.ofParams
  simp only [bind_assoc]
  refine (Field.settles_text params _).bind fun eventId hid => ?_
  refine (Field.settles_text params _).bind fun query hquery => ?_
  have hnamed : Check.target.Settles params
      (if eventId = "" ∧ query = "" then .error (.field .noTarget)
        else .ok ⟨eventId, query⟩ : Except Fault Address) := by
    by_cases hnone : eventId = "" ∧ query = ""
    . rw [if_pos hnone]
      refine Check.settles_plain (by simp [Fault.IsRefusal]) ?_
      rw [Ne, Ne, ← Field.text_param_eq_empty_iff hid, ← Field.text_param_eq_empty_iff hquery]
      simp [hnone]
    . rw [if_neg hnone]
      refine Check.settles_ok _ ?_
      rwa [Ne, Ne, ← Field.text_param_eq_empty_iff hid, ← Field.text_param_eq_empty_iff hquery,
        ← not_and_or]
  refine hnamed.bind fun address _ => ?_
  exact (prefs.settles_calendarOf params).bind fun calendarId _ => hrest address calendarId

theorem crashes_updateInput (prefs : Preferences) (now : Instant) (params : Fields)
    : Crashes (updateInput prefs params) ↔ Break params (Kind.update.checks prefs now) := by
  refine crashes_after_address fun address calendarId => ?_
  rw [Crashes.bind, Changes.crashes_ofParams, or_iff_left]
  rintro ⟨changes, -, hcrash⟩
  exact Crashes.ok _ hcrash

theorem crashes_deleteInput (prefs : Preferences) (now : Instant) (params : Fields)
    : Crashes (deleteInput prefs params) ↔ Break params (Kind.delete.checks prefs now) := by
  refine crashes_after_address fun address calendarId => ?_
  exact (Field.settles_text params _).bind fun notified _ => by simp [Break]

end Operation

/--
The search for an event asks for the present day at most, which there is in every known zone.
-/
theorem Address.not_crashes_search (hzone : Zone.isKnown prefs.zone = true)
    (hnow : Instant.isInner now = true) (address : Address) (calendarId : String)
    : ¬ Crashes (address.search prefs now params calendarId) := by
  have htoday : ¬ Crashes (Window.today prefs.zone now) := by
    rw [Window.today_crashes]
    intro hnone
    obtain ⟨zone, hzone⟩ := Option.isSome_iff_exists.mp hzone
    exact hnone zone hzone ((Host.zone?_near hzone).hasToday hnow)
  have hargs (window : Option Window)
      : ¬ Crashes (Target.searchArgs prefs now (.text address.query) window calendarId) := by
    unfold Target.searchArgs
    have hrequired : ¬ Crashes (Field.required (.text address.query) "searchQuery") := by
      rw [Field.required_eq, Value.flaw?_text]
      dsimp only
      split <;> simp [Fault.IsCrash]
    rw [Crashes.bind]
    rintro (hcrash | ⟨query, -, hcrash⟩)
    . exact hrequired hcrash
    . cases window with
      | some window => exact Crashes.ok _ hcrash
      | none =>
        rw [Crashes.bind] at hcrash
        rcases hcrash with hcrash | ⟨window, -, hcrash⟩
        . exact htoday hcrash
        . exact Crashes.ok _ hcrash
  unfold search
  split
  . rw [Crashes.bind]
    rintro (hcrash | ⟨window, -, hcrash⟩)
    . exact Crashes.of_failsOnly_refusal (prefs.targetWindow_failsOnly params now) hcrash
    . rw [Crashes.bind] at hcrash
      rcases hcrash with hcrash | ⟨args, -, hcrash⟩
      . exact hargs window hcrash
      . exact Crashes.ok _ hcrash
  . exact Crashes.ok _

/--
Before the service is asked, the work on a command breaks off exactly as its checks do.
-/
theorem Kind.crashes_errand_iff (kind : Kind) (hzone : Zone.isKnown prefs.zone = true)
    (hnow : Instant.isInner now = true)
    : Crashes (kind.errand prefs now params) ↔ Break params (kind.checks prefs now) := by
  have hsupported := Instant.isSupported_of_isInner hnow
  have hnothing {α : Type} (a : α) : Crashes (.ok a) ↔ Break params [] := iff_of_false (Crashes.ok a) id
  have hsearched {α β : Type} {input : Except Fault (Address × String × α)}
      (g : Address × String × α → Option (String × Fields) → β)
      : Crashes (do
            let given ← input
            let search ← given.1.search prefs now params given.2.1
            .ok (g given search))
          ↔ Crashes input := by
    rw [Crashes.bind, or_iff_left]
    rintro ⟨given, -, hcrash⟩
    rw [Crashes.bind] at hcrash
    obtain hcrash | ⟨search, -, hcrash⟩ := hcrash
    . exact given.1.not_crashes_search hzone hnow given.2.1 hcrash
    . exact Crashes.ok _ hcrash
  cases kind with
  | create =>
    rw [← Draft.crashes_ofParams prefs now params]
    unfold errand Operation.createErrand
    simp [Crashes.bind]
  | list =>
    unfold errand Operation.listArgs
    simp only [bind_assoc]
    refine (prefs.settles_listingWindow hsupported params _).bind fun window _ => ?_
    exact (prefs.settles_calendarOf params).bind fun calendarId _ => hnothing _
  | search =>
    unfold errand Operation.queryArgs
    simp only [bind_assoc]
    refine (Field.settles_required params _ _).bind fun query _ => ?_
    refine (prefs.settles_listingWindow hsupported params _).bind fun window _ => ?_
    exact (prefs.settles_calendarOf params).bind fun calendarId _ => hnothing _
  | freeBusy =>
    unfold errand Operation.busyArgs
    simp only [bind_assoc]
    refine (prefs.settles_calendarOf params).bind fun calendarId _ => ?_
    refine (Field.settles_calendars params _).bind fun ids _ => ?_
    exact (prefs.settles_listingWindow hsupported params _).bind fun window _ => hnothing _
  | availability =>
    unfold errand Operation.availabilityErrand Operation.Inquiry.ofParams
    simp only [bind_assoc]
    refine (Field.settles_duration params _ _).bind fun minutes _ => ?_
    refine (prefs.settles_calendarOf params).bind fun calendarId _ => ?_
    exact (prefs.settles_listingWindow hsupported params _).bind fun window _ => hnothing _
  | listCalendars | listColors | currentTime =>
    exact (Operation.settles_zoneArgs prefs params).bind fun args _ => hnothing _
  | update =>
    rw [← Operation.crashes_updateInput]
    exact hsearched fun input search => _
  | delete =>
    rw [← Operation.crashes_deleteInput]
    exact hsearched fun input search => _

end Datebook
