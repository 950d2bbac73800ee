import Datebook.Proofs.Agenda
import Datebook.Proofs.Answer
import Datebook.Proofs.Validation
import Datebook.Rehearsal.Host
import Datebook.Rehearsal.Service

/-!
This module contains the verification of the arguments with which the service is called.
-/

namespace Datebook

open Timestamp (Denotes Before)

def IsProperText (v : Value) : Prop :=
  ∃ s, v = .text s ∧ Text.IsTrimmed s ∧ s ≠ ""

def requiredArgs : String → List String
  | "create-event" => ["summary", "start", "end"]
  | "list-events" => ["timeMin", "timeMax"]
  | "search-events" => ["query", "timeMin", "timeMax"]
  | "get-freebusy" => ["calendars", "timeMin", "timeMax"]
  | "update-event" | "delete-event" => ["eventId"]
  | _ => []

namespace Operation

variable {P : String × Value → Prop} {name text : String}

theorem forall_mem_optionalArg (h : text ≠ "" → P (name, .text text))
    : ∀ field ∈ optionalArg name text, P field := by
  unfold optionalArg
  split
  . simp
  . next hne => simpa using h hne

theorem forall_mem_optionalList {texts : List String} (h : P (name, .list (texts.map .text)))
    : ∀ field ∈ optionalList name texts, P field := by
  unfold optionalList
  split
  . simp
  . simpa using h

theorem forall_mem_optionalTime {stamp : Option String} (h : ∀ s ∈ stamp, P (name, .text s))
    : ∀ field ∈ Changes.optionalTime name stamp, P field := by
  unfold Changes.optionalTime
  split
  . simp
  . simpa using h

end Operation

namespace Changes

variable {c : Changes} {name calendarId eventId : String} {P : String × Value → Prop}

theorem forall_mem_eventArgs (htitle : c.title ≠ "" → P ("summary", .text c.title))
    (hdescription : P ("description", .text c.description))
    (hlocation : P ("location", .text c.location))
    (hstart : ∀ stamp ∈ c.start, P ("start", .text stamp))
    (hfinish : ∀ stamp ∈ c.finish, P ("end", .text stamp))
    (hzone : ∀ zone ∈ c.zone, P ("timeZone", .text zone))
    (hattendees : ∀ addresses ∈ c.attendees, P ("attendees", Operation.attendeeArgs addresses))
    (hcolor : P ("colorId", .text c.colorId))
    (hrecurrence : P ("recurrence", .list (c.recurrence.map .text)))
    : ∀ field ∈ c.eventArgs, P field := by
  unfold eventArgs
  simp only [List.forall_mem_append]
  refine ⟨⟨⟨⟨⟨⟨⟨⟨?_, ?_⟩, ?_⟩, ?_⟩, ?_⟩, ?_⟩, ?_⟩, ?_⟩, ?_⟩
  . exact Operation.forall_mem_optionalArg htitle
  . exact Operation.forall_mem_optionalArg fun _ => hdescription
  . exact Operation.forall_mem_optionalArg fun _ => hlocation
  . exact Operation.forall_mem_optionalTime hstart
  . exact Operation.forall_mem_optionalTime hfinish
  . exact Operation.forall_mem_optionalTime hzone
  . split
    . simp
    . next addresses haddresses => simpa using hattendees addresses haddresses
  . exact Operation.forall_mem_optionalArg fun _ => hcolor
  . exact Operation.forall_mem_optionalList hrecurrence

theorem eventArgs_spec
    : ∀ field ∈ c.eventArgs, field.1 ∉ ["calendarId", "eventId", "sendUpdates", "timeMin", "timeMax"]
        ∧ (field.1 = "start" → ∃ s ∈ c.start, field.2 = .text s)
        ∧ (field.1 = "end" → ∃ s ∈ c.finish, field.2 = .text s) := by
  apply forall_mem_eventArgs <;> simp

theorem mem_eventArgs_of_mem {v : Value}
    (hname : name ∈ ["start", "end", "timeMin", "timeMax"])
    (h : (name, v) ∈ c.toArgs calendarId eventId) : (name, v) ∈ c.eventArgs := by
  unfold toArgs Operation.optionalArg at h
  simp only [List.mem_append, List.mem_cons, List.not_mem_nil, or_false, Prod.mk.injEq,
    List.mem_ite_nil_left] at h
  obtain ((⟨rfl, -⟩ | ⟨rfl, -⟩) | h) | ⟨-, rfl, -⟩ := h
  . simp at hname
  . simp at hname
  . exact h
  . simp at hname

end Changes

section

variable [Host]

structure IsProperArg (operation name : String) (v : Value) : Prop where
  time : name ∈ ["start", "end", "timeMin", "timeMax"] → ∃ t, Denotes v t
  text : name ∈ ["query", "eventId"] ∨ (operation = "create-event" ∧ name = "summary")
    → IsProperText v
  zone : name = "timeZone" → ∃ zone, v = .text zone ∧ Zone.isKnown zone = true
  attendees : name = "attendees"
    → ∃ addresses, v = Operation.attendeeArgs addresses ∧ Field.AreAddresses addresses
  calendars : name = "calendars"
    → ∃ ids, v = .list (ids.map fun id => .map [("id", .text id)]) ∧ Field.AreCalendars ids

/--
Whether the arguments of an operation are as the service wants them: each of them, the order of the
two bounds, what has to be there, and that there is something to change.
-/
structure IsWellFormed (operation : String) (args : Fields) : Prop where
  proper : ∀ field ∈ args, IsProperArg operation field.1 field.2
  required : ∀ name ∈ requiredArgs operation, ∃ v, (name, v) ∈ args
  event : ∀ start finish, ("start", start) ∈ args → ("end", finish) ∈ args → Before start finish
  window : ∀ start finish, ("timeMin", start) ∈ args → ("timeMax", finish) ∈ args
    → Before start finish
  change : operation = "update-event"
    → ∃ field ∈ args, field.1 ∉ ["calendarId", "eventId", "sendUpdates"]

variable {operation name : String} {v : Value}

section

def formedNames : List String :=
  ["start", "end", "timeMin", "timeMax", "query", "eventId", "summary", "timeZone", "attendees",
   "calendars"]

theorem isProperArg_plain (h : name ∉ formedNames) : IsProperArg operation name v := by
  simp only [formedNames, List.mem_cons, List.not_mem_nil, or_false, not_or] at h
  constructor <;> simp [h]

theorem isProperArg_time {t : Int} (hname : name ∈ ["start", "end", "timeMin", "timeMax"])
    (h : Denotes v t) : IsProperArg operation name v := by
  simp only [List.mem_cons, List.not_mem_nil, or_false] at hname
  obtain rfl | rfl | rfl | rfl := hname
  all_goals exact ⟨fun _ => ⟨t, h⟩, by simp, by simp, by simp, by simp⟩

theorem isProperArg_text (hname : name ∈ ["query", "eventId", "summary"]) (h : IsProperText v)
    : IsProperArg operation name v := by
  simp only [List.mem_cons, List.not_mem_nil, or_false] at hname
  obtain rfl | rfl | rfl := hname
  all_goals exact ⟨by simp, fun _ => h, by simp, by simp, by simp⟩

theorem isProperArg_zone {zone : String} (h : Zone.isKnown zone = true)
    : IsProperArg operation "timeZone" (.text zone) :=
  ⟨by simp, by simp, fun _ => ⟨zone, rfl, h⟩, by simp, by simp⟩

theorem isProperArg_attendees {addresses : List String} (h : Field.AreAddresses addresses)
    : IsProperArg operation "attendees" (Operation.attendeeArgs addresses) :=
  ⟨by simp, by simp, by simp, fun _ => ⟨addresses, rfl, h⟩, by simp⟩

theorem isProperArg_calendars {ids : List String} (h : Field.AreCalendars ids)
    : IsProperArg operation "calendars" (.list (ids.map fun id => .map [("id", .text id)])) :=
  ⟨by simp, by simp, by simp, by simp, fun _ => ⟨ids, rfl, h⟩⟩

end

theorem Window.IsProper.forall_mem {w : Window} (h : w.IsProper)
    : ∀ field ∈ w.toArgs, IsProperArg operation field.1 field.2 := by
  obtain ⟨⟨t, u, ht, hu, -⟩, hknown⟩ := h
  unfold toArgs
  simp only [List.forall_mem_cons]
  exact ⟨isProperArg_time (by simp) ht, isProperArg_time (by simp) hu, isProperArg_zone hknown,
    fun _ h => nomatch h⟩

theorem isWellFormed_window {w : Window} (args : Fields) (hw : w.IsProper)
    (hoperation : operation ≠ "update-event")
    (hargs : ∀ field ∈ args, IsProperArg operation field.1 field.2)
    (hnames : ∀ field ∈ args, field.1 ∉ ["start", "end", "timeMin", "timeMax"])
    (hrequired : ∀ name ∈ requiredArgs operation, name ∉ ["timeMin", "timeMax"]
      → ∃ v, (name, v) ∈ args)
    : IsWellFormed operation (args ++ w.toArgs) := by
  -- The bounds can only come from the window.
  have hbound {name : String} {v : Value} (hname : name ∈ ["start", "end", "timeMin", "timeMax"])
      (h : (name, v) ∈ args ++ w.toArgs) : (name, v) ∈ w.toArgs := by
    rw [List.mem_append] at h
    cases h with
    | inl h => exact absurd hname (hnames _ h)
    | inr h => exact h
  exact
    { proper := by
        rw [List.forall_mem_append]
        exact ⟨hargs, hw.forall_mem⟩
      required := by
        intro name hname
        by_cases hwindow : name ∈ ["timeMin", "timeMax"]
        . simp only [List.mem_cons, List.not_mem_nil, or_false] at hwindow
          obtain rfl | rfl := hwindow
          . exact ⟨.text w.start, by simp [Window.toArgs]⟩
          . exact ⟨.text w.finish, by simp [Window.toArgs]⟩
        . obtain ⟨v, hv⟩ := hrequired name hname hwindow
          exact ⟨v, List.mem_append_left _ hv⟩
      event := by
        intro start finish hstart
        have hstart := hbound (by simp) hstart
        simp [Window.toArgs] at hstart
      window := by
        intro start finish hstart hfinish
        have hstart := hbound (by simp) hstart
        have hfinish := hbound (by simp) hfinish
        simp [Window.toArgs] at hstart hfinish
        rw [hstart, hfinish]
        exact hw.before
      change := fun h => absurd h hoperation }

theorem isWellFormed_search {w : Window} {calendarId query : String} (hw : w.IsProper)
    (hquery : Text.IsTrimmed query ∧ query ≠ "")
    : IsWellFormed "search-events" (Operation.searchArgs calendarId query w) := by
  apply isWellFormed_window [("calendarId", .text calendarId), ("query", .text query)] hw
  . decide
  . simp only [List.forall_mem_cons]
    exact ⟨isProperArg_plain (by simp [formedNames]),
      isProperArg_text (by simp) ⟨query, rfl, hquery⟩, fun _ h => nomatch h⟩
  . simp
  . simp [requiredArgs]

theorem isWellFormed_freeBusy {w : Window} {ids : List String} (hw : w.IsProper)
    (hids : Field.AreCalendars ids)
    : IsWellFormed "get-freebusy" (Operation.freeBusyArgs ids w) := by
  apply isWellFormed_window [("calendars", _)] hw
  . decide
  . simp only [List.forall_mem_cons]
    exact ⟨isProperArg_calendars hids, fun _ h => nomatch h⟩
  . simp
  . simp [requiredArgs]

theorem isWellFormed_delete {calendarId eventId notified : String}
    (hid : Text.IsTrimmed eventId ∧ eventId ≠ "")
    : IsWellFormed "delete-event" (Operation.deleteArgs calendarId eventId notified) where
  proper := by
    unfold Operation.deleteArgs
    simp only [List.forall_mem_cons]
    exact ⟨isProperArg_plain (by simp [formedNames]), isProperArg_text (by simp) ⟨_, rfl, hid⟩,
      isProperArg_plain (by simp [formedNames]), fun _ h => nomatch h⟩
  required := by simp [requiredArgs, Operation.deleteArgs]
  event := by simp [Operation.deleteArgs]
  window := by simp [Operation.deleteArgs]
  change := fun h => absurd h (by decide)

theorem isWellFormed_lookUp {prefs : Preferences} {params args : Fields}
    (hoperation : operation ∈ ["list-calendars", "list-colors", "get-current-time"])
    (h : Operation.zoneArgs prefs params = .ok args) : IsWellFormed operation args := by
  have hargs : args = [] ∨ ∃ zone, args = [("timeZone", .text zone)] ∧ Zone.isKnown zone = true := by
    unfold Operation.zoneArgs at h
    split at h
    . injection h with h
      exact .inl h.symm
    . rw [Except.bind_eq_ok] at h
      obtain ⟨zone, hzone, h⟩ := h
      injection h with h
      exact .inr ⟨zone, h.symm, Zone.isKnown_of_resolve hzone⟩
  have hrequired : requiredArgs operation = [] := by
    simp only [List.mem_cons, List.not_mem_nil, or_false] at hoperation
    obtain rfl | rfl | rfl := hoperation
    all_goals rfl
  obtain rfl | ⟨zone, rfl, hknown⟩ := hargs
  . constructor <;> simp [hrequired]
    rintro rfl
    simp at hoperation
  . exact
      { proper := by
          simp only [List.forall_mem_cons]
          exact ⟨isProperArg_zone hknown, fun _ h => nomatch h⟩
        required := by simp [hrequired]
        event := by simp
        window := by simp
        change := by
          rintro rfl
          simp at hoperation }

namespace Draft

variable {d : Draft}

theorem IsProper.isWellFormed (h : d.IsProper) : IsWellFormed "create-event" d.toArgs := by
  obtain ⟨t, u, ht, hu, -⟩ := h.before
  exact
    { proper := by
        unfold toArgs
        simp only [List.forall_mem_append, List.forall_mem_cons]
        refine ⟨⟨⟨⟨⟨isProperArg_plain (by simp [formedNames]),
          isProperArg_text (by simp) ⟨_, rfl, h.title⟩, isProperArg_plain (by simp [formedNames]),
          isProperArg_time (by simp) ht, isProperArg_time (by simp) hu, isProperArg_zone h.zone,
          fun _ h => nomatch h⟩, ?_⟩, ?_⟩, ?_⟩, ?_⟩
        . exact Operation.forall_mem_optionalArg fun _ => isProperArg_plain (by simp [formedNames])
        . split
          . simp
          . simpa using isProperArg_attendees h.attendees.addresses
        . exact Operation.forall_mem_optionalArg fun _ => isProperArg_plain (by simp [formedNames])
        . exact Operation.forall_mem_optionalList (isProperArg_plain (by simp [formedNames]))
      required := by simp [requiredArgs, toArgs]
      event := by
        intro start finish hstart hfinish
        simp [toArgs, Operation.optionalArg, Operation.optionalList] at hstart hfinish
        rw [hstart, hfinish]
        exact h.before
      window := by
        intro start finish hstart
        simp [toArgs, Operation.optionalArg, Operation.optionalList] at hstart
      change := fun h => absurd h (by decide) }

end Draft

namespace Changes

variable {c : Changes} {calendarId eventId : String}

theorem IsProper.forall_mem (h : c.IsProper)
    : ∀ field ∈ c.eventArgs, IsProperArg "update-event" field.1 field.2 := by
  apply forall_mem_eventArgs
  . intro hne
    exact isProperArg_text (by simp) ⟨_, rfl, h.title, hne⟩
  . exact isProperArg_plain (by simp [formedNames])
  . exact isProperArg_plain (by simp [formedNames])
  . intro stamp hstamp
    obtain ⟨t, ht⟩ := h.start stamp hstamp
    exact isProperArg_time (by simp) ht
  . intro stamp hstamp
    obtain ⟨t, ht⟩ := h.finish stamp hstamp
    exact isProperArg_time (by simp) ht
  . intro zone hzone
    exact isProperArg_zone (h.zone zone hzone)
  . intro addresses haddresses
    exact isProperArg_attendees (h.attendees addresses haddresses).addresses
  . exact isProperArg_plain (by simp [formedNames])
  . exact isProperArg_plain (by simp [formedNames])

theorem IsProper.isWellFormed (h : c.IsProper) (hid : Text.IsTrimmed eventId ∧ eventId ≠ "")
    : IsWellFormed "update-event" (c.toArgs calendarId eventId) where
  proper := by
    unfold toArgs
    simp only [List.forall_mem_append, List.forall_mem_cons]
    refine ⟨⟨⟨isProperArg_plain (by simp [formedNames]), isProperArg_text (by simp) ⟨_, rfl, hid⟩,
      fun _ h => nomatch h⟩, h.forall_mem⟩, ?_⟩
    exact Operation.forall_mem_optionalArg fun _ => isProperArg_plain (by simp [formedNames])
  required := by simp [requiredArgs, toArgs]
  event := by
    intro start finish hstart hfinish
    have hstart := mem_eventArgs_of_mem (by simp) hstart
    have hfinish := mem_eventArgs_of_mem (by simp) hfinish
    obtain ⟨s, hs, rfl⟩ := (eventArgs_spec _ hstart).2.1 rfl
    obtain ⟨f, hf, rfl⟩ := (eventArgs_spec _ hfinish).2.2 rfl
    exact h.before s hs f hf
  window := by
    intro start finish hstart
    have hstart := mem_eventArgs_of_mem (by simp) hstart
    exact absurd (by simp) (eventArgs_spec _ hstart).1
  change := by
    intro _
    obtain ⟨field, hfield⟩ := List.exists_mem_of_ne_nil _ h.some
    refine ⟨field, by simp [toArgs, hfield], ?_⟩
    intro hname
    apply (eventArgs_spec _ hfield).1
    simp only [List.mem_cons, List.not_mem_nil, or_false] at hname ⊢
    obtain hname | hname | hname := hname
    . exact .inl hname
    . exact .inr (.inl hname)
    . exact .inr (.inr (.inl hname))

end Changes

section

variable {prefs : Preferences} {now : Int} {params : Fields} {errand : Errand} {question : Question}
  {target : Option Event}

theorem Preferences.calendarOf_ne_empty {id : String} (hid : prefs.calendarId ≠ "")
    (h : prefs.calendarOf params = .ok id) : id ≠ "" := by
  unfold calendarOf at h
  rw [Except.bind_eq_ok] at h
  obtain ⟨given, -, h⟩ := h
  injection h with h
  subst h
  split
  . exact hid
  . next hgiven => exact hgiven

theorem Preferences.targetWindow_eq_ok {found : Option Window}
    (hnow : Instant.isSupported now = true) (h : prefs.targetWindow now params = .ok found)
    : ∀ w ∈ found, w.IsProper := by
  unfold targetWindow at h
  dsimp only at h
  split at h
  . injection h with h
    simp [← h]
  . rw [Except.map_eq_ok] at h
    obtain ⟨w, hw, rfl⟩ := h
    simpa using Window.resolve_eq_ok hnow hw

/--
What is assumed of the clock and of the default zone: the offsets at the two midnights around the
present day differ by less than a day.
-/
structure IsSettled (prefs : Preferences) (now : Int) : Prop where
  clock : Instant.isSupported now = true
  calendarId : prefs.calendarId ≠ ""
  steady : ∀ zone ∈ Host.zone? prefs.zone, zone.IsSteadyAt now

theorem Target.searchArgs_eq_ok {query calendarId : String} {window : Option Window} {args : Fields}
    (hsettled : IsSettled prefs now) (hwindow : ∀ w ∈ window, w.IsProper)
    (h : searchArgs prefs now (.text query) window calendarId = .ok args)
    : IsWellFormed "search-events" args := by
  have hspec : ∃ id text w, Field.required (.text query) "searchQuery" = .ok text ∧ w.IsProper
      ∧ args = Operation.searchArgs id text w := by
    unfold searchArgs at h
    cases window with
    | none =>
      simp only [Except.bind_eq_ok] at h
      obtain ⟨text, htext, w, hw, h⟩ := h
      injection h with h
      exact ⟨_, text, w, htext, Window.today_eq_ok hsettled.steady hw, h.symm⟩
    | some window =>
      simp only [Except.bind_eq_ok] at h
      obtain ⟨text, htext, w, hw, h⟩ := h
      injection hw with hw
      injection h with h
      exact ⟨_, text, w, htext, hw ▸ hwindow window rfl, h.symm⟩
  obtain ⟨id, text, w, htext, hw, rfl⟩ := hspec
  exact isWellFormed_search hw (Field.required_eq_ok htext)

namespace Address

variable {address : Address} {calendarId : String} {search : Option (String × Fields)}

theorem search_eq_ok (hsettled : IsSettled prefs now)
    (h : address.search prefs now params calendarId = .ok search)
    : ∀ found ∈ search, IsWellFormed "search-events" found.2 := by
  unfold Address.search at h
  split at h
  . simp only [Except.bind_eq_ok] at h
    obtain ⟨window, hwindow, args, hargs, h⟩ := h
    injection h with h
    rw [← h]
    have hproper := Preferences.targetWindow_eq_ok hsettled.clock hwindow
    simpa using Target.searchArgs_eq_ok hsettled hproper hargs
  . injection h with h
    simp [← h]

def IsFound (search : Option (String × Fields)) : Option Event → Prop
  | none => search = none
  | some e => Text.IsTrimmed (e.id.getD "") ∧ e.id.getD "" ≠ ""

theorem idOf_spec (haddress : ofParams params = .ok address)
    (hsearch : address.search prefs now params calendarId = .ok search)
    (htarget : IsFound search target)
    : Text.IsTrimmed (address.idOf target) ∧ address.idOf target ≠ "" := by
  cases target with
  | some e => exact htarget
  | none =>
    constructor
    . unfold ofParams at haddress
      simp only [Except.bind_eq_ok] at haddress
      obtain ⟨eventId, hid, query, -, haddress⟩ := haddress
      split at haddress
      . cases haddress
      . cases haddress
        exact Field.isTrimmed_of_text hid
    . rw [idOf, Ne, ← Address.isSome_search hsearch]
      rw [IsFound] at htarget
      simp [htarget]

end Address

namespace Kind

variable {kind : Kind}

theorem listing_isWellFormed {args : Fields} (hnow : Instant.isSupported now = true)
    (h : Operation.listArgs prefs now params = .ok args) : IsWellFormed "list-events" args := by
  unfold Operation.listArgs at h
  simp only [Except.bind_eq_ok] at h
  obtain ⟨window, hwindow, calendarId, -, h⟩ := h
  injection h with h
  subst h
  apply isWellFormed_window [("calendarId", .text calendarId)]
    (Preferences.listingWindow_eq_ok hnow hwindow)
  . decide
  . simp only [List.forall_mem_cons]
    exact ⟨isProperArg_plain (by simp [formedNames]), fun _ h => nomatch h⟩
  . simp
  . simp [requiredArgs]

theorem query_isWellFormed {args : Fields} (hnow : Instant.isSupported now = true)
    (h : Operation.queryArgs prefs now params = .ok args) : IsWellFormed "search-events" args := by
  unfold Operation.queryArgs at h
  simp only [Except.bind_eq_ok] at h
  obtain ⟨query, hquery, window, hwindow, calendarId, -, h⟩ := h
  injection h with h
  subst h
  exact isWellFormed_search (Preferences.listingWindow_eq_ok hnow hwindow)
    (Field.required_eq_ok hquery)

theorem busy_isWellFormed {args : Fields} (hsettled : IsSettled prefs now)
    (h : Operation.busyArgs prefs now params = .ok args) : IsWellFormed "get-freebusy" args := by
  unfold Operation.busyArgs at h
  simp only [Except.bind_eq_ok] at h
  obtain ⟨calendarId, hcalendar, ids, hids, window, hwindow, h⟩ := h
  injection h with h
  subst h
  exact isWellFormed_freeBusy (Preferences.listingWindow_eq_ok hsettled.clock hwindow)
    (Field.calendars_eq_ok (Preferences.calendarOf_ne_empty hsettled.calendarId hcalendar) hids)

theorem inquiry_isWellFormed {inquiry : Operation.Inquiry} (hsettled : IsSettled prefs now)
    (h : Operation.Inquiry.ofParams prefs now params = .ok inquiry)
    : IsWellFormed "get-freebusy" (Operation.freeBusyArgs [inquiry.calendarId] inquiry.window) := by
  -- One calendar is asked for, so all that there is to show is that it has an identifier.
  apply isWellFormed_freeBusy (window_of_inquiry hsettled.clock h)
  unfold Operation.Inquiry.ofParams at h
  simp only [Except.bind_eq_ok] at h
  obtain ⟨_, -, calendarId, hcalendar, _, -, h⟩ := h
  cases h
  refine ⟨by simp, by simp, ?_⟩
  simpa using (Preferences.calendarOf_ne_empty hsettled.calendarId hcalendar).symm

end Kind

namespace Errand

variable {operation : String}

/--
Whether what an errand asks the service is well formed: its search, and its question about the event
that was found or named.
-/
structure AsksWell (errand : Errand) (operation : String) : Prop where
  search : ∀ found ∈ errand.search, IsWellFormed "search-events" found.2
  question : ∀ target question, Address.IsFound errand.search target
    → errand.question target = .ok question → IsWellFormed operation question.args

theorem direct_asksWell {result : Value → Except Fault Value} {args : Fields}
    (h : IsWellFormed operation args) : (direct result args).AsksWell operation where
  search := by simp [direct]
  question := by
    rintro target question - hasked
    cases hasked
    exact h

theorem AsksWell.meets {past : List Exchange} (h : errand.AsksWell operation)
    : (errand.plan operation).Meets (fun _ => IsWellFormed) (fun _ _ => True) past := by
  cases hsearch : errand.search with
  | none =>
    rw [meets_plan_of_none hsearch, Plan.meets_send]
    refine ⟨by simp, ?_⟩
    intro question hasked
    exact ⟨h.question none question hsearch hasked, by simp⟩
  | some search =>
    obtain ⟨query, args⟩ := search
    rw [meets_plan_of_some hsearch]
    refine ⟨h.search (query, args) hsearch, ?_⟩
    intro raw
    refine ⟨by simp, ?_⟩
    intro e hfound
    rw [Plan.meets_send]
    refine ⟨by simp, ?_⟩
    intro question hasked
    -- The service names the event here, so its identifier is only as good as the reading of replies.
    exact ⟨h.question (some e) question (Target.found_eq_ok hfound).2 hasked, by simp⟩

end Errand

theorem Kind.errand_asksWell {kind : Kind} (hsettled : IsSettled prefs now)
    (h : kind.errand prefs now params = .ok errand) : errand.AsksWell kind.operation := by
  cases kind with
  | create =>
    obtain ⟨draft, hdraft, rfl⟩ := Errand.eq_direct h
    exact Errand.direct_asksWell (Draft.ofParams_eq_ok hdraft).isWellFormed
  | list =>
    obtain ⟨args, hargs, rfl⟩ := Errand.eq_direct h
    exact Errand.direct_asksWell (listing_isWellFormed hsettled.clock hargs)
  | search =>
    obtain ⟨args, hargs, rfl⟩ := Errand.eq_direct h
    exact Errand.direct_asksWell (query_isWellFormed hsettled.clock hargs)
  | freeBusy =>
    obtain ⟨args, hargs, rfl⟩ := Errand.eq_direct h
    exact Errand.direct_asksWell (busy_isWellFormed hsettled hargs)
  | availability =>
    obtain ⟨inquiry, hinquiry, rfl⟩ := Errand.eq_direct h
    exact Errand.direct_asksWell (inquiry_isWellFormed hsettled hinquiry)
  | listCalendars | listColors | currentTime =>
    obtain ⟨args, hargs, rfl⟩ := Errand.eq_direct h
    exact Errand.direct_asksWell (isWellFormed_lookUp (by decide) hargs)
  | update =>
    obtain ⟨address, calendarId, changes, haddress, -, hchanges, hsearch, hquestion⟩ :=
      Operation.updateErrand_eq_ok h
    have hproper := (Changes.ofParams_eq_ok hchanges).1
    refine ⟨Address.search_eq_ok hsettled hsearch, ?_⟩
    intro target question htarget hasked
    rw [hquestion, Operation.updateQuestion, Except.bind_eq_ok] at hasked
    obtain ⟨_, -, hasked⟩ := hasked
    cases hasked
    exact hproper.isWellFormed (Address.idOf_spec haddress hsearch htarget)
  | delete =>
    obtain ⟨address, calendarId, notified, haddress, -, -, hsearch, hquestion⟩ :=
      Operation.deleteErrand_eq_ok h
    refine ⟨Address.search_eq_ok hsettled hsearch, ?_⟩
    intro target question htarget hasked
    rw [hquestion] at hasked
    cases hasked
    exact isWellFormed_delete (Address.idOf_spec haddress hsearch htarget)

theorem Command.meets_wellFormed {c : Command} (hsettled : IsSettled prefs now)
    : (c.plan prefs now).Meets (fun _ => IsWellFormed) (fun _ _ => True) [] := by
  unfold plan
  split
  . simp
  . rw [Kind.plan_eq, Plan.meets_ofErrand]
    refine ⟨by simp, ?_⟩
    intro errand herrand
    exact (Kind.errand_asksWell hsettled herrand).meets

/--
Whatever the service does, everything that it is called with for a command is well formed.
-/
theorem Backend.dispatch_calls_wellFormed {σ : Type} (b : Backend σ) {c : Command} {s : σ}
    {operation : String} {args : Fields} {answer : Except Fault Value}
    (hsettled : IsSettled prefs now)
    (hmem : .call operation args answer ∈ (b.dispatch prefs now c s).trace)
    : IsWellFormed operation args := by
  unfold dispatch at hmem
  exact ask_of_mem (Command.meets_wellFormed hsettled) hmem

end

end

section

open scoped Rehearsal

theorem Backend.dispatch_calls_wellFormed_after_search
    : ∃ args answer,
        .call "update-event" args answer
          ∈ ((Rehearsal.monotone (Rehearsal.listing "2025-08-20T10:00:00Z")).dispatch
            Rehearsal.preferences Rehearsal.morning Rehearsal.retitling ()).trace
        ∧ IsWellFormed "update-event" args := by
  have hcalled : "update-event" ∈ calls
      ((Rehearsal.monotone (Rehearsal.listing "2025-08-20T10:00:00Z")).dispatch
        Rehearsal.preferences Rehearsal.morning Rehearsal.retitling ()).trace := by
    decide +kernel
  have hsettled : IsSettled Rehearsal.preferences Rehearsal.morning :=
    { clock := by decide
      calendarId := by decide
      steady := by decide +kernel }
  obtain ⟨args, answer, hmem⟩ := exists_call_of_mem_calls hcalled
  exact ⟨args, answer, hmem, dispatch_calls_wellFormed _ hsettled hmem⟩

end

end Datebook
