import Datebook.Proofs.Target
import Mathlib.Logic.Relation

/-!
This module contains the verification that a parameter without a value is no parameter: what is done
about a command, and with what outcome, does not change with the absent parameters that are added to it
or taken away.
-/

namespace Datebook

namespace Fields

variable {before after : Fields} {name : String} {v : Value}

theorem lookup_of_not_has {fields : Fields} (h : has fields name = false)
    : fields.lookup name = none := by
  rw [List.lookup_eq_none_iff]
  rw [has, List.any_eq_false] at h
  intro field hfield
  have hname := h field hfield
  rw [beq_iff_eq] at hname
  exact bne_iff_ne.mpr (Ne.symm hname)

theorem get_insert (hnew : has (before ++ after) name = false) (other : String)
    : get (before ++ (name, v) :: after) other
        = if other = name then v else get (before ++ after) other := by
  have hbefore : before.lookup name = none := by
    apply lookup_of_not_has
    rw [has, List.any_append, Bool.or_eq_false_iff] at hnew
    exact hnew.1
  unfold get
  rw [List.lookup_append, List.lookup_append, List.lookup_cons]
  by_cases hname : other = name
  . rw [hname, hbefore, beq_self_eq_true, if_pos rfl]
    rfl
  . rw [beq_false_of_ne hname, if_neg hname]

end Fields

inductive Value.IsVoid : Value → Prop
  | null : IsVoid .null
  | blank {s : String} : (∀ c ∈ s.toList, Text.isBlank c = true) → IsVoid (.text s)

namespace Value.IsVoid

variable {v : Value} (h : v.IsVoid)

include h

theorem isAbsent : v.isAbsent = true := by
  cases h with
  | null => rfl
  | blank hblank =>
    rw [Value.isAbsent, List.all_eq_true]
    exact hblank

theorem isPlain : v.isPlain = true := by
  cases h with
  | null => rfl
  | blank => rfl

end Value.IsVoid

namespace Command

variable {params params' : Fields}

/--
Whether the second parameters are the first with one more, under a name that is new, and the value of
this one does not count.
-/
inductive AddsAbsent : Fields → Fields → Prop
  | insert {before after : Fields} {name : String} {v : Value}
    : Fields.has (before ++ after) name = false → v.IsVoid
      → AddsAbsent (before ++ after) (before ++ (name, v) :: after)

theorem AddsAbsent.param_eq (h : AddsAbsent params params') : param params = param params' := by
  cases h with
  | @insert before after name v hnew hvoid =>
    funext names
    induction names with
    | nil => rfl
    | cons other rest ih =>
      rw [param, param, Fields.get_insert hnew]
      by_cases hname : other = name
      . -- Under the new name there is nothing in the one and nothing that counts in the other.
        have hnull : (before ++ after).get other = .null := by
          rw [hname, Fields.get, Fields.lookup_of_not_has hnew]
          rfl
        rw [if_pos hname, hnull, hvoid.isAbsent, ih]
        rfl
      . rw [if_neg hname, ih]

variable [Host]

theorem AddsAbsent.flaw?_eq (h : AddsAbsent params params')
    : (Value.map params).flaw? = (Value.map params').flaw? := by
  cases h with
  | insert hnew hvoid => exact (Host.showFlaw?_plain hvoid.isPlain).symm

/--
Whether the same is read from two maps of parameters by their names, and the same keeps them from being
shown.
-/
structure ReadsAlike (params params' : Fields) : Prop where
  param : Command.param params = Command.param params'
  flaw? : (Value.map params).flaw? = (Value.map params').flaw?

theorem readsAlike_of_eqvGen (h : Relation.EqvGen AddsAbsent params params')
    : ReadsAlike params params' := by
  induction h with
  | rel params params' hadds => exact ⟨hadds.param_eq, hadds.flaw?_eq⟩
  | refl params => exact ⟨rfl, rfl⟩
  | symm params params' _ ih => exact ⟨ih.param.symm, ih.flaw?.symm⟩
  | trans params params' params'' _ _ ih ih' =>
    exact ⟨ih.param.trans ih'.param, ih.flaw?.trans ih'.flaw?⟩

end Command

section

/-!
What is read from the parameters of a command is read by `Command.param`, so maps of parameters from
which the same is read give the same plan.
-/

variable {params params' : Fields} (h : Command.param params = Command.param params')
  (prefs : Preferences) (now : Instant)

include h

theorem Preferences.zoneParam_congr : zoneParam params = zoneParam params' := by
  unfold zoneParam
  rw [h]

variable [Host]

theorem Preferences.calendarOf_congr : prefs.calendarOf params = prefs.calendarOf params' := by
  unfold calendarOf
  rw [h]

theorem Preferences.windowOf_congr (horizon : Length) (startNames finishNames : List String)
    : prefs.windowOf now params horizon startNames finishNames
        = prefs.windowOf now params' horizon startNames finishNames := by
  unfold windowOf
  rw [h, zoneParam_congr h]

theorem Preferences.listingWindow_congr (horizon : Length)
    : prefs.listingWindow now params horizon = prefs.listingWindow now params' horizon :=
  prefs.windowOf_congr h now horizon _ _

theorem Preferences.targetWindow_congr
    : prefs.targetWindow now params = prefs.targetWindow now params' := by
  unfold targetWindow
  dsimp only
  rw [h, prefs.windowOf_congr h]

theorem Draft.ofParams_congr : ofParams prefs params = ofParams prefs params' := by
  unfold ofParams Operation.requiredTime Preferences.zoneOf
  rw [h, prefs.calendarOf_congr h, Preferences.zoneParam_congr h]

theorem Changes.ofParams_congr : ofParams prefs params = ofParams prefs params' := by
  unfold ofParams Operation.optionalTime zoneOf attendeesOf Preferences.zoneOf
  rw [h, Preferences.zoneParam_congr h]

theorem Address.ofParams_congr : ofParams params = ofParams params' := by
  unfold ofParams
  rw [h]

theorem Address.resolve_congr (address : Address) (calendarId : String)
    : address.resolve prefs now params calendarId = address.resolve prefs now params' calendarId := by
  unfold resolve find
  rw [prefs.targetWindow_congr h]

theorem Operation.listArgs_congr : listArgs prefs now params = listArgs prefs now params' := by
  unfold listArgs
  rw [prefs.listingWindow_congr h, prefs.calendarOf_congr h]

theorem Operation.queryArgs_congr : queryArgs prefs now params = queryArgs prefs now params' := by
  unfold queryArgs
  rw [h, prefs.listingWindow_congr h, prefs.calendarOf_congr h]

theorem Operation.busyArgs_congr : busyArgs prefs now params = busyArgs prefs now params' := by
  unfold busyArgs
  rw [h, prefs.listingWindow_congr h, prefs.calendarOf_congr h]

theorem Operation.Inquiry.ofParams_congr
    : ofParams prefs now params = ofParams prefs now params' := by
  unfold ofParams
  rw [h, prefs.listingWindow_congr h, prefs.calendarOf_congr h]

theorem Operation.zoneArgs_congr : zoneArgs prefs params = zoneArgs prefs params' := by
  unfold zoneArgs
  rw [Preferences.zoneParam_congr h]

theorem Operation.updateInput_congr : updateInput prefs params = updateInput prefs params' := by
  unfold updateInput
  rw [Address.ofParams_congr h, prefs.calendarOf_congr h, Changes.ofParams_congr h]

theorem Operation.deleteInput_congr : deleteInput prefs params = deleteInput prefs params' := by
  unfold deleteInput
  rw [Address.ofParams_congr h, prefs.calendarOf_congr h, h]

theorem Kind.plan_congr (kind : Kind) : kind.plan prefs now params = kind.plan prefs now params' := by
  cases kind with
  | create =>
    unfold plan Operation.create
    rw [Draft.ofParams_congr h]
  | list =>
    unfold plan Operation.list
    rw [Operation.listArgs_congr h]
  | search =>
    unfold plan Operation.search
    rw [Operation.queryArgs_congr h]
  | update =>
    unfold plan Operation.update
    simp only [Operation.updateInput_congr h, Address.resolve_congr h]
  | delete =>
    unfold plan Operation.delete
    simp only [Operation.deleteInput_congr h, Address.resolve_congr h]
  | freeBusy =>
    unfold plan Operation.freeBusy
    rw [Operation.busyArgs_congr h]
  | availability =>
    unfold plan Operation.availability
    rw [Operation.Inquiry.ofParams_congr h]
  | listCalendars =>
    unfold plan Operation.lookUp
    rw [Operation.zoneArgs_congr h]
  | listColors =>
    unfold plan Operation.lookUp
    rw [Operation.zoneArgs_congr h]
  | currentTime =>
    unfold plan Operation.lookUp
    rw [Operation.zoneArgs_congr h]

end

namespace Command

variable [Host] {params params' : Fields}

theorem ReadsAlike.plan_eq (h : ReadsAlike params params') (prefs : Preferences) (now : Instant)
    (kind : Kind) (message : String)
    : plan prefs now ⟨kind, params, message⟩ = plan prefs now ⟨kind, params', message⟩ := by
  have hdeep : (Value.map params).isTooDeep = (Value.map params').isTooDeep := by
    rw [Value.isTooDeep, Value.isTooDeep, h.flaw?]
  unfold plan
  dsimp only
  rw [hdeep, kind.plan_congr h.param]

end Command

namespace Backend

open Command (AddsAbsent)

variable {σ : Type} {params params' : Fields}

/--
Parameters that differ in absent ones only, which are added and removed one by one, come to the same
for every command: the same calls with the same arguments and answers, the same state of the service
and the same outcome.
-/
theorem dispatch_ignores_absent [Host] (b : Backend σ) (prefs : Preferences) (now : Instant) (kind : Kind)
    (message : String) (s : σ) (h : Relation.EqvGen AddsAbsent params params')
    : b.dispatch prefs now ⟨kind, params, message⟩ s
        = b.dispatch prefs now ⟨kind, params', message⟩ s := by
  have hplan := (Command.readsAlike_of_eqvGen h).plan_eq prefs now kind message
  unfold dispatch
  rw [hplan]
  rfl

open scoped Rehearsal

/--
A blank identifier leaves the event to the query, and blanks under another name of the query or of a
time change nothing: the event is searched for and renamed either way.
-/
theorem dispatch_ignores_absent_beside_title
    : (Rehearsal.monotone Rehearsal.crowd).dispatch Rehearsal.preferences Rehearsal.morning
          ⟨.update, ("eventId", .text " ") :: Rehearsal.retitling.params, ""⟩ ()
        = (Rehearsal.monotone Rehearsal.crowd).dispatch Rehearsal.preferences Rehearsal.morning
          ⟨.update, ("searchQuery", .null) :: Rehearsal.retitling.params ++ [("start", .text "")], ""⟩ ()
      ∧ calls ((Rehearsal.monotone Rehearsal.crowd).dispatch Rehearsal.preferences Rehearsal.morning
          ⟨.update, ("eventId", .text " ") :: Rehearsal.retitling.params, ""⟩ ()).trace
        = ["search-events", "update-event"] := by
  have hid : AddsAbsent Rehearsal.retitling.params
      (("eventId", .text " ") :: Rehearsal.retitling.params) :=
    @AddsAbsent.insert [] _ _ _ (by decide +kernel) (.blank (List.all_eq_true.mp rfl))
  have hsearch : AddsAbsent Rehearsal.retitling.params
      (("searchQuery", .null) :: Rehearsal.retitling.params) :=
    @AddsAbsent.insert [] _ _ _ (by decide +kernel) .null
  have hstart : AddsAbsent (("searchQuery", .null) :: Rehearsal.retitling.params)
      (("searchQuery", .null) :: Rehearsal.retitling.params ++ [("start", .text "")]) := by
    have hadds := @AddsAbsent.insert (("searchQuery", .null) :: Rehearsal.retitling.params) []
      "start" (.text "") (by decide +kernel) (.blank (List.all_eq_true.mp rfl))
    rw [List.append_nil] at hadds
    exact hadds
  refine ⟨dispatch_ignores_absent _ _ _ .update "" () ?_, ?_⟩
  . exact .trans _ _ _ (.symm _ _ (.rel _ _ hid)) (.trans _ _ _ (.rel _ _ hsearch) (.rel _ _ hstart))
  . decide +kernel

end Backend

end Datebook
