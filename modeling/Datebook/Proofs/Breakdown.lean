import Datebook.Proofs.Checks
import Datebook.Proofs.Stages
import Datebook.Proofs.Verdict

/-!
This module contains the verification of which texts and which answers of the service break off the
work on a text, and that in all other cases something complete is reported.
-/

namespace Datebook

theorem Command.length_agenda (c : Command) : c.agenda.length = if c.seeks then 2 else 1 := by
  unfold agenda
  rw [Catalog.operationsOf_standard]
  cases c.seeks with
  | true => rfl
  | false => rfl

namespace Outcome

/--
Whether an outcome is complete: a success has a kind and data. A failure always has its stage and its
reason.
-/
def IsComplete : Outcome → Prop
  | success kind data _ => kind.isSome = true ∧ data ≠ .null
  | failure .. => True

variable {c : Command} {result : Except Fault Value}

theorem ofResult_isComplete {outcome : Outcome} (hdata : ∀ data, result = .ok data → data ≠ .null)
    (h : ofResult c result = .ok outcome) : outcome.IsComplete := by
  unfold ofResult at h
  split at h
  . next data =>
    injection h with h
    rw [← h]
    exact ⟨rfl, hdata data rfl⟩
  . split at h
    . cases h
    . injection h with h
      rw [← h]
      trivial

theorem ofResult_eq_error : (∃ cause, ofResult c result = .error cause) ↔ Crashes result := by
  cases result with
  | ok data => simp [ofResult]
  | error e =>
    rw [Crashes.error]
    cases e <;> simp [ofResult, Fault.report, Fault.IsCrash]

end Outcome

section

variable [Host]

namespace Reply

variable {raw data : Value} {reply : Reply}

theorem payload_ne_null {payload : Value} {message : Option String}
    (h : ofValue raw = .ok (structured payload message)) : payload ≠ .null := by
  unfold ofValue at h
  split at h
  . cases h
  . unfold ofText at h
    split at h
    . cases h
    . cases h
  . split at h
    . cases h
    . split at h
      . cases h
        simp
      . split at h
        . cases h
        . cases h
  . split at h
    . cases h
    . cases h
      simp
  . split at h
    . cases h
    . cases h

theorem plainData_ne_null (h : ofValue raw = .ok reply) : reply.plainData ≠ .null := by
  cases reply with
  | empty => simp [plainData]
  | prose text => simp [plainData]
  | structured payload message => exact payload_ne_null h

theorem data_ne_null {kind : Kind} {requested : Option Event} {targetId : Option String}
    (hreply : ofValue raw = .ok reply) (h : reply.data kind requested targetId = .ok data)
    : data ≠ .null := by
  cases kind with
  | create | update | list | search | listCalendars | freeBusy =>
    obtain ⟨_, -, h⟩ := Except.bind_eq_ok.mp h
    injection h with h
    simp [← h]
  | delete =>
    injection h with h
    simp [← h, deletionData]
  | availability | listColors | currentTime =>
    injection h with h
    exact h ▸ plainData_ne_null hreply

theorem normalize_ne_null {kind : Kind} {requested : Option Event} {targetId : Option String}
    (h : normalize kind raw requested targetId = .ok data) : data ≠ .null := by
  unfold normalize at h
  rw [Except.bind_eq_ok] at h
  obtain ⟨reply, hreply, h⟩ := h
  exact data_ne_null hreply h

end Reply

variable {prefs : Preferences} {now : Instant} {params : Fields}

theorem Kind.result_ne_null {kind : Kind} {errand : Errand} {target : Option Event}
    {question : Question} {raw data : Value} (h : kind.errand prefs now params = .ok errand)
    (hquestion : errand.question target = .ok question) (hdata : question.result raw = .ok data)
    : data ≠ .null := by
  cases kind with
  | create | list | search | listCalendars | listColors | currentTime =>
    obtain ⟨_, -, rfl⟩ := Errand.eq_direct h
    cases hquestion
    exact Reply.normalize_ne_null hdata
  | freeBusy =>
    obtain ⟨_, -, rfl⟩ := Errand.eq_direct h
    cases hquestion
    obtain ⟨_, -, hdata⟩ := Except.bind_eq_ok.mp hdata
    obtain ⟨_, -, hdata⟩ := Except.bind_eq_ok.mp hdata
    injection hdata with hdata
    simp [← hdata]
  | availability =>
    obtain ⟨_, -, rfl⟩ := Errand.eq_direct h
    cases hquestion
    obtain ⟨_, -, hdata⟩ := Except.bind_eq_ok.mp hdata
    obtain ⟨_, -, hdata⟩ := Except.bind_eq_ok.mp hdata
    obtain ⟨_, -, hdata⟩ := Except.bind_eq_ok.mp hdata
    obtain ⟨_, -, hdata⟩ := Except.bind_eq_ok.mp hdata
    injection hdata with hdata
    simp [← hdata]
  | update =>
    obtain ⟨_, _, _, -, -, -, -, heq⟩ := Operation.updateErrand_eq_ok h
    rw [heq, Operation.updateQuestion, Except.bind_eq_ok] at hquestion
    obtain ⟨_, -, hquestion⟩ := hquestion
    cases hquestion
    exact Reply.normalize_ne_null hdata
  | delete =>
    obtain ⟨_, _, _, -, -, -, -, heq⟩ := Operation.deleteErrand_eq_ok h
    rw [heq] at hquestion
    cases hquestion
    exact Reply.normalize_ne_null hdata

namespace Command

variable {c : Command}

def hasUnshownKind : Value → Bool
  | .map fields => !(Fields.get fields "kind").isShowable
  | _ => false

def isUnreadable (text : String) : Bool :=
  ((Snippet.object? text.toList).bind decode?).any hasUnshownKind

theorem isUnreadable_iff {text : String}
    : isUnreadable text = true ↔ ∃ cause, read text = .error cause := by
  unfold isUnreadable
  rw [Option.any_eq_true]
  constructor
  . rintro ⟨payload, hpayload, hunshown⟩
    obtain ⟨candidate, hobject, hdecoded⟩ := Option.bind_eq_some_iff.mp hpayload
    obtain ⟨fields, rfl⟩ := exists_fields_of_decode? hobject hdecoded
    have hholds : Holds text fields := holds_iff.mpr ⟨candidate, hobject, hdecoded⟩
    rw [hasUnshownKind, Bool.not_eq_true', Value.isShowable_eq_false] at hunshown
    obtain ⟨flaw, hflaw⟩ := hunshown
    exact ⟨_, read_eq_error_iff.mpr ⟨fields, flaw, hholds, hflaw, rfl⟩⟩
  . rintro ⟨cause, hread⟩
    obtain ⟨fields, flaw, hholds, hflaw, -⟩ := read_eq_error_iff.mp hread
    obtain ⟨candidate, hobject, hdecoded⟩ := holds_iff.mp hholds
    have hpayload := Option.bind_eq_some_iff.mpr ⟨candidate, hobject, hdecoded⟩
    refine ⟨_, hpayload, ?_⟩
    rw [hasUnshownKind, Bool.not_eq_true', Value.isShowable_eq_false]
    exact ⟨flaw, hflaw⟩

/--
Whether the work on a command breaks off before the service is asked anything: over noting the
parameters, or over one of the checks that they have to pass.
-/
def BreaksEarly (prefs : Preferences) (now : Instant) (c : Command) : Prop :=
  (prefs.detailed = true ∧ (Value.map c.params).isTooDeep = true)
    ∨ Check.Break c.params (c.kind.checks prefs now)

/--
Whether the work on a command breaks off when the service has been asked some questions and has
answered them: over the last answer, which is that to the search for the event or that to the
command's own question.
-/
def BreaksAfter (prefs : Preferences) (now : Instant) (c : Command) (done : List Exchange) : Prop :=
  match done.getLast? with
  | none => c.BreaksEarly prefs now
  | some last =>
    if done.length = c.agenda.length then c.kind.breaksOn prefs now c.params last.answer = true
    else Reply.breaksRaw (·.breaksEvents) last.answer = true

theorem BreaksEarly.awkward (h : c.BreaksEarly prefs now)
    : (Value.map c.params).isTooDeep = true ∨ ∃ names, (param c.params names).IsAwkward :=
  h.imp And.right Check.Break.awkward

theorem breaksAfter_search {operation : String} {args : Fields} {raw : Value} (h : c.seeks = true)
    : c.BreaksAfter prefs now [⟨operation, args, raw⟩]
        ↔ Reply.breaksRaw (·.breaksEvents) raw = true := by
  unfold BreaksAfter
  rw [length_agenda, h]
  rfl

theorem breaksAfter_question {past : List Exchange} {operation : String} {args : Fields}
    {raw : Value} (h : past.length + 1 = c.agenda.length)
    : c.BreaksAfter prefs now (past ++ [⟨operation, args, raw⟩])
        ↔ c.kind.breaksOn prefs now c.params raw = true := by
  unfold BreaksAfter
  rw [List.getLast?_concat, List.length_append, List.length_singleton]
  dsimp only
  rw [if_pos h]

/--
What is known when the work on a command ends: whether it broke off, and that there are data
otherwise.
-/
def EndsAsBroken (prefs : Preferences) (now : Instant) (c : Command) (past : List Exchange)
    (result : Except Fault Value) : Prop :=
  (Crashes result ↔ c.BreaksAfter prefs now past) ∧ ∀ data, result = .ok data → data ≠ .null

theorem endsAsBroken_error {past : List Exchange} {e : Fault}
    (h : e.IsCrash ↔ c.BreaksAfter prefs now past) : c.EndsAsBroken prefs now past (.error e) :=
  ⟨(Crashes.error e).trans h, nofun⟩

theorem meets_send_breakdown {past : List Exchange} {errand : Errand} {target : Option Event}
    (hnow : Instant.isSupported now = true) (herrand : c.kind.errand prefs now c.params = .ok errand)
    (hlength : past.length + 1 = c.agenda.length) (hpast : ¬ c.BreaksAfter prefs now past)
    : (Plan.send c.kind.operation (errand.question target)).Meets
        (fun past _ _ => ¬ c.BreaksAfter prefs now past) (c.EndsAsBroken prefs now) past := by
  rw [Plan.meets_send]
  constructor
  . intro e he
    obtain ⟨hrefusal, -, -⟩ := question_eq_error herrand he
    apply endsAsBroken_error
    cases e <;> simp [Fault.IsRefusal, Fault.IsCrash, hpast] at *
  . intro question hquestion
    refine ⟨hpast, ?_⟩
    intro raw
    constructor
    . rw [breaksAfter_question hlength]
      exact (Kind.result_spec hnow herrand hquestion raw).2
    . intro data hdata
      exact Kind.result_ne_null herrand hquestion hdata

theorem meets_breakdown (hzone : Zone.isKnown prefs.zone = true) (hnow : Instant.isInner now = true)
    (c : Command)
    : (c.plan prefs now).Meets (fun past _ _ => ¬ c.BreaksAfter prefs now past)
        (c.EndsAsBroken prefs now) [] := by
  unfold plan
  split
  . next hdeep =>
    apply endsAsBroken_error
    show True ↔ BreaksEarly prefs now c
    unfold BreaksEarly
    simpa using Or.inl hdeep
  . next hplain =>
    have hearly : c.BreaksAfter prefs now [] ↔ Crashes (c.kind.errand prefs now c.params) := by
      show BreaksEarly prefs now c ↔ _
      unfold BreaksEarly
      rw [c.kind.crashes_errand_iff hzone hnow, or_iff_right]
      simpa using hplain
    have hsupported := Instant.isSupported_of_isInner hnow
    rw [Kind.plan_eq, Plan.meets_ofErrand]
    constructor
    . intro e he
      apply endsAsBroken_error
      rw [hearly, he, Crashes.error]
    . intro errand herrand
      have hstart : ¬ c.BreaksAfter prefs now [] := by
        rw [hearly, herrand]
        exact Crashes.ok errand
      have hseeks := search_isSome herrand
      have hlength := length_agenda c
      cases hsearch : errand.search with
      | none =>
        rw [hsearch] at hseeks
        rw [← hseeks] at hlength
        rw [Errand.meets_plan_of_none hsearch]
        exact meets_send_breakdown hsupported herrand hlength.symm hstart
      | some search =>
        obtain ⟨query, args⟩ := search
        rw [hsearch] at hseeks
        rw [← hseeks] at hlength
        rw [Errand.meets_plan_of_some hsearch]
        refine ⟨hstart, ?_⟩
        intro raw
        -- Nothing but the search was answered, and the agenda has a second call.
        have hbroken : c.BreaksAfter prefs now ([] ++ [⟨"search-events", args, raw⟩])
            ↔ Crashes (Target.found query raw) := by
          rw [Target.found_crashes]
          exact breaksAfter_search hseeks.symm
        constructor
        . intro e he
          apply endsAsBroken_error
          rw [hbroken, he, Crashes.error]
        . intro e hfound
          refine meets_send_breakdown hsupported herrand hlength.symm ?_
          rw [hbroken, hfound]
          exact Crashes.ok e

end Command

namespace Backend

variable {σ : Type} {b : Backend σ} {c : Command} {text : String} {s : σ}

theorem Ends.crashes_iff {trace : List Touch} {result : Except Fault Value}
    (hclean : ∀ {operation args e}, .call operation args (.error e) ∈ trace → e.IsBackend)
    (h : Ends (fun past _ _ => ¬ c.BreaksAfter prefs now past) (c.EndsAsBroken prefs now) [] trace
      result)
    : c.EndsAsBroken prefs now (exchanges trace) result := by
  have hplain {e : Fault} {done : List Exchange} (he : e.IsBackend)
      (hdone : ¬ c.BreaksAfter prefs now done) : c.EndsAsBroken prefs now done (.error e) := by
    apply Command.endsAsBroken_error
    cases e <;> simp [Fault.IsBackend, Fault.IsCrash, hdone] at *
  cases h with
  | finished hanswered hfin =>
    rw [hanswered.exchanges_eq]
    exact hfin
  -- In the two other cases a question was to be asked, so nothing had broken off before it.
  | refused hanswered hask =>
    obtain ⟨_, _, hask⟩ := hask
    rw [exchanges_append, hanswered.exchanges_eq]
    show c.EndsAsBroken prefs now (_ ++ []) _
    rw [List.append_nil]
    exact hplain trivial hask
  | failed hanswered hprelude hask =>
    rw [exchanges_append, exchanges_append, hanswered.exchanges_eq, (of_mem_preludes hprelude).2]
    show c.EndsAsBroken prefs now (_ ++ []) _
    rw [List.append_nil]
    exact hplain (hclean (last_mem _)) hask

theorem dispatch_breaks_off_iff (hb : b.FailsWith Fault.IsBackend)
    (hzone : Zone.isKnown prefs.zone = true) (hnow : Instant.isInner now = true)
    : (∀ outcome, (b.dispatch prefs now c s).result = .ok outcome → outcome.IsComplete)
      ∧ ((∃ cause, (b.dispatch prefs now c s).result = .error cause)
        ↔ c.BreaksAfter prefs now (exchanges (b.dispatch prefs now c s).trace)) := by
  have hends := ends_run (b := b) (s := s) (Command.meets_breakdown hzone hnow c)
  obtain ⟨hcrashes, hdata⟩ := hends.crashes_iff hb.of_mem_run
  unfold dispatch
  dsimp only
  constructor
  . intro outcome houtcome
    exact Outcome.ofResult_isComplete hdata houtcome
  . rw [Outcome.ofResult_eq_error, hcrashes]

/--
Dealing with a text reports something complete or breaks off. It breaks off exactly over a kind that
cannot be shown, over the parameters before anything is asked, or over the last answer of the service;
and over the parameters only where they are nested too deeply or one of them is awkward.
-/
theorem handle_breaks_off_iff (hb : b.FailsWith Fault.IsBackend)
    (hzone : Zone.isKnown prefs.zone = true) (hnow : Instant.isInner now = true)
    : (∀ outcome, (b.handle prefs now text s).result = .ok outcome → outcome.IsComplete)
      ∧ ((∃ cause, (b.handle prefs now text s).result = .error cause)
        ↔ Command.isUnreadable text = true
          ∨ ∃ c, Command.read text = .ok (.ok c)
            ∧ c.BreaksAfter prefs now (exchanges (b.handle prefs now text s).trace))
      ∧ ∀ c : Command, c.BreaksEarly prefs now
        → (Value.map c.params).isTooDeep = true
          ∨ ∃ names, (Command.param c.params names).IsAwkward := by
  rw [← and_assoc, Command.isUnreadable_iff]
  refine ⟨?_, fun c h => h.awkward⟩
  unfold handle
  cases hread : Command.read text with
  | error cause => simp
  | ok found =>
    cases found with
    | error refusal => simp [Outcome.IsComplete, Outcome.ofRefusal]
    | ok c => simpa using dispatch_breaks_off_iff hb hzone hnow

end Backend

end

namespace Backend

open scoped Rehearsal

theorem rehearse_farStart_breaks_off
    : ∃ cause,
        (Rehearsal.rehearse Rehearsal.farStart Rehearsal.inspection).result = .error cause := by
  have hbroken
      : (Rehearsal.rehearse Rehearsal.farStart Rehearsal.inspection).result.isOk = false := by
    decide +kernel
  cases hresult : (Rehearsal.rehearse Rehearsal.farStart Rehearsal.inspection).result with
  | error cause => exact ⟨cause, rfl⟩
  | ok outcome =>
    rw [hresult] at hbroken
    cases hbroken

theorem handle_breaks_off_over_offset
    : ∃ c, Command.read Rehearsal.inspection = .ok (.ok c)
        ∧ c.BreaksAfter Rehearsal.preferences Rehearsal.morning
          (exchanges (Rehearsal.rehearse Rehearsal.farStart Rehearsal.inspection).trace) := by
  have hreadable : Command.isUnreadable Rehearsal.inspection = false := by decide +kernel
  have hcleanly : (Rehearsal.monotone (Rehearsal.listing Rehearsal.farStart)).FailsWith Fault.IsBackend :=
    fun _ _ _ => FailsOnly.ok _
  have hzone : Zone.isKnown Rehearsal.preferences.zone = true := by decide
  have hnow : Instant.isInner Rehearsal.morning = true := by decide
  have hbroken := (handle_breaks_off_iff hcleanly hzone hnow).2.1.mp rehearse_farStart_breaks_off
  cases hbroken with
  | inl hunreadable =>
    rw [hreadable] at hunreadable
    cases hunreadable
  | inr hbroken => exact hbroken

/--
So there are services whose answers break off the work on a text.
-/
theorem not_forall_handle_reports
    : ¬ ∀ (b : Backend Unit) (prefs : Preferences) (now : Instant) (text : String),
        b.FailsWith Fault.IsBackend → Zone.isKnown prefs.zone = true → Instant.isInner now = true
          → ∃ outcome, (b.handle prefs now text ()).result = .ok outcome := by
  intro hall
  obtain ⟨outcome, houtcome⟩ :=
    hall (Rehearsal.monotone (Rehearsal.listing Rehearsal.farStart)) Rehearsal.preferences
      Rehearsal.morning Rehearsal.inspection (fun _ _ _ => FailsOnly.ok _) (by decide) (by decide)
  obtain ⟨cause, hcause⟩ := rehearse_farStart_breaks_off
  unfold Rehearsal.rehearse at hcause
  rw [houtcome] at hcause
  cases hcause

end Backend

end Datebook
