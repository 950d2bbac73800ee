import Datebook.Proofs.Balance
import Datebook.Proofs.Mend
import Datebook.Proofs.Reader
import Datebook.Command.Reading
import Datebook.Proofs.Field
import Datebook.Rehearsal.Host
import Datebook.Rehearsal.Service

/-!
This module contains the verification of the stages in which a text is read: at which of them a text
is refused, and that nothing but a map ever gets to the last one.
-/

namespace Datebook.Command

open Json (strict?)
open Relaxed (repair)
open Snippet (object?)

section Decoding

variable {s candidate : List Char} {payload : Value}

theorem eq_cons_of_object? (h : object? s = some candidate) : ∃ t, candidate = '{' :: t := by
  obtain ⟨_, _, _, _, _, inner, rfl, -⟩ := Snippet.isFirstObject_of_object? h
  exact ⟨_, rfl⟩

theorem exists_fields_of_repaired (h : object? s = some candidate)
    (hmended : strict? (repair candidate) = some payload) : ∃ fields, payload = .map fields := by
  obtain ⟨t, rfl⟩ := eq_cons_of_object? h
  obtain ⟨u, hrepair⟩ := Relaxed.exists_repair_brace t
  rw [hrepair] at hmended
  exact Json.exists_fields_of_strict? hmended

theorem exists_fields_of_strict? (h : object? s = some candidate)
    (hstrict : strict? candidate = some payload) : ∃ fields, payload = .map fields := by
  obtain ⟨t, rfl⟩ := eq_cons_of_object? h
  exact Json.exists_fields_of_strict? hstrict

/--
Neither an object nor its repaired form stands for `null`, so each of them is decoded if the strict
reader takes it.
-/
theorem decode?_eq_or (h : object? s = some candidate)
    : decode? candidate = (strict? candidate).or (strict? (repair candidate)) := by
  unfold decode?
  cases hstrict : strict? candidate with
  | some v =>
    obtain ⟨fields, rfl⟩ := exists_fields_of_strict? h hstrict
    rfl
  | none =>
    cases hmended : strict? (repair candidate) with
    | some v =>
      obtain ⟨fields, rfl⟩ := exists_fields_of_repaired h hmended
      rfl
    | none => rfl

theorem decode?_eq_none_iff (h : object? s = some candidate)
    : decode? candidate = none ↔ strict? candidate = none ∧ strict? (repair candidate) = none := by
  rw [decode?_eq_or h, Option.or_eq_none_iff]

theorem exists_fields_of_decode? (h : object? s = some candidate)
    (hpayload : decode? candidate = some payload) : ∃ fields, payload = .map fields := by
  rw [decode?_eq_or h, Option.or_eq_some_iff] at hpayload
  obtain hstrict | ⟨-, hmended⟩ := hpayload
  . exact exists_fields_of_strict? h hstrict
  . exact exists_fields_of_repaired h hmended

/--
Whether the first object of a text stands for a map: as it is, or else in its repaired form.
-/
def Holds (source : String) (fields : Fields) : Prop :=
  ∃ candidate, object? source.toList = some candidate
    ∧ (strict? candidate = some (.map fields)
      ∨ strict? candidate = none ∧ strict? (repair candidate) = some (.map fields))

theorem holds_iff {source : String} {fields : Fields}
    : Holds source fields
        ↔ ∃ candidate, object? source.toList = some candidate
            ∧ decode? candidate = some (.map fields) := by
  unfold Holds
  apply exists_congr
  intro candidate
  apply and_congr_right
  intro hobject
  rw [decode?_eq_or hobject, Option.or_eq_some_iff]

end Decoding

/--
What becomes of a text, one case for each way in which the stages can end.
-/
inductive Verdict [Host] (source : String) : Except Crash (Except Refusal Command) → Prop
  | objectless (hnone : object? source.toList = none)
    : Verdict source (.ok (.error ⟨.extract, "No calendar command found in text.", source⟩))
  | malformed {candidate : List Char} (hobject : object? source.toList = some candidate)
      (hstrict : strict? candidate = none) (hmended : strict? (repair candidate) = none)
    : Verdict source (.ok (.error ⟨.parse, "Calendar command is not valid JSON.", source⟩))
  | kindless {fields : Fields} (hholds : Holds source fields)
      (hnull : Fields.get fields "kind" = .null)
    : Verdict source (.ok (.error ⟨.validate, "Calendar command is missing 'kind'.", source⟩))
  | unknown {fields : Fields} (hholds : Holds source fields)
      (hsome : Fields.get fields "kind" ≠ .null)
      (hunknown : Kind.ofValue? (Fields.get fields "kind") = none)
      (hplain : (Fields.get fields "kind").flaw? = none)
    : Verdict source (.ok (.error ⟨.validate,
        "Unknown calendar operation: " ++ (Fields.get fields "kind").quoted ++ ".", source⟩))
  | unshown {fields : Fields} {flaw : ShowFlaw} (hholds : Holds source fields)
      (hflaw : (Fields.get fields "kind").flaw? = some flaw)
    : Verdict source (.error (.unshown flaw))
  | command {fields : Fields} {kind : Kind} (hholds : Holds source fields)
      (hkind : Kind.ofValue? (Fields.get fields "kind") = some kind)
    : Verdict source (.ok (.ok ⟨kind, paramsOf fields, messageOf fields⟩))

section Verdicts

theorem ne_null_of_ofValue? {v : Value} {kind : Kind} (h : Kind.ofValue? v = some kind)
    : v ≠ .null := by
  rintro rfl
  cases h

variable [Host] {source : String} {fields : Fields} {found : Except Crash (Except Refusal Command)}

theorem verdict_ofValue (h : Holds source fields) : Verdict source (ofValue (.map fields) source) := by
  unfold ofValue
  dsimp only
  split
  . next hnull => exact .kindless h hnull
  . next hsome =>
    split
    . next hunknown =>
      split
      . next hplain => exact .unknown h hsome hunknown hplain
      . next flaw hflaw => exact .unshown h hflaw
    . next kind hkind => exact .command h hkind

theorem verdict_read (source : String) : Verdict source (read source) := by
  unfold read
  split
  . next hnone => exact .objectless hnone
  . next candidate hobject =>
    split
    . next hnone =>
      obtain ⟨hstrict, hmended⟩ := (decode?_eq_none_iff hobject).mp hnone
      exact .malformed hobject hstrict hmended
    . next payload hpayload =>
      obtain ⟨fields, rfl⟩ := exists_fields_of_decode? hobject hpayload
      exact verdict_ofValue (holds_iff.mpr ⟨candidate, hobject, hpayload⟩)

theorem read_of_holds (h : Holds source fields) : read source = ofValue (.map fields) source := by
  obtain ⟨candidate, hobject, hpayload⟩ := holds_iff.mp h
  unfold read
  rw [hobject]
  dsimp only
  rw [hpayload]

theorem ofValue_of_ne_null (hsome : Fields.get fields "kind" ≠ .null)
    : ofValue (.map fields) source
        = match Kind.ofValue? (Fields.get fields "kind") with
          | none =>
            match (Fields.get fields "kind").flaw? with
            | none =>
              .ok (.error ⟨.validate,
                "Unknown calendar operation: " ++ (Fields.get fields "kind").quoted ++ ".", source⟩)
            | some flaw => .error (.unshown flaw)
          | some kind => .ok (.ok ⟨kind, paramsOf fields, messageOf fields⟩) := by
  unfold ofValue
  dsimp only
  split
  . contradiction
  . rfl

theorem ofValue?_of_not_showable {v : Value} (h : v.isShowable = false)
    : Kind.ofValue? v = none := by
  cases v with
  | text s => cases h
  | _ => rfl

theorem Verdict.read_eq (h : Verdict source found) : read source = found := by
  cases h with
  | objectless hnone =>
    unfold read
    rw [hnone]
  | malformed hobject hstrict hmended =>
    unfold read
    rw [hobject]
    dsimp only
    rw [(decode?_eq_none_iff hobject).mpr ⟨hstrict, hmended⟩]
  | kindless hholds hnull =>
    rw [read_of_holds hholds, ofValue]
    dsimp only
    rw [hnull]
  | unknown hholds hsome hunknown hplain =>
    rw [read_of_holds hholds, ofValue_of_ne_null hsome, hunknown]
    dsimp only
    rw [hplain]
  | unshown hholds hflaw =>
    have hunshown := Value.isShowable_eq_false.mpr ⟨_, hflaw⟩
    rw [read_of_holds hholds, ofValue_of_ne_null (Value.ne_null_of_not_showable hunshown),
      ofValue?_of_not_showable hunshown]
    dsimp only
    rw [hflaw]
  | command hholds hkind =>
    rw [read_of_holds hholds, ofValue_of_ne_null (ne_null_of_ofValue? hkind), hkind]

theorem read_eq_iff : read source = found ↔ Verdict source found := by
  constructor
  . rintro rfl
    exact verdict_read source
  . exact Verdict.read_eq

def IsRefusedAt (source : String) (stage : Stage) : Prop :=
  ∃ refusal, read source = .ok (.error refusal) ∧ refusal.stage = stage

theorem isRefusedAt_extract_iff : IsRefusedAt source .extract ↔ object? source.toList = none := by
  constructor
  . rintro ⟨refusal, hread, hstage⟩
    cases read_eq_iff.mp hread with
    | objectless hnone => exact hnone
    | _ => cases hstage
  . intro hnone
    exact ⟨_, read_eq_iff.mpr (.objectless hnone), rfl⟩

theorem isRefusedAt_parse_iff
    : IsRefusedAt source .parse
        ↔ ∃ candidate, object? source.toList = some candidate
            ∧ strict? candidate = none ∧ strict? (repair candidate) = none := by
  constructor
  . rintro ⟨refusal, hread, hstage⟩
    cases read_eq_iff.mp hread with
    | malformed hobject hstrict hmended => exact ⟨_, hobject, hstrict, hmended⟩
    | _ => cases hstage
  . rintro ⟨candidate, hobject, hstrict, hmended⟩
    exact ⟨_, read_eq_iff.mpr (.malformed hobject hstrict hmended), rfl⟩

theorem isRefusedAt_validate_iff
    : IsRefusedAt source .validate
        ↔ ∃ fields, Holds source fields ∧ Kind.ofValue? (Fields.get fields "kind") = none
            ∧ (Fields.get fields "kind").isShowable = true := by
  constructor
  . rintro ⟨refusal, hread, hstage⟩
    cases read_eq_iff.mp hread with
    | kindless hholds hnull => exact ⟨_, hholds, by rw [hnull]; rfl, by rw [hnull]; rfl⟩
    | unknown hholds hsome hunknown hplain =>
      exact ⟨_, hholds, hunknown, Value.isShowable_eq_true.mpr hplain⟩
    | _ => cases hstage
  . rintro ⟨fields, hholds, hunknown, hshowable⟩
    -- Both refusals are of this stage, but a kind that is missing is not shown.
    by_cases hnull : Fields.get fields "kind" = .null
    . exact ⟨_, read_eq_iff.mpr (.kindless hholds hnull), rfl⟩
    . have hplain := Value.isShowable_eq_true.mp hshowable
      exact ⟨_, read_eq_iff.mpr (.unknown hholds hnull hunknown hplain), rfl⟩

theorem read_eq_error_iff {cause : Crash}
    : read source = .error cause
        ↔ ∃ fields flaw, Holds source fields ∧ (Fields.get fields "kind").flaw? = some flaw
            ∧ cause = .unshown flaw := by
  constructor
  . intro hread
    cases read_eq_iff.mp hread with
    | unshown hholds hflaw => exact ⟨_, _, hholds, hflaw, rfl⟩
  . rintro ⟨fields, flaw, hholds, hflaw, rfl⟩
    exact read_eq_iff.mpr (.unshown hholds hflaw)

theorem read_eq_command_iff {c : Command}
    : read source = .ok (.ok c)
        ↔ ∃ fields, Holds source fields ∧ Kind.ofValue? (Fields.get fields "kind") = some c.kind
            ∧ c.params = paramsOf fields ∧ c.message = messageOf fields := by
  constructor
  . intro hread
    cases read_eq_iff.mp hread with
    | command hholds hkind => exact ⟨_, hholds, hkind, rfl, rfl⟩
  . rintro ⟨fields, hholds, hkind, hparams, hmessage⟩
    obtain ⟨kind, params, message⟩ := c
    dsimp only at hkind hparams hmessage
    subst hparams hmessage
    exact read_eq_iff.mpr (.command hholds hkind)

theorem text_of_read {refusal : Refusal} (h : read source = .ok (.error refusal))
    : refusal.text = source := by
  cases read_eq_iff.mp h with
  | _ => rfl

/--
Every text ends at one stage. It is refused at the first if there is no object in it, and at the
second if the strict reader takes neither the object nor its repaired form; what it takes otherwise is
a map. Then the kind decides: an unknown one is refused at the last stage if it can be shown where the
text is read, and breaks the reading off if it cannot; a known one gives the command. A kind that is
missing or `null` is unknown.
-/
theorem read_follows_stages (text : Option String)
    : let source := text.getD ""
      (IsRefusedAt source .extract ↔ object? source.toList = none)
      ∧ (IsRefusedAt source .parse
          ↔ ∃ candidate, object? source.toList = some candidate
              ∧ strict? candidate = none ∧ strict? (repair candidate) = none)
      ∧ (∀ candidate payload, object? source.toList = some candidate →
          decode? candidate = some payload → ∃ fields, payload = .map fields)
      ∧ (IsRefusedAt source .validate
          ↔ ∃ fields, Holds source fields ∧ Kind.ofValue? (Fields.get fields "kind") = none
              ∧ (Fields.get fields "kind").isShowable = true)
      ∧ (∀ cause, read source = .error cause
          ↔ ∃ fields flaw, Holds source fields ∧ (Fields.get fields "kind").flaw? = some flaw
              ∧ cause = .unshown flaw)
      ∧ (∀ c, read source = .ok (.ok c)
          ↔ ∃ fields, Holds source fields ∧ Kind.ofValue? (Fields.get fields "kind") = some c.kind
              ∧ c.params = paramsOf fields ∧ c.message = messageOf fields)
      ∧ ∀ refusal, read source = .ok (.error refusal) → refusal.text = source :=
  ⟨isRefusedAt_extract_iff, isRefusedAt_parse_iff, fun _ _ => exists_fields_of_decode?,
    isRefusedAt_validate_iff, fun _ => read_eq_error_iff, fun _ => read_eq_command_iff,
    fun _ => text_of_read⟩

end Verdicts

section Depths

open Json

theorem holds_of_renders {text : List Char} {fields : Fields}
    (h : Renders .strict Limits.strict.depth text (.map fields)) (after : List Char)
    : Holds (String.ofList (text ++ after)) fields := by
  refine ⟨text, ?_, .inl (strict?_eq_some_iff.mpr (.of_core h))⟩
  rw [String.toList_ofList, Snippet.object?_append_iff]
  exact isObject_of_renders (fun _ => False.elim) h

def brackets : Nat → List Char
  | 0 => ['[', ']']
  | n + 1 => '[' :: (brackets n ++ [']'])

theorem renders_nested (n depth : Nat)
    : Renders .strict (depth + (n + 1)) (brackets n) (Rehearsal.nested n) := by
  induction n with
  | zero => exact .inr (.noItems .nil)
  | succ n ih =>
    have hitems : IsSeries .strict (Padded (Renders .strict (depth + (n + 1)))) (brackets n ++ [])
        [Rehearsal.nested n] :=
      .last (.of_core ih) (.inl rfl)
    rw [List.append_nil] at hitems
    exact .inr (.items hitems)

def entangled (n : Nat) : List Char :=
  '{' :: ("\"kind\":".toList ++ brackets n ++ ['}'])

theorem renders_entangled (n depth : Nat)
    : Renders .strict (depth + (n + 1) + 1) (entangled n) (.map [("kind", Rehearsal.nested n)]) := by
  have hkey : IsString .strict "\"kind\"".toList "kind" :=
    .double_of_plain (s := ['k', 'i', 'n', 'd']) (forall_mem_of_all (by decide))
  have hfield : IsField .strict (Renders .strict (depth + (n + 1))) ("\"kind\":".toList ++ brackets n)
      ("kind", Rehearsal.nested n) :=
    ⟨_, _, .of_core (.quoted hkey), .of_core (renders_nested n depth), rfl⟩
  have hbody : IsSeries .strict (IsField .strict (Renders .strict (depth + (n + 1))))
      (("\"kind\":".toList ++ brackets n) ++ []) [("kind", Rehearsal.nested n)] :=
    .last hfield (.inl rfl)
  rw [List.append_nil] at hbody
  exact .inr (.fields hbody)

open scoped Rehearsal

/--
There is a kind that is unknown but not refused, as the refusal would have to show it.
-/
theorem not_forall_read_validates
    : ¬ ∀ (source : String) (fields : Fields), Holds source fields →
        Kind.ofValue? (Fields.get fields "kind") = none → IsRefusedAt source .validate := by
  intro hall
  -- The map and 1015 lists stay within the 1024 levels that the reader takes.
  have hholds := holds_of_renders (renders_entangled 1014 8) []
  have hflaw : (Rehearsal.nested 1014).flaw? = some .tooDeep := Rehearsal.flaw?_nested (by decide)
  have hunknown := ofValue?_of_not_showable (Value.isShowable_eq_false.mpr ⟨_, hflaw⟩)
  obtain ⟨refusal, hread, -⟩ := hall _ _ hholds hunknown
  rw [read_eq_iff.mpr (.unshown hholds hflaw)] at hread
  cases hread

end Depths

end Datebook.Command
