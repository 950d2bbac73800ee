import Datebook.Command.Reading
import Datebook.Proofs.Relaxed
import Datebook.Rehearsal.Host

/-!
This module contains the verification of the search for an object against the repair: which written
forms of a map the search finds whole, so that the repair gets to see them.
-/

namespace Datebook.Command

open Json Snippet

/--
A written form of a map is decoded as that map. If this takes no repair, then a repair would have
changed nothing.
-/
theorem decode?_renders {d : Dialect} {text : List Char} {fields : Fields}
    (h : Renders d Limits.strict.depth text (.map fields)) : decode? text = some (.map fields) := by
  have hrepaired := Relaxed.strict?_repair (.of_core h)
  unfold decode?
  cases hstrict : strict? text with
  | none =>
    dsimp only
    rw [hrepaired]
  | some v =>
    obtain ⟨inner, rfl⟩ := h.exists_braces
    obtain ⟨found, rfl⟩ := exists_fields_of_strict? hstrict
    have hsame := (Relaxed.renders_repair (strict?_eq_some_iff.mp hstrict)).2 rfl
    have hopen : Text.isBlank '{' = false := rfl
    have hclose : Text.isBlank '}' = false := rfl
    have htrim := Text.trim_framed IsGap.nil.isBlank IsGap.nil.isBlank hopen hclose inner
    rw [List.nil_append, List.append_nil] at htrim
    rw [hsame, htrim, hstrict] at hrepaired
    exact hrepaired

/--
A map that is written with any of the liberties is found whole at the start of a text exactly if it is
an object for the search, which passes over double quotes only. Then the command is read from it,
whatever stands after it. It is an object if what stands between apostrophes is balanced.
-/
theorem read_finds_renderings [Host] (text : List Char) (fields : Fields)
    (h : Renders .relaxed Limits.strict.depth text (.map fields))
    : strict? (Relaxed.repair text) = some (.map fields)
        ∧ (∀ after, object? (text ++ after) = some text ↔ IsObject text)
        ∧ (IsObject text → ∀ after, read (String.ofList (text ++ after))
            = ofValue (.map fields) (String.ofList (text ++ after)))
        ∧ (Renders .balanced Limits.strict.depth text (.map fields) → IsObject text) := by
  refine ⟨Relaxed.strict?_repair (.of_core h), object?_append_iff, ?_, isObject_of_renders fun _ => id⟩
  intro hobject after
  have hfound := (object?_append_iff after).mpr hobject
  unfold read
  rw [String.toList_ofList, hfound]
  dsimp only
  rw [decode?_renders h]

section

open scoped Rehearsal

theorem read_finds_sample
    : Renders .relaxed Limits.strict.depth Relaxed.sample.toList (.map Relaxed.sampleFields)
      ∧ IsObject Relaxed.sample.toList
      ∧ ∀ after, object? (Relaxed.sample.toList ++ after) = some Relaxed.sample.toList
        ∧ read (String.ofList (Relaxed.sample.toList ++ after))
          = .ok (.ok ⟨.list, [("q-1", .list [.text "\"'\"", .null])], ""⟩) := by
  have hrelaxed : Renders .relaxed Limits.strict.depth Relaxed.sample.toList
      (.map Relaxed.sampleFields) := Relaxed.renders_sample trivial trivial trivial trivial
  have hquoted : IsBalanced ['"', '\\', '\'', '"'] := .quoted (.escape '\'' .nil) .nil
  have hbalanced : Renders .balanced Limits.strict.depth Relaxed.sample.toList
      (.map Relaxed.sampleFields) :=
    Relaxed.renders_sample (.of_plain (forall_mem_of_all (by decide))) hquoted trivial trivial
  obtain ⟨-, hfound, hread, hobject⟩ := read_finds_renderings _ _ hrelaxed
  refine ⟨hrelaxed, hobject hbalanced, ?_⟩
  intro after
  refine ⟨(hfound after).mpr (hobject hbalanced), ?_⟩
  rw [hread (hobject hbalanced)]
  rfl

end

def torn : String := "\x7b'kind': 'list', 'query': '\x7d'\x7d"

def tornFields : Fields := [("kind", .text "list"), ("query", .text "\x7d")]

theorem renders_torn : Renders .relaxed Limits.strict.depth torn.toList (.map tornFields) := by
  have hspace : IsGap [' '] := forall_mem_of_all (by decide)
  have hkind : IsString .relaxed "'kind'".toList "kind" :=
    .single_of_plain (s := ['k', 'i', 'n', 'd']) trivial (forall_mem_of_all (by decide))
  have hlist : IsString .relaxed "'list'".toList "list" :=
    .single_of_plain (s := ['l', 'i', 's', 't']) trivial (forall_mem_of_all (by decide))
  have hquery : IsString .relaxed "'query'".toList "query" :=
    .single_of_plain (s := ['q', 'u', 'e', 'r', 'y']) trivial (forall_mem_of_all (by decide))
  have hbrace : IsString .relaxed "'\x7d'".toList "\x7d" :=
    .single_of_plain (s := ['\x7d']) trivial (forall_mem_of_all (by decide))
  have hfirst : IsField .relaxed (Renders .relaxed 1023) "'kind': 'list'".toList
      ("kind", .text "list") :=
    .spaced .nil (.quoted hkind) (.inl (.text hlist)) (by decide)
  have hsecond : IsField .relaxed (Renders .relaxed 1023) " 'query': '\x7d'".toList
      ("query", .text "\x7d") :=
    .spaced hspace (.quoted hquery) (.inl (.text hbrace)) (by decide)
  have hbody : IsSeries .relaxed (IsField .relaxed (Renders .relaxed 1023))
      "'kind': 'list', 'query': '\x7d'".toList tornFields :=
    .more hfirst (.last hsecond (.inl rfl))
  exact .inr (.fields hbody)

section

open scoped Rehearsal

theorem read_loses_torn
    : Renders .relaxed Limits.strict.depth torn.toList (.map tornFields)
      ∧ strict? (Relaxed.repair torn.toList) = some (.map tornFields)
      ∧ object? torn.toList ≠ some torn.toList
      ∧ read torn = .ok (.error ⟨.parse, "Calendar command is not valid JSON.", torn⟩) := by
  refine ⟨renders_torn, Relaxed.strict?_repair (.of_core renders_torn), ?_, ?_⟩
  . decide
  . have hcut : object? torn.toList = some "\x7b'kind': 'list', 'query': '\x7d".toList := by decide
    have hunread : decode? "\x7b'kind': 'list', 'query': '\x7d".toList = none :=
      Option.isNone_iff_eq_none.mp (by decide +kernel)
    unfold read
    rw [hcut]
    dsimp only
    rw [hunread]

end

end Datebook.Command
