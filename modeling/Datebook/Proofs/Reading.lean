import Datebook.Command.Reading
import Datebook.Proofs.Reader
import Datebook.Rehearsal.Host

/-!
This module contains the verification of how a command is found in running text: an object that can
be decoded as it stands is the one that is read, whatever the words around it are.
-/

namespace Datebook.Command

variable (repair : List Char → List Char)

def decodeWith? (candidate : List Char) : Option Value :=
  match Json.strict? candidate with
  | some .null | none =>
    match Json.strict? (repair candidate) with
    | some .null | none => none
    | some v => some v
  | some v => some v

def readWith [Host] (source : String) : Except Crash (Except Refusal Command) :=
  match Snippet.object? source.toList with
  | none => .ok (.error ⟨.extract, "No calendar command found in text.", source⟩)
  | some candidate =>
    match decodeWith? repair candidate with
    | none => .ok (.error ⟨.parse, "Calendar command is not valid JSON.", source⟩)
    | some payload => ofValue payload source

theorem object?_of_strict? {before object : List Char} {v : Value} (hbefore : '{' ∉ before)
    (hhead : object.head? = some '{') (hlast : object.getLast? = some '}')
    (hstrict : Json.strict? object = some v) (after : List Char)
    : Snippet.object? (before ++ object ++ after) = some object := by
  obtain ⟨inner, hobject, hinner⟩ := Json.isBalanced_of_read? hhead hlast hstrict
  have hfound := Snippet.object?_eq_some hbefore hinner after
  rw [hobject]
  rw [List.append_assoc, List.cons_append, List.append_assoc, List.singleton_append]
  exact hfound

theorem readWith_repair [Host] (source : String) : readWith Relaxed.repair source = read source := rfl

variable {repair}

theorem readWith_of_object [Host] {source : String} {object : List Char} {fields : Fields}
    (hobject : Snippet.object? source.toList = some object)
    (hstrict : Json.strict? object = some (.map fields))
    : readWith repair source = ofValue (.map fields) source := by
  unfold readWith decodeWith?
  simp only [hobject, hstrict]

/--
An object that the strict reader takes as a map is the payload of the command, for any words before
it without an opening brace and any words after it. The repair plays no part: any function in its
place gives the same.
-/
theorem read_surrounded [Host] {before object after : String} {fields : Fields}
    (hbefore : '{' ∉ before.toList) (hhead : object.toList.head? = some '{')
    (hlast : object.toList.getLast? = some '}')
    (hstrict : Json.strict? object.toList = some (.map fields))
    : read (before ++ object ++ after) = ofValue (.map fields) (before ++ object ++ after)
      ∧ ∀ repair, readWith repair (before ++ object ++ after) = read (before ++ object ++ after) := by
  have hobject : Snippet.object? (before ++ object ++ after).toList = some object.toList := by
    rw [String.toList_append, String.toList_append]
    exact object?_of_strict? hbefore hhead hlast hstrict after.toList
  have hread : read (before ++ object ++ after) = ofValue (.map fields) (before ++ object ++ after) := by
    rw [← readWith_repair]
    exact readWith_of_object hobject hstrict
  refine ⟨hread, ?_⟩
  intro repair
  rw [hread]
  exact readWith_of_object hobject hstrict

def prose : String := "Sure, \"this\" \x7d is it: "

/--
An object with nested containers, and with braces, quotes and backslashes inside its texts.
-/
def payload : String :=
  "\x7b\"kind\": \"list\", \"params\": \x7b\"query\": \"a \\\"\x7d\\\" and \\\\\", \"all\": [\x7b\x7d, 12]\x7d\x7d"

def payloadFields : Fields :=
  [("kind", .text "list"),
    ("params", .map [("query", .text "a \"\x7d\" and \\"), ("all", .list [.map [], .int 12])])]

def afterthought : String := " \x7d \" \\ \x7b and \x7b\"kind\": 1\x7d"

section

open Json

theorem renders_payload : Renders .strict Limits.strict.depth payload.toList (.map payloadFields) := by
  have hspace : IsGap [' '] := forall_mem_of_all (by decide)
  have hkind : IsString .strict "\"kind\"".toList "kind" :=
    .double_of_plain (s := ['k', 'i', 'n', 'd']) (forall_mem_of_all (by decide))
  have hlist : IsString .strict "\"list\"".toList "list" :=
    .double_of_plain (s := ['l', 'i', 's', 't']) (forall_mem_of_all (by decide))
  have hparams : IsString .strict "\"params\"".toList "params" :=
    .double_of_plain (s := ['p', 'a', 'r', 'a', 'm', 's']) (forall_mem_of_all (by decide))
  have hquery : IsString .strict "\"query\"".toList "query" :=
    .double_of_plain (s := ['q', 'u', 'e', 'r', 'y']) (forall_mem_of_all (by decide))
  have hall : IsString .strict "\"all\"".toList "all" :=
    .double_of_plain (s := ['a', 'l', 'l']) (forall_mem_of_all (by decide))
  have hquote {body s : List Char} (hbody : SpellsAll '"' body s)
      : SpellsAll '"' ('\\' :: '"' :: body) ('"' :: s) :=
    .cons (.letter (by decide)) hbody
  have hend : SpellsAll '"' [' ', 'a', 'n', 'd', ' ', '\\', '\\'] [' ', 'a', 'n', 'd', ' ', '\\'] :=
    .plain_append (s := [' ', 'a', 'n', 'd', ' ']) (forall_mem_of_all (by decide))
      (.cons (.letter (by decide)) .nil)
  have hbrace : SpellsAll '"' ['\x7d', '\\', '"', ' ', 'a', 'n', 'd', ' ', '\\', '\\']
      ['\x7d', '"', ' ', 'a', 'n', 'd', ' ', '\\'] :=
    .plain_append (s := ['\x7d']) (forall_mem_of_all (by decide)) (hquote hend)
  have hspelt : SpellsAll '"'
      ['a', ' ', '\\', '"', '\x7d', '\\', '"', ' ', 'a', 'n', 'd', ' ', '\\', '\\']
      ['a', ' ', '"', '\x7d', '"', ' ', 'a', 'n', 'd', ' ', '\\'] :=
    .plain_append (s := ['a', ' ']) (forall_mem_of_all (by decide)) (hquote hbrace)
  have hwords : IsString .strict "\"a \\\"\x7d\\\" and \\\\\"".toList "a \"\x7d\" and \\" :=
    .double hspelt
  have hwhole : IsWhole ['1', '2'] [1, 2] :=
    .digits (by decide) ⟨by decide, forall_mem_of_all (by decide), rfl⟩
  have hnumeral : IsNumeral ['1', '2'] ⟨false, [1, 2], [], none⟩ :=
    @IsNumeral.mk ['1', '2'] [] [] ⟨false, [1, 2], [], none⟩ hwhole .none .none
  have hempty : Padded (Renders .strict 1021) "\x7b\x7d".toList (.map []) :=
    .of_core (.inr (.noFields .nil))
  have hnumber : Padded (Renders .strict 1021) " 12".toList (.int 12) :=
    ⟨[' '], ['1', '2'], [], hspace, .inl (.number hnumeral rfl), .nil, rfl⟩
  have hitems : IsSeries .strict (Padded (Renders .strict 1021)) "\x7b\x7d, 12".toList
      [.map [], .int 12] :=
    .more hempty (.last hnumber (.inl rfl))
  have hqueryField : IsField .strict (Renders .strict 1022)
      "\"query\": \"a \\\"\x7d\\\" and \\\\\"".toList ("query", .text "a \"\x7d\" and \\") :=
    .spaced .nil (.quoted hquery) (.inl (.text hwords)) (by decide)
  have hallField : IsField .strict (Renders .strict 1022) " \"all\": [\x7b\x7d, 12]".toList
      ("all", .list [.map [], .int 12]) :=
    .spaced hspace (.quoted hall) (.inr (.items hitems)) (by decide)
  have hinner := IsSeries.more (d := .strict) hqueryField (.last hallField (.inl rfl))
  have hkindField : IsField .strict (Renders .strict 1023) "\"kind\": \"list\"".toList
      ("kind", .text "list") :=
    .spaced .nil (.quoted hkind) (.inl (.text hlist)) (by decide)
  have hparamsField : IsField .strict (Renders .strict 1023)
      " \"params\": \x7b\"query\": \"a \\\"\x7d\\\" and \\\\\", \"all\": [\x7b\x7d, 12]\x7d".toList
      ("params", .map [("query", .text "a \"\x7d\" and \\"), ("all", .list [.map [], .int 12])]) :=
    .spaced hspace (.quoted hparams) (.inr (.fields hinner)) (by decide)
  have hbody := IsSeries.more (d := .strict) hkindField (.last hparamsField (.inl rfl))
  obtain ⟨text, hrenders, htext⟩ : ∃ text, Renders .strict Limits.strict.depth text (.map payloadFields)
      ∧ payload.toList = text :=
    ⟨_, .inr (.fields hbody), by decide⟩
  rwa [htext]

theorem strict?_payload : Json.strict? payload.toList = some (.map payloadFields) :=
  strict?_eq_some_iff.mpr (.of_core renders_payload)

end

section

open scoped Rehearsal

theorem read_surrounded_payload
    : ('{' ∉ prose.toList ∧ payload.toList.head? = some '{' ∧ payload.toList.getLast? = some '}'
        ∧ Json.strict? payload.toList = some (.map payloadFields))
      ∧ read (prose ++ payload ++ afterthought)
        = ofValue (.map payloadFields) (prose ++ payload ++ afterthought)
      ∧ ∀ repair, readWith repair (prose ++ payload ++ afterthought)
        = read (prose ++ payload ++ afterthought) := by
  have hbefore : '{' ∉ prose.toList := by decide
  have hhead : payload.toList.head? = some '{' := by decide
  have hlast : payload.toList.getLast? = some '}' := by decide
  exact ⟨⟨hbefore, hhead, hlast, strict?_payload⟩,
    read_surrounded hbefore hhead hlast strict?_payload⟩

end

end Datebook.Command
