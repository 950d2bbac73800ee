import Datebook.Plan

/-!
This module contains the rules by which it is shown what a plan asks and how it ends.
-/

namespace Datebook

structure Exchange where
  operation : String
  args : Fields
  answer : Value

namespace Plan

variable {α : Type} {ask : List Exchange → String → Fields → Prop}
  {fin : List Exchange → Except Fault α → Prop} {past : List Exchange}

/--
Whether every question of a plan meets `ask` and every end of it meets `fin`, whatever is answered.
Both are told the exchanges so far; `past` are those before the plan.
-/
def Meets (ask : List Exchange → String → Fields → Prop)
    (fin : List Exchange → Except Fault α → Prop) : List Exchange → Plan α → Prop
  | past, done result => fin past result
  | past, invoke operation args next =>
    ask past operation args
      ∧ ∀ answer, Meets ask fin (past ++ [⟨operation, args, answer⟩]) (next answer)

@[simp]
theorem meets_done {result : Except Fault α} : Meets ask fin past (done result) ↔ fin past result :=
  Iff.rfl

@[simp]
theorem meets_invoke {operation : String} {args : Fields} {next : Value → Plan α}
    : Meets ask fin past (invoke operation args next)
        ↔ ask past operation args
          ∧ ∀ answer, Meets ask fin (past ++ [⟨operation, args, answer⟩]) (next answer) :=
  Iff.rfl

end Plan

end Datebook
