import Datebook.Fault
import Datebook.Value

/-!
This module contains plans: what is to be asked of the calendar service, where each further question
may depend on the answers so far. A plan does nothing by itself; `Backend` carries it out.
-/

namespace Datebook

/--
A plan ends with a result or a fault, or asks the service for an operation and goes on with the
service's answer.
-/
inductive Plan (α : Type) where
  | done (result : Except Fault α)
  | invoke (operation : String) (args : Fields) (next : Value → Plan α)

namespace Plan

def bind {α β : Type} : Plan α → (α → Plan β) → Plan β
  | done (.ok a), f => f a
  | done (.error e), _ => done (.error e)
  | invoke operation args next, f => invoke operation args fun answer => (next answer).bind f

instance : Monad Plan where
  pure a := done (.ok a)
  bind := bind

/--
The plan that asks once, if the arguments can be made, and ends with what is made of the answer.
-/
def ask {α : Type} (operation : String) (args : Except Fault Fields)
    (result : Value → Except Fault α) : Plan α :=
  match args with
  | .error e => done (.error e)
  | .ok args => invoke operation args fun answer => done (result answer)

@[simp]
theorem bind_ok {α β : Type} (a : α) (f : α → Plan β) : (done (.ok a)).bind f = f a := rfl

@[simp]
theorem bind_error {α β : Type} (e : Fault) (f : α → Plan β) :
    (done (.error e) : Plan α).bind f = done (.error e) := rfl

@[simp]
theorem bind_invoke {α β : Type} (operation : String) (args : Fields) (next : Value → Plan α)
    (f : α → Plan β) :
    (invoke operation args next).bind f = invoke operation args fun v => (next v).bind f := rfl

end Plan

end Datebook
