import Datebook.Chat

/-!
This module contains a language model that plays prepared replies.
-/

namespace Datebook.Rehearsal

abbrev Replies := List (Except String (Option String))

/--
The model that plays prepared replies in order. When they are used up its replies have no text.
-/
def model : LanguageModel Replies where
  reply replies _ :=
    match replies with
    | [] => (.ok none, [])
    | reply :: rest => (reply, rest)

end Datebook.Rehearsal
