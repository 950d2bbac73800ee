import Datebook.Fault
import Datebook.Time.Zone
import Datebook.Value

/-!
This module contains what a command finds where it is carried out and does not bring along: the
zones that have a name there, and the limits to showing a value as text.
-/

namespace Datebook

/--
Whether a value is one that stands in a map without making it any harder to show.
-/
def Value.isPlain : Value → Bool
  | null | text _ => true
  | _ => false

/--
A place where commands are carried out. Names of zones are those of a database, whose clocks stay
within a day of universal time. Integers, lists and maps may be too large to be shown, which every
place decides by itself; all other values can be shown everywhere.
-/
class Host where
  zone? : String → Option Zone
  zone?_name {name : String} {zone : Zone} : zone? name = some zone → zone.name = name
  zone?_near {name : String} {zone : Zone} : zone? name = some zone → zone.IsNear
  showFlaw? : Value → Option ShowFlaw
  showFlaw?_plain {before after : Fields} {name : String} {v : Value} : v.isPlain = true →
    showFlaw? (.map (before ++ (name, v) :: after)) = showFlaw? (.map (before ++ after))

namespace Value

variable [Host]

/--
What keeps a value from being shown.
-/
def flaw? (v : Value) : Option ShowFlaw :=
  match v with
  | int _ | list _ | map _ => Host.showFlaw? v
  | _ => none

def isShowable (v : Value) : Bool :=
  v.flaw?.isNone

/--
Whether a value is nested too deeply to be noted in a log. A log passes over other values that it
cannot show.
-/
def isTooDeep (v : Value) : Bool :=
  v.flaw? = some .tooDeep

end Value

end Datebook
