import Datebook.Command
import Datebook.Field
import Datebook.Time.Window

/-!
This module contains what the user has settled about calendars beforehand, and the parameters of
commands for which it supplies the defaults.
-/

namespace Datebook

/--
The defaults for commands: the zone, the calendar, how far windows reach from now, and the duration of
a slot in minutes.
-/
structure Preferences where
  zone : String
  calendarId : String
  listHorizon : Length
  searchHorizon : Length
  availabilityHorizon : Length
  freeBusyHorizon : Length
  duration : Value
  detailed : Bool := false
  deriving BEq, Repr

namespace Preferences

variable [Host]

def zoneParam (params : Fields) : Value :=
  Command.param params ["timeZone", "timezone"]

def calendarOf (prefs : Preferences) (params : Fields) : Except Fault String := do
  let given ← Field.text (Command.param params ["calendarId"])
  .ok (if given = "" then prefs.calendarId else given)

def zoneOf (prefs : Preferences) (params : Fields) : Except Fault String :=
  Zone.resolve (zoneParam params) prefs.zone

/--
The window between two parameters of a command, reaching over the horizon from now where they are not
given.
-/
def windowOf (prefs : Preferences) (now : Instant) (params : Fields) (horizon : Length)
    (startNames finishNames : List String) : Except Fault Window :=
  Window.resolve (Command.param params startNames) (Command.param params finishNames)
    (zoneParam params) prefs.zone (some horizon) now

def listingWindow (prefs : Preferences) (now : Instant) (params : Fields) (horizon : Length) :
    Except Fault Window :=
  prefs.windowOf now params horizon ["timeMin", "start"] ["timeMax", "end"]

/--
The window in which an event is searched that is to be changed or deleted. Without any bound it is
the present day of the default zone.
-/
def targetWindow (prefs : Preferences) (now : Instant) (params : Fields) :
    Except Fault (Option Window) :=
  let startNames := ["searchTimeMin", "timeMin"]
  let finishNames := ["searchTimeMax", "timeMax"]
  match Command.param params startNames, Command.param params finishNames with
  | .null, .null => .ok none
  | _, _ => (prefs.windowOf now params Instant.day startNames finishNames).map some

end Preferences

def Window.toArgs (w : Window) : Fields :=
  [("timeMin", .text w.start), ("timeMax", .text w.finish), ("timeZone", .text w.zone)]

end Datebook
