/-!
This module contains the help that the command line gives.
-/

namespace Datebook.CommandLine

inductive Topic where
  | program
  | interpret
  | chat
  | ping
  deriving DecidableEq, Repr

namespace Topic

def usage : Topic → String
  | program => "calendar-copilot [-h] [--log-level LOG_LEVEL] \x7binterpret,chat,ping\x7d ..."
  | interpret => "calendar-copilot interpret [-h] [text]"
  | chat => "calendar-copilot chat [-h]"
  | ping => "calendar-copilot ping [-h]"

def details : Topic → List String
  | program =>
    ["Run calendar commands written by a language model.",
     "",
     "positional arguments:",
     "  \x7binterpret,chat,ping\x7d",
     "    interpret           Run the command embedded in TEXT (or stdin).",
     "    chat                Interactive chat that can act on your calendar.",
     "    ping                Check the calendar backend connection.",
     "",
     "options:",
     "  -h, --help            show this help message and exit",
     "  --log-level LOG_LEVEL",
     "                        Override CALENDAR_COPILOT_LOG_LEVEL."]
  | interpret =>
    ["positional arguments:",
     "  text        Model output; read from stdin when omitted.",
     "",
     "options:",
     "  -h, --help  show this help message and exit"]
  | chat | ping =>
    ["options:",
     "  -h, --help  show this help message and exit"]

def help (topic : Topic) : String :=
  let lines := ("usage: " ++ topic.usage) :: "" :: topic.details
  String.join (lines.map (· ++ "\n"))

end Topic

end Datebook.CommandLine
