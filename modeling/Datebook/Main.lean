import Datebook.Program
import Datebook.Rehearsal.Host
import Std.Time.DateTime.Timestamp

/-!
This module contains the program as it is started from a command line. It has no session with a
calendar service and no reply of a language model at hand, so every request to them is answered as
if they could not be reached.
-/

namespace Datebook

def variableNames : List String :=
  ["CALENDAR_COPILOT_LOG_LEVEL", "CALENDAR_DEFAULT_TIMEZONE", "CALENDAR_DEFAULT_CALENDAR_ID",
    "CALENDAR_LIST_HORIZON_DAYS", "CALENDAR_SEARCH_HORIZON_DAYS",
    "CALENDAR_AVAILABILITY_HORIZON_DAYS", "CALENDAR_FREEBUSY_HORIZON_DAYS",
    "CALENDAR_DEFAULT_DURATION_MINUTES", "CALENDAR_MCP_URL", "CALENDAR_MCP_COMMAND",
    "CALENDAR_MCP_ARGS", "GOOGLE_OAUTH_CREDENTIALS", "GOOGLE_CALENDAR_MCP_TOKEN_PATH",
    "CALENDAR_MCP_CONNECT_TIMEOUT", "CALENDAR_MCP_CLIENT_NAME", "OPENAI_API_KEY", "OPENAI_MODEL",
    "OPENAI_BASE_URL", "OPENAI_ORG", "OPENAI_PROJECT", "CALENDAR_UPSTREAM_RETRIES",
    "CALENDAR_UPSTREAM_BACKOFF_SECONDS"]

def readEnvironment : IO Environment :=
  variableNames.filterMapM fun name => do
    return (← IO.getEnv name).map fun value => (name, value)

def readClock : IO Instant := do
  let now ← Std.Time.Timestamp.now
  let start := ((⟨1970, 1, 1⟩ : Date).toDays : Int) * Instant.day
  return start + now.toMillisecondsSinceUnixEpoch.val * 1000

end Datebook

open scoped Datebook.Rehearsal

def main (args : List String) : IO UInt32 := do
  let surroundings : Datebook.Program.Surroundings :=
    { input := ← (← IO.getStdin).readToEnd
      environment := ← Datebook.readEnvironment
      sessions := []
      replies := []
      now := ← Datebook.readClock }
  let report := Datebook.Program.run surroundings args
  IO.print report.output
  match report.ending with
  | .ok status => return status.toUInt32
  | .error _ => return 1
