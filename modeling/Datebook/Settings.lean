import Datebook.Number.Numeral
import Datebook.Preferences
import Datebook.Settings.Words

/-!
This module contains the settings and their reading from the environment.
-/

namespace Datebook

abbrev Environment := List (String × String)

inductive SettingsFault where
  | integer (name : String)
  | horizon (name : String) (flaw : LengthFlaw)
  | words (name : String)
  deriving DecidableEq, Repr

structure ServerSettings where
  url : Option String
  command : Option String
  args : List String
  credentialsPath : Option String
  tokenPath : Option String
  connectTimeout : Binary64
  clientName : String
  deriving DecidableEq, Repr

inductive Patience where
  | none
  | brief
  | ample
  deriving DecidableEq, Repr

structure ModelSettings where
  apiKey : Option String
  model : String
  baseUrl : Option String
  organization : Option String
  project : Option String
  deriving DecidableEq, Repr

structure RetrySettings where
  attempts : Nat
  backoff : Binary64
  deriving DecidableEq, Repr

structure Settings where
  calendar : Preferences
  server : ServerSettings
  model : ModelSettings
  retry : RetrySettings
  deriving BEq, Repr

def given? (s : Option String) : Option String := s.filter (· ≠ "")

namespace ServerSettings

def isConfigured (s : ServerSettings) : Bool :=
  (given? s.url).isSome || (given? s.command).isSome

def missing (s : ServerSettings) : List String :=
  if s.isConfigured then [] else ["CALENDAR_MCP_URL", "CALENDAR_MCP_COMMAND"]

/--
The variables for a command that is started: those of this process, with the paths of the settings.
-/
def childEnvironment (s : ServerSettings) (env : Environment) : Environment :=
  let env := match given? s.credentialsPath with
    | none => env
    | some path => setNamed env "GOOGLE_OAUTH_CREDENTIALS" path
  match given? s.tokenPath with
  | none => env
  | some path => setNamed env "GOOGLE_CALENDAR_MCP_TOKEN_PATH" path

/--
How much time settings leave to enter a session. A number of seconds below a tenth of a millisecond,
and what is no number, leave a moment.
-/
def patience (s : ServerSettings) : Patience :=
  match s.connectTimeout with
  | .finite negative m e =>
    if negative ∨ m = 0 then .none
    else if m * Binary64.up e * 10000 < Binary64.down e then .brief
    else .ample
  | .infinite negative => if negative then .none else .ample
  | .nan => .brief

end ServerSettings

inductive Transport where
  | address (url : String)
  | command (command : String) (args : List String) (env : Environment)
  deriving DecidableEq, Repr

def ServerSettings.transport (s : ServerSettings) (env : Environment) : Transport :=
  match given? s.url with
  | some url => .address url
  | none => .command (s.command.getD "") s.args (s.childEnvironment env)

def version : String := "0.1.0"

namespace ModelSettings

def isConfigured (s : ModelSettings) : Bool :=
  (given? s.apiKey).isSome && s.model ≠ ""

def missing (s : ModelSettings) : List String :=
  (if (given? s.apiKey).isNone then ["OPENAI_API_KEY"] else [])
    ++ (if s.model = "" then ["OPENAI_MODEL"] else [])

end ModelSettings

namespace Settings

def days (env : Environment) (name : String) (default : Int) : Except SettingsFault Length :=
  match (given? (env.lookup name)).bind Numeral.float? with
  | none => .ok (default * Instant.day)
  | some x => (Length.ofFloat Instant.day x).mapError (.horizon name)

/--
A variable that holds a number; the default holds where it is empty or holds no number.
-/
def number (env : Environment) (name : String) (default : Binary64) : Binary64 :=
  ((given? (env.lookup name)).bind Numeral.float?).getD default

def integer (env : Environment) (name default : String) : Except SettingsFault Int :=
  match Numeral.int? ((env.lookup name).getD default) with
  | none => .error (.integer name)
  | some i => .ok i

def calendarOf (env : Environment) : Except SettingsFault Preferences := do
  let listHorizon ← days env "CALENDAR_LIST_HORIZON_DAYS" 7
  let searchHorizon ← days env "CALENDAR_SEARCH_HORIZON_DAYS" 30
  let availabilityHorizon ← days env "CALENDAR_AVAILABILITY_HORIZON_DAYS" 7
  let freeBusyHorizon ← days env "CALENDAR_FREEBUSY_HORIZON_DAYS" 7
  let duration ← integer env "CALENDAR_DEFAULT_DURATION_MINUTES" "60"
  .ok
    { zone := (env.lookup "CALENDAR_DEFAULT_TIMEZONE").getD "Asia/Kolkata"
      calendarId := (env.lookup "CALENDAR_DEFAULT_CALENDAR_ID").getD "primary"
      listHorizon
      searchHorizon
      availabilityHorizon
      freeBusyHorizon
      duration := .int duration }

def serverOf (env : Environment) : Except SettingsFault ServerSettings :=
  let name := "CALENDAR_MCP_ARGS"
  match Words.split? ((env.lookup name).getD "") with
  | none => .error (.words name)
  | some args =>
    .ok
      { url := given? (env.lookup "CALENDAR_MCP_URL")
        command := given? (env.lookup "CALENDAR_MCP_COMMAND")
        args
        credentialsPath := env.lookup "GOOGLE_OAUTH_CREDENTIALS"
        tokenPath := env.lookup "GOOGLE_CALENDAR_MCP_TOKEN_PATH"
        connectTimeout := number env "CALENDAR_MCP_CONNECT_TIMEOUT" (.ofInt 10)
        clientName := (env.lookup "CALENDAR_MCP_CLIENT_NAME").getD "calendar-copilot" }

def modelOf (env : Environment) : ModelSettings :=
  { apiKey := env.lookup "OPENAI_API_KEY"
    model := (env.lookup "OPENAI_MODEL").getD "gpt-4o-mini"
    baseUrl := env.lookup "OPENAI_BASE_URL"
    organization := env.lookup "OPENAI_ORG"
    project := env.lookup "OPENAI_PROJECT" }

def retryOf (env : Environment) : Except SettingsFault RetrySettings := do
  let attempts ← integer env "CALENDAR_UPSTREAM_RETRIES" "2"
  .ok ⟨attempts.toNat, number env "CALENDAR_UPSTREAM_BACKOFF_SECONDS" (.ofDecimal false 5 (-1))⟩

def ofEnvironment (env : Environment) : Except SettingsFault Settings := do
  let calendar ← calendarOf env
  let server ← serverOf env
  let retry ← retryOf env
  .ok ⟨calendar, server, modelOf env, retry⟩

end Settings

end Datebook
