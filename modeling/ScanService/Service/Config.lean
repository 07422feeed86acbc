import ScanService.Service.Runner

/-!
# The configuration

The service is configured by environment variables.  Only the address of the database is needed; a
variable that is unset, is no text, or does not read as its number counts as its default.  The
diagnostic text names neither the database nor the secret.
-/

namespace ScanService
namespace Service

/-- Why a variable has no text. -/
inductive ConfigError where
  /-- It is not set. -/
  | notPresent
  /-- It is no text. -/
  | notText
  deriving DecidableEq, Repr

/-- The text of an error, up to the bytes that are no text. -/
def ConfigError.message : ConfigError → String
  | notPresent => "environment variable not found"
  | notText => "environment variable was not valid unicode"

/-- What the environment holds for a variable. -/
inductive Variable where
  /-- Nothing. -/
  | unset
  /-- A text. -/
  | text (s : String)
  /-- Bytes that are no text. -/
  | garbled
  deriving DecidableEq, Repr

namespace Variable

/-- The text of a variable. -/
def text? : Variable → Option String
  | text s => some s
  | _ => none

/-- The text of a variable that is needed. -/
def required : Variable → Except ConfigError String
  | unset => .error .notPresent
  | garbled => .error .notText
  | text s => .ok s

/-- The text of a variable, or a default. -/
def textOr (v : Variable) (default : String) : String := v.text?.getD default

/-- Reads a number of at most `max`: digits, a plus sign allowed in front. -/
def readNumber? (max : Nat) (s : String) : Option Nat :=
  let digits := match s.toList with
    | '+' :: rest => rest
    | cs => cs
  (Text.readDecimal digits).bind fun n => if n ≤ max then some n else none

/-- The number of a variable, or a default. -/
def numberOr (v : Variable) (max default : Nat) : Nat :=
  (v.text?.bind (readNumber? max)).getD default

end Variable

/-- The configuration of the service. -/
structure Config where
  databaseUrl : String
  databaseMaxConnections : Nat
  host : String
  port : Nat
  dockerHostUrl : String
  gitPrivateSshKey : String
  imagePullPollSeconds : Nat
  imagePullCeilingSeconds : Nat
  backendRetryAttempts : Nat
  backendRetryDelayMillis : Nat
  deriving DecidableEq, Repr

namespace Config

/-- The variables that are looked at. -/
def variableNames : List String :=
  ["DATABASE_URL", "DATABASE_MAX_CONNECTIONS", "BACKEND_HOST", "BACKEND_PORT", "DOCKER_HOST_URL",
    "GIT_PRIVATE_SSH_KEY", "IMAGE_PULL_POLL_SECS", "IMAGE_PULL_CEILING_SECS",
    "BACKEND_RETRY_ATTEMPTS", "BACKEND_RETRY_DELAY_MS"]

/-- The address of the database, which every program of the service needs. -/
def databaseUrl? (env : String → Variable) : Except ConfigError String :=
  (env "DATABASE_URL").required

/-- Reads the configuration from an environment. -/
def ofEnvironment (env : String → Variable) : Except ConfigError Config := do
  let url ← databaseUrl? env
  return {
    databaseUrl := url
    databaseMaxConnections := (env "DATABASE_MAX_CONNECTIONS").numberOr (UInt32.size - 1) 10
    host := (env "BACKEND_HOST").textOr "0.0.0.0"
    port := (env "BACKEND_PORT").numberOr (UInt16.size - 1) 9999
    dockerHostUrl := (env "DOCKER_HOST_URL").textOr "http://127.0.0.1:2375"
    gitPrivateSshKey := (env "GIT_PRIVATE_SSH_KEY").textOr ""
    imagePullPollSeconds := (env "IMAGE_PULL_POLL_SECS").numberOr (UInt64.size - 1) 5
    imagePullCeilingSeconds := (env "IMAGE_PULL_CEILING_SECS").numberOr (UInt64.size - 1) 120
    backendRetryAttempts := (env "BACKEND_RETRY_ATTEMPTS").numberOr (UInt32.size - 1) 3
    backendRetryDelayMillis := (env "BACKEND_RETRY_DELAY_MS").numberOr (UInt64.size - 1) 500 }

/-- How runs are to be made: images are polled at most once a second. -/
def runnerSettings (c : Config) : RunnerSettings where
  secret := c.gitPrivateSshKey
  pollInterval := .ofSeconds (max c.imagePullPollSeconds 1)
  pullCeiling := .ofSeconds c.imagePullCeilingSeconds

/-- How long to sleep between attempts. -/
def retryDelay (c : Config) : Duration := .ofMillis c.backendRetryDelayMillis

/-- The diagnostic text of the configuration. -/
def debugText (c : Config) : String :=
  "AppConfig \x7b database_url: \"<redacted>\", database_max_connections: "
    ++ Text.decimalText c.databaseMaxConnections ++ ", host: " ++ Text.quoted c.host
    ++ ", port: " ++ Text.decimalText c.port
    ++ ", docker_host_url: " ++ Text.quoted c.dockerHostUrl
    ++ ", git_private_ssh_key: \"<redacted>\", image_pull_poll_secs: "
    ++ Text.decimalText c.imagePullPollSeconds
    ++ ", image_pull_ceiling_secs: " ++ Text.decimalText c.imagePullCeilingSeconds
    ++ ", backend_retry_attempts: " ++ Text.decimalText c.backendRetryAttempts
    ++ ", backend_retry_delay_ms: " ++ Text.decimalText c.backendRetryDelayMillis ++ " \x7d"

end Config
end Service
end ScanService
