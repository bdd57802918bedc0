import LedgerFlow.Fault
import LedgerFlow.Text.Upper
import LedgerFlow.Measure

/-!
# Configuration

The endpoint, the network, fees, polling and HTTP behaviour of a pipeline.  Settings come from
named fields or from environment variables; they are checked in a fixed order and become a `Config`.
Overrides are applied to a configuration whose numbers have taken their types.
-/

namespace LedgerFlow

/-- The version of this program. -/
def version : String := "0.1.0"

/-- How requests name their sender. -/
def defaultUserAgent : String := "soroban-pipeline-py/" ++ version

def defaultRpcUrl : String := "http://localhost:8000/soroban/rpc"

def testnetPassphrase : String := "Test SDF Network ; September 2015"

variable {τ : Type} [Measure τ]

/-- A checked configuration. -/
structure Config (τ : Type) where
  rpcUrl : Option String
  networkPassphrase : String
  baseFee : Int
  authHorizon : Int
  /-- The interval between two polls, as it is given. -/
  pollInterval : Amount τ
  pollAttempts : Int
  requestTimeout : τ
  maxRetries : Int
  backoffFactor : τ
  logLevel : String
  userAgent : String

/-- Settings as they are given; a field that cannot be read counts when it is checked. -/
structure Settings (τ : Type) where
  rpcUrl : Value.Read (Option String)
  networkPassphrase : Value.Read String
  baseFee : Value.Read (Amount τ)
  authHorizon : Value.Read (Amount τ)
  pollInterval : Value.Read (Amount τ)
  pollAttempts : Value.Read (Amount τ)
  requestTimeout : Value.Read (Amount τ)
  maxRetries : Value.Read (Amount τ)
  backoffFactor : Value.Read τ
  logLevel : Value.Read String
  userAgent : Value.Read String

namespace Settings

/-- The settings when nothing is given. -/
def default : Settings τ where
  rpcUrl := .ok (some defaultRpcUrl)
  networkPassphrase := .ok testnetPassphrase
  baseFee := .ok (.whole 100)
  authHorizon := .ok (.whole 60)
  pollInterval := .ok (.whole 1)
  pollAttempts := .ok (.whole 30)
  requestTimeout := .ok (.whole 30)
  maxRetries := .ok (.whole 0)
  backoffFactor := .ok (Measure.ofBinary64 ⟨0x3FD0000000000000⟩)
  logLevel := .ok "WARNING"
  userAgent := .ok defaultUserAgent

/-- Whether a URL starts with one of the schemes, in any case of letters. -/
def hasScheme (url : String) : Bool :=
  let lower := (Text.lowerAscii url).toList
  "http://".toList.isPrefixOf lower || "https://".toList.isPrefixOf lower

/-- An endpoint that is given has to be a web address. -/
def checkScheme (url : Option String) : Except Fault Unit :=
  match url with
  | none => .ok ()
  | some url => if url.isEmpty || hasScheme url then .ok () else .error (.config (.scheme url))

/-- A number that has to be positive, or at least not negative. -/
def checkPositive (name : String) (zeroAllowed : Bool) (amount : Value.Read (Amount τ)) :
    Except Fault (Amount τ) := do
  let a ← amount
  if a.isNegative || (a.isZero && !zeroAllowed) then
    .error (.config (.notPositive name zeroAllowed a.text))
  else pure a

/-- Checks settings in the order of their importance. -/
def check (s : Settings τ) : Except Fault (Config τ) := do
  let rpcUrl ← s.rpcUrl
  checkScheme rpcUrl
  let baseFee ← checkPositive "base_fee" false s.baseFee
  let authHorizon ← checkPositive "auth_horizon" false s.authHorizon
  let pollInterval ← checkPositive "poll_interval" true s.pollInterval
  let pollAttempts ← checkPositive "poll_attempts" false s.pollAttempts
  let requestTimeout ← checkPositive "request_timeout" false s.requestTimeout
  let maxRetries ← checkPositive "max_retries" true s.maxRetries
  let networkPassphrase ← s.networkPassphrase
  if networkPassphrase.isEmpty then .error (.config .emptyPassphrase)
  else
    pure {
      rpcUrl, networkPassphrase
      baseFee := ← baseFee.toInt
      authHorizon := ← authHorizon.toInt
      pollInterval
      pollAttempts := ← pollAttempts.toInt
      requestTimeout := ← requestTimeout.toDuration
      maxRetries := ← maxRetries.toInt
      backoffFactor := ← s.backoffFactor
      logLevel := ← s.logLevel
      userAgent := ← s.userAgent }

/-- The names of the settings. -/
def names : List String :=
  ["rpc_url", "network_passphrase", "base_fee", "auth_horizon", "poll_interval", "poll_attempts",
    "request_timeout", "max_retries", "backoff_factor", "log_level", "user_agent"]

/-- A text setting. -/
def textOf : Value → Value.Read String
  | .text s => .ok s
  | _ => .error .wrongType

/-- An optional text setting; anything else but null has no text operations. -/
def optionalTextOf : Value → Value.Read (Option String)
  | .null => .ok none
  | .text s => .ok (some s)
  | _ => .error .noFields

/-- The passphrase; null counts as empty. -/
def passphraseOf : Value → Value.Read String
  | .null => .ok ""
  | v => textOf v

/-- Settings with one field replaced. -/
def set (s : Settings τ) (name : String) (v : Value) : Settings τ :=
  match name with
  | "rpc_url" => { s with rpcUrl := optionalTextOf v }
  | "network_passphrase" => { s with networkPassphrase := passphraseOf v }
  | "base_fee" => { s with baseFee := Amount.ofValue v }
  | "auth_horizon" => { s with authHorizon := Amount.ofValue v }
  | "poll_interval" => { s with pollInterval := Amount.ofValue v }
  | "poll_attempts" => { s with pollAttempts := Amount.ofValue v }
  | "request_timeout" => { s with requestTimeout := Amount.ofValue v }
  | "max_retries" => { s with maxRetries := Amount.ofValue v }
  | "backoff_factor" => { s with backoffFactor := Measure.ofBinary64 <$> v.toReal }
  | "log_level" => { s with logLevel := textOf v }
  | "user_agent" => { s with userAgent := textOf v }
  | _ => s

/-- The settings of a configuration. -/
def ofConfig (c : Config τ) : Settings τ where
  rpcUrl := .ok c.rpcUrl
  networkPassphrase := .ok c.networkPassphrase
  baseFee := .ok (.whole c.baseFee)
  authHorizon := .ok (.whole c.authHorizon)
  pollInterval := .ok (.real c.pollInterval.toTime)
  pollAttempts := .ok (.whole c.pollAttempts)
  requestTimeout := .ok (.real c.requestTimeout)
  maxRetries := .ok (.whole c.maxRetries)
  backoffFactor := .ok c.backoffFactor
  logLevel := .ok c.logLevel
  userAgent := .ok c.userAgent

end Settings

/-- Environment variables. -/
abbrev Environment := List (String × String)

namespace Environment

/-- A variable, or a default when it is not set or empty. -/
def nonEmpty (env : Environment) (name default : String) : String :=
  match env.lookup name with
  | some s => if s.isEmpty then default else s
  | none => default

/-- A whole number, or a default when the variable is not set. -/
def whole (env : Environment) (name : String) (default : Int) : Except Fault (Amount τ) :=
  match env.lookup name with
  | some s => do pure (.whole (← (Value.text s).toInt))
  | none => .ok (.whole default)

/-- A number, or a default when the variable is not set. -/
def number (env : Environment) (name default : String) : Except Fault τ := do
  let x ← (Value.text ((env.lookup name).getD default)).toReal
  pure (Measure.ofBinary64 x)

end Environment

namespace Settings

/-- Settings from environment variables with a common beginning of their names.  Numbers are read
before anything is checked. -/
def ofEnvironment (env : Environment) (start : String) : Except Fault (Settings τ) := do
  let rpcUrl := env.nonEmpty (start ++ "RPC_URL") defaultRpcUrl
  let networkPassphrase := env.nonEmpty (start ++ "NETWORK_PASSPHRASE") testnetPassphrase
  let baseFee ← env.whole (start ++ "FEE") 100
  let authHorizon ← env.whole (start ++ "AUTH_HORIZON") 60
  let pollInterval ← env.number (start ++ "POLL_INTERVAL") "1.0"
  let pollAttempts ← env.whole (start ++ "POLL_ATTEMPTS") 30
  let requestTimeout ← env.number (start ++ "TIMEOUT") "30.0"
  let maxRetries ← env.whole (start ++ "MAX_RETRIES") 0
  let backoffFactor ← env.number (start ++ "BACKOFF") "0.25"
  let logLevel := Text.upper (env.nonEmpty (start ++ "LOG_LEVEL") "WARNING")
  let userAgent := env.nonEmpty (start ++ "USER_AGENT") defaultUserAgent
  pure {
    rpcUrl := .ok (some rpcUrl)
    networkPassphrase := .ok networkPassphrase
    baseFee := .ok baseFee
    authHorizon := .ok authHorizon
    pollInterval := .ok (.real pollInterval)
    pollAttempts := .ok pollAttempts
    requestTimeout := .ok (.real requestTimeout)
    maxRetries := .ok maxRetries
    backoffFactor := .ok backoffFactor
    logLevel := .ok logLevel
    userAgent := .ok userAgent }

end Settings

namespace Config

/-- A configuration from named fields; a name that is no setting is an error. -/
def ofFields (fields : List (String × Value)) : Except Fault (Config τ) :=
  if fields.all fun f => Settings.names.contains f.1 then
    (fields.foldl (fun s f => s.set f.1 f.2) (Settings.default : Settings τ)).check
  else .error (.malformed .wrongType)

/-- A configuration from environment variables. -/
def ofEnvironment (env : Environment) (start : String) : Except Fault (Config τ) := do
  (← Settings.ofEnvironment env start).check

/-- A configuration with overrides; unknown names and nulls are ignored. -/
def override (c : Config τ) (overrides : List (String × Value)) : Except Fault (Config τ) :=
  ((overrides.filter fun f => !f.2.isNull).foldl (fun s f => s.set f.1 f.2)
    (Settings.ofConfig c)).check

/-- The headers of requests. -/
def headers (c : Config τ) : List (String × String) :=
  [("Content-Type", "application/json"), ("Accept", "application/json"),
    ("User-Agent", c.userAgent)]

/-- The settings by name; `time` writes durations. -/
def toValue (time : τ → Value) (c : Config τ) : Value :=
  .record [("rpc_url", .ofOption .text c.rpcUrl), ("network_passphrase", .text c.networkPassphrase),
    ("base_fee", .int c.baseFee), ("auth_horizon", .int c.authHorizon),
    ("poll_interval", time c.pollInterval.toTime), ("poll_attempts", .int c.pollAttempts),
    ("request_timeout", time c.requestTimeout), ("max_retries", .int c.maxRetries),
    ("backoff_factor", time c.backoffFactor), ("log_level", .text c.logLevel),
    ("user_agent", .text c.userAgent)]

end Config
end LedgerFlow
