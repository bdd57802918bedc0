import LedgerFlow.Host.Label
import LedgerFlow.Strkey
import LedgerFlow.Value.Reader

/-!
# Faults

What can end a stage.  `PipelineError` is the family that callers handle: refusals by the node, by
a signer, by local validation, and transport failures.  `Fault` is everything else as well.  An
outcome on the ledger, a failed transaction or one not seen in time, is not a fault.
-/

namespace LedgerFlow

/-- Known codes of remote call errors. -/
inductive RpcCode where
  | parseError
  | invalidRequest
  | methodNotFound
  | invalidParams
  | internalError
  | serverError
  | transportError
  deriving DecidableEq, Repr

namespace RpcCode

def number : RpcCode → Int
  | .parseError => -32700
  | .invalidRequest => -32600
  | .methodNotFound => -32601
  | .invalidParams => -32602
  | .internalError => -32603
  | .serverError => -32000
  | .transportError => -32098

def name : RpcCode → String
  | .parseError => "PARSE_ERROR"
  | .invalidRequest => "INVALID_REQUEST"
  | .methodNotFound => "METHOD_NOT_FOUND"
  | .invalidParams => "INVALID_PARAMS"
  | .internalError => "INTERNAL_ERROR"
  | .serverError => "SERVER_ERROR"
  | .transportError => "TRANSPORT_ERROR"

def all : List RpcCode :=
  [.parseError, .invalidRequest, .methodNotFound, .invalidParams, .internalError, .serverError,
    .transportError]

/-- The known code of a number. -/
def ofNumber? (n : Int) : Option RpcCode := all.find? fun c => c.number == n

end RpcCode

/-- A remote call that was answered with an error, or malformed. -/
structure RpcError where
  method : Option String
  code : Int
  message : String
  data : Value := .null
  requestId : Value := .null
  httpStatus : Option Int := none
  deriving Inhabited

/-- The family of faults that callers of the pipeline handle. -/
inductive PipelineError where
  | rpc (e : RpcError)
  /-- Local validation refused the draft. -/
  | invalidDraft (message : String) (location : Option String)
  /-- The node could not be reached. -/
  | unreachable (message : String) (method : Option String) (httpStatus : Option Int)
  /-- The node asked for a later submission. -/
  | tryAgainLater (message : String) (method : Option String) (httpStatus : Option Int)
  /-- The cancellation fired in a stage; once submitting, the hash is known. -/
  | cancelled (stage : String) (txHash : Option String)
  /-- The node simulated the draft and reported an error. -/
  | simulationRejected (message : String) (diagnostics : List String) (latestLedger : Option Int)
  | unsupportedEnvelopeVersion (version : Int)
  /-- The assembled fee does not fit the fee field. -/
  | largeFee (fee : Int)
  /-- A signer refused or has no key. -/
  | signingDenied (signer reason : String)
  /-- A required authorization could not be signed. -/
  | authorizationDenied (signer reason : String)
  /-- The node refused the envelope. -/
  | rejected (reason : Value) (txHash status : Option String) (errorResult : Value)
      (diagnostics : List String)
  /-- The node answered with an unknown status. -/
  | unexpectedStatus (status : String) (txHash : Option String)
  deriving Inhabited

namespace PipelineError

/-- The name of an error in messages. -/
def kind : PipelineError → String
  | .rpc _ => "RpcError"
  | .invalidDraft .. => "InvalidDraft"
  | .unreachable .. => "Unreachable"
  | .tryAgainLater .. => "TryAgainLater"
  | .cancelled .. => "Cancelled"
  | .simulationRejected .. => "SimulationRejected"
  | .unsupportedEnvelopeVersion _ => "UnsupportedEnvelopeVersion"
  | .largeFee _ => "LargeFee"
  | .signingDenied .. => "SigningDenied"
  | .authorizationDenied .. => "AuthorizationDenied"
  | .rejected .. => "Rejected"
  | .unexpectedStatus .. => "UnexpectedTransactionStatus"

/-- A text that is there and not empty. -/
def nonEmpty? (s : Option String) : Option String := s.filter fun s => !s.isEmpty

/-- The method of a call, or a dash. -/
def methodText (method : Option String) : String := (nonEmpty? method).getD "-"

/-- The transaction hash, when one is known. -/
def hashSuffix (txHash : Option String) : String := (nonEmpty? txHash).elim "" (" tx=" ++ ·)

/-- The HTTP status, when one is known. -/
def statusSuffix (httpStatus : Option Int) : String :=
  httpStatus.elim "" fun s => " http=" ++ toString s

def unreachableMessage (message : String) (method : Option String) (httpStatus : Option Int) :
    String :=
  "Unreachable[" ++ methodText method ++ "]: " ++ message ++ statusSuffix httpStatus

/-- The wording of an error. -/
def message : PipelineError → String
  | .rpc e =>
    "RPC[" ++ methodText e.method ++ "] code=" ++ toString e.code ++ " msg=" ++ Text.quote e.message
      ++ (if e.requestId.isNull then "" else " id=" ++ e.requestId.plainText)
      ++ statusSuffix e.httpStatus
      ++ (if e.data.isNull then "" else " data=" ++ e.data.shown)
  | .invalidDraft message location =>
    "InvalidDraft" ++ (nonEmpty? location).elim "" (fun l => " [" ++ l ++ "]") ++ ": " ++ message
  | .unreachable message method httpStatus => unreachableMessage message method httpStatus
  | .tryAgainLater message method httpStatus => unreachableMessage message method httpStatus
  | .cancelled stage txHash => "Cancelled during " ++ stage ++ hashSuffix txHash
  | .simulationRejected message diagnostics _ =>
    "SimulationRejected: " ++ message ++ " (" ++ toString diagnostics.length ++ " diagnostic event"
      ++ (if diagnostics.length == 1 then "" else "s") ++ ")"
  | .unsupportedEnvelopeVersion version =>
    "UnsupportedEnvelopeVersion: version " ++ toString version ++ " cannot carry Soroban resources"
  | .largeFee fee => "LargeFee: fee " ++ toString fee ++ " exceeds uint32"
  | .signingDenied signer reason => "SigningDenied[" ++ signer ++ "]: " ++ reason
  | .authorizationDenied signer reason => "AuthorizationDenied[" ++ signer ++ "]: " ++ reason
  | .rejected reason txHash _ _ _ => "Rejected" ++ hashSuffix txHash ++ ": " ++ reason.plainText
  | .unexpectedStatus status txHash =>
    "unexpected transaction status " ++ Text.quote status ++ " (tx=" ++ txHash.getD "None" ++ ")"

/-- The facts that an error carries, by name. -/
def facts : PipelineError → List (String × Value)
  | .rpc e =>
    [("method", .ofOption .text e.method), ("code", .int e.code), ("message", .text e.message),
      ("data", e.data), ("request_id", e.requestId), ("http_status", .ofOption .int e.httpStatus)]
  | .invalidDraft message location =>
    [("message", .text message), ("where", .ofOption .text location)]
  | .unreachable message method httpStatus | .tryAgainLater message method httpStatus =>
    [("message", .text message), ("method", .ofOption .text method),
      ("http_status", .ofOption .int httpStatus)]
  | .cancelled stage txHash => [("stage", .text stage), ("tx_hash", .ofOption .text txHash)]
  | .simulationRejected message diagnostics latestLedger =>
    [("message", .text message), ("diagnostics", .ofTexts diagnostics),
      ("latest_ledger", .ofOption .int latestLedger)]
  | .unsupportedEnvelopeVersion version => [("version", .int version)]
  | .largeFee fee => [("fee", .int fee)]
  | .signingDenied signer reason | .authorizationDenied signer reason =>
    [("signer_ref", .text signer), ("reason", .text reason)]
  | .rejected reason txHash status errorResult diagnostics =>
    [("reason", reason), ("tx_hash", .ofOption .text txHash), ("status", .ofOption .text status),
      ("error_result", errorResult), ("diagnostics", .ofTexts diagnostics)]
  | .unexpectedStatus status txHash =>
    [("status", .text status), ("tx_hash", .ofOption .text txHash)]

/-- Whether the numbers in the wording of an error have a text. -/
def isTellable : PipelineError → Bool
  | .rpc e => !((Value.int e.code).hasLongNumber || e.requestId.hasLongNumber || e.data.hasLongNumber)
  | .unsupportedEnvelopeVersion n | .largeFee n => !(Value.int n).hasLongNumber
  | .rejected reason .. => !reason.hasLongNumber
  | _ => true

/-- Whether trying again may help. -/
def retryable : PipelineError → Bool
  | .unreachable .. | .tryAgainLater .. => true
  | _ => false

end PipelineError

/-- Why settings are no configuration. -/
inductive ConfigError where
  | scheme (url : String)
  /-- A number is negative, or zero where that is not allowed. -/
  | notPositive (name : String) (zeroAllowed : Bool) (shown : String)
  | emptyPassphrase
  deriving DecidableEq, Repr

def ConfigError.message : ConfigError → String
  | .scheme url => "URL must start with ('http', 'https'), got: " ++ Text.quote url
  | .notPositive name zeroAllowed shown =>
    name ++ " must be " ++ (if zeroAllowed then ">= 0" else "> 0") ++ ", got " ++ shown
  | .emptyPassphrase => "network_passphrase must not be empty"

/-- Failures of a capability that the pipeline is given, in its own words. -/
inductive ForeignKind where
  | runtime
  | value
  | key
  deriving DecidableEq, Repr

/-- Everything that can end a stage. -/
inductive Fault where
  | pipeline (e : PipelineError)
  | strkey (e : Strkey.Error)
  | malformed (m : Malformed)
  | invalidSeed (e : Strkey.Error)
  | invalidHorizon
  | invalidTarget
  | invalidAttempts
  | config (e : ConfigError)
  /-- A terminal submission cannot advance. -/
  | alreadyTerminal (hash state : String)
  /-- An outcome of another transaction. -/
  | foreignOutcome (given own : String)
  | passphraseMismatch (served expected : String)
  /-- No request can be sent to the address. -/
  | invalidAddress
  /-- A header that is no ASCII text. -/
  | invalidHeader
  /-- The name of the host travels in a form that cannot be read. -/
  | unreadableHost (fault : Host.LabelFault)
  /-- A reply nests deeper than replies are read. -/
  | tooDeep
  | foreign (kind : ForeignKind) (text : String)
  deriving Inhabited

/-- The name of a fault of a label in messages. -/
def Host.LabelFault.kind : Host.LabelFault → String
  | .form => "IDNAError"
  | .character => "InvalidCodepoint"
  | .context => "InvalidCodepointContext"
  | .direction => "IDNABidiError"

namespace Fault

/-- The name of a fault in messages. -/
def kind : Fault → String
  | .pipeline e => e.kind
  | .strkey _ => "StrkeyError"
  | .malformed m => m.kind
  | .alreadyTerminal .. => "RuntimeError"
  | .invalidAddress => "InvalidURL"
  | .invalidHeader => "UnicodeEncodeError"
  | .unreadableHost fault => fault.kind
  | .tooDeep => "RecursionError"
  | .foreign .runtime _ => "RuntimeError"
  | .foreign .key _ => "KeyError"
  | _ => "ValueError"

/-- The wording of a fault. -/
def message : Fault → String
  | .pipeline e => e.message
  | .strkey e => e.message
  | .malformed m => m.message
  | .invalidSeed e => "invalid secret seed: " ++ e.message
  | .invalidHorizon => "horizon must be > 0"
  | .invalidTarget => "target ledger must be > 0"
  | .invalidAttempts => "max_attempts must be >= 1"
  | .config e => e.message
  | .alreadyTerminal hash state => "submission " ++ hash ++ " already terminal (" ++ state ++ ")"
  | .foreignOutcome given own =>
    "outcome for " ++ given ++ " does not belong to submission " ++ own
  | .passphraseMismatch served expected =>
    "network passphrase mismatch: node serves " ++ Text.quote served ++ ", expected "
      ++ Text.quote expected
  | .invalidAddress => "invalid address"
  | .invalidHeader => "invalid header"
  | .unreadableHost _ => "unreadable host name"
  | .tooDeep => "reply nested too deeply"
  | .foreign .key text => Text.quote text
  | .foreign _ text => text

/-- Whether the wording is one of this library. -/
def hasMessage : Fault → Bool
  | .malformed m => m.hasMessage
  | .invalidAddress | .invalidHeader | .unreadableHost _ | .tooDeep => false
  | .foreign .key _ => true
  | .foreign _ _ => false
  | _ => true

/-- Whether a fault is a bad value, in contrast to a failed call or a wrong type. -/
def isBadValue : Fault → Bool
  | .pipeline _ | .alreadyTerminal .. | .invalidAddress | .tooDeep => false
  | .malformed m => m.isBadValue
  | .foreign k _ => k == .value
  | _ => true

/-- Whether the wording of a fault can be given. -/
def isTellable : Fault → Bool
  | .pipeline e => e.isTellable
  | _ => true

/-- Whether a fault is a transport failure. -/
def isUnreachable : Fault → Bool
  | .pipeline (.unreachable ..) | .pipeline (.tryAgainLater ..) => true
  | _ => false

instance : MonadLift (Except Malformed) (Except Fault) := ⟨Except.mapError Fault.malformed⟩

instance : MonadLift (Except Strkey.Error) (Except Fault) := ⟨Except.mapError Fault.strkey⟩

end Fault
end LedgerFlow
