import LedgerFlow.Text.Upper
import LedgerFlow.Wire

/-!
# Replies of a node

Typed views of what a node answers.  Replies carry numbers as decimal text and models as wire text;
both are read here.  Diagnostic events are opaque texts.
-/

namespace LedgerFlow

namespace Value

/-- A number that may be absent or empty, which is zero. -/
def toIntOrZero : Value → Read Int
  | .null => .ok 0
  | .text "" => .ok 0
  | v => v.toInt

/-- A list of texts, empty when absent. -/
def toTexts (v : Value) : Read (List String) := do
  (← v.toItemsIfPresent).mapM toText

/-- Reads a number unless it is absent. -/
def toOptionalInt (v : Value) : Read (Option Int) :=
  if v.isNull then pure none else some <$> v.toIntOrZero

end Value

/-- What a simulated call cost. -/
structure Cost where
  cpuInstructions : Int := 0
  memoryBytes : Int := 0
  deriving DecidableEq, Inhabited

/-- The result of a simulated call, and the authorizations it needs. -/
structure HostResult where
  auth : List AuthEntry := []
  returned : Value := .null
  deriving Inhabited

/-- What has to be restored before the call can run. -/
structure RestorePreamble where
  transactionData : SorobanData
  minResourceFee : Int
  deriving Inhabited

/-- What a node reports for a simulated draft.  With an error, only events and ledger count. -/
structure Simulation where
  latestLedger : Int := 0
  minResourceFee : Int := 0
  cost : Cost := {}
  results : List HostResult := []
  transactionData : Option SorobanData := none
  events : List String := []
  restorePreamble : Option RestorePreamble := none
  error : Option String := none
  deriving Inhabited

/-- The answer to a submission. -/
structure SendReply where
  status : String
  hash : String
  latestLedger : Int := 0
  errorResult : Value := .null
  diagnosticEvents : List String := []
  deriving Inhabited

/-- The answer to a query for a transaction. -/
structure StatusReply where
  status : String
  latestLedger : Int := 0
  ledger : Option Int := none
  result : Value := .null
  resultMeta : Value := .null
  envelope : Value := .null
  events : List String := []
  deriving Inhabited

/-- The newest ledger of a node. -/
structure LatestLedger where
  sequence : Int
  id : Value := .null
  protocolVersion : Option Int := none
  deriving Inhabited

/-- The network of a node. -/
structure NetworkInfo where
  passphrase : String
  protocolVersion : Option Int := none
  friendbotUrl : Value := .null
  deriving Inhabited

namespace Cost

def ofReply (v : Value) : Value.Read Cost := do
  let v := v.orEmptyMap
  let cpuInstructions ← (← v.get "cpuInsns").toIntOrZero
  let memoryBytes ← (← v.get "memBytes").toIntOrZero
  pure { cpuInstructions, memoryBytes }

end Cost

namespace HostResult

def ofReply (v : Value) : Value.Read HostResult := do
  let entries ← (← v.get "auth").toItemsIfPresent
  let auth ← entries.mapM fun entry => do AuthEntry.ofWire (← Wire.textOf entry)
  let returned ← v.get "xdr"
  pure { auth, returned }

end HostResult

namespace RestorePreamble

/-- The keys to restore: those that would be written, else those that would be read. -/
def expiredKeys (p : RestorePreamble) : List Value :=
  let footprint := p.transactionData.resources.footprint
  if footprint.readWrite.isEmpty then footprint.readOnly else footprint.readWrite

def ofReply (v : Value) : Value.Read RestorePreamble := do
  let transactionData ← SorobanData.ofWire (← Wire.textOf (← v.require "transactionData"))
  let minResourceFee ← (← v.get "minResourceFee").toIntOrZero
  pure { transactionData, minResourceFee }

end RestorePreamble

namespace Simulation

def isOk (s : Simulation) : Bool := s.error.isNone

/-- The authorization requirements of the single call. -/
def auth (s : Simulation) : List AuthEntry :=
  match s.results with
  | [] => []
  | r :: _ => r.auth

/-- The reply to a call that failed in simulation. -/
def failureOfReply (v error : Value) : Value.Read Simulation := do
  let latestLedger ← (← v.get "latestLedger").toIntOrZero
  let events ← (← v.get "events").toTexts
  let message ← error.toText
  pure { latestLedger, events, error := some message }

def ofReply (v : Value) : Value.Read Simulation := do
  let error ← v.get "error"
  if error.isTruthy then failureOfReply v error
  else do
    let declared ← v.get "transactionData"
    let preamble ← v.get "restorePreamble"
    let latestLedger ← (← v.get "latestLedger").toIntOrZero
    let minResourceFee ← (← v.get "minResourceFee").toIntOrZero
    let cost ← Cost.ofReply (← v.get "cost")
    let results ← (← (← v.get "results").toItemsIfPresent).mapM HostResult.ofReply
    let transactionData ← Transaction.optional
      (fun d => do SorobanData.ofWire (← Wire.textOf d)) declared
    let events ← (← v.get "events").toTexts
    let restorePreamble ← Transaction.optional RestorePreamble.ofReply preamble
    pure { latestLedger, minResourceFee, cost, results, transactionData, events, restorePreamble }

end Simulation

namespace SendReply

def ofReply (v : Value) : Value.Read SendReply := do
  let status := Text.upper (← (← v.getD "status" (.text "")).toText)
  let hash ← (← v.getD "hash" (.text "")).toText
  let latestLedger ← (← v.get "latestLedger").toIntOrZero
  let errorResult ← v.get "errorResultXdr"
  let diagnosticEvents ← (← v.get "diagnosticEventsXdr").toTexts
  pure { status, hash, latestLedger, errorResult, diagnosticEvents }

end SendReply

namespace StatusReply

def ofReply (v : Value) : Value.Read StatusReply := do
  let status := Text.upper (← (← v.getD "status" (.text "")).toText)
  let latestLedger ← (← v.get "latestLedger").toIntOrZero
  let ledger ← (← v.get "ledger").toOptionalInt
  let result ← v.get "resultXdr"
  let resultMeta ← v.get "resultMetaXdr"
  let envelope ← v.get "envelopeXdr"
  let events ← (← v.get "diagnosticEventsXdr").toTexts
  pure { status, latestLedger, ledger, result, resultMeta, envelope, events }

end StatusReply

namespace LatestLedger

def ofReply (v : Value) : Value.Read LatestLedger := do
  let version ← v.get "protocolVersion"
  let sequence ← (← v.get "sequence").toIntOrZero
  let id ← v.get "id"
  let protocolVersion ← version.toOptionalInt
  pure { sequence, id, protocolVersion }

end LatestLedger

namespace NetworkInfo

def ofReply (v : Value) : Value.Read NetworkInfo := do
  let version ← v.get "protocolVersion"
  let passphrase ← (← v.getD "passphrase" (.text "")).toText
  let protocolVersion ← version.toOptionalInt
  let friendbotUrl ← v.get "friendbotUrl"
  pure { passphrase, protocolVersion, friendbotUrl }

end NetworkInfo
end LedgerFlow
