import LedgerFlow.Node
import LedgerFlow.Rpc.Client

/-!
# A node over remote calls

The calls of the pipeline, and a check of the network, as remote calls.  Every result has to be an
object.
-/

namespace LedgerFlow
namespace Rpc

variable {ω τ : Type} [Measure τ]

/-- Calls a method whose result is an object. -/
def callForObject (s : RpcSettings τ) (carrier : Carrier ω τ) (method : String) (params : Value)
    (timeout : Option τ) : Stage (Connection ω) Value := do
  Stage.record .debug ("rpc " ++ method)
  match ← request s carrier method params timeout with
  | .map entries => pure (.map entries)
  | other => throw (unusable method "unexpected result shape" other none)

/-- Calls a method and reads its result. -/
def callAndRead {α : Type} (s : RpcSettings τ) (carrier : Carrier ω τ)
    (read : Value → Value.Read α) (method : String) (params : Value) (timeout : Option τ) :
    Stage (Connection ω) α := do
  let v ← callForObject s carrier method params timeout
  Stage.ofExcept ((read v).mapError .malformed)

/-- The parameters that carry a wire text. -/
def wireParams (wire : String) : Value := .record [("transaction", .text wire)]

/-- The node at the other end of a connection. -/
def node (s : RpcSettings τ) (carrier : Carrier ω τ) : Node (Connection ω) τ where
  simulate tx timeout :=
    callAndRead s carrier Simulation.ofReply "simulateTransaction"
      (wireParams (Envelope.wire { tx })) timeout
  send envelope timeout :=
    callAndRead s carrier SendReply.ofReply "sendTransaction" (wireParams envelope.wire) timeout
  status txHash timeout :=
    callAndRead s carrier StatusReply.ofReply "getTransaction"
      (.record [("hash", .text txHash)]) timeout
  latestLedger timeout :=
    callAndRead s carrier LatestLedger.ofReply "getLatestLedger" .null timeout

/-- Asks the node for its network. -/
def network (s : RpcSettings τ) (carrier : Carrier ω τ) (timeout : Option τ) :
    Stage (Connection ω) NetworkInfo :=
  callAndRead s carrier NetworkInfo.ofReply "getNetwork" .null timeout

/-- Fails unless the node serves the network with the given passphrase. -/
def verifyNetwork (s : RpcSettings τ) (carrier : Carrier ω τ) (expected : String)
    (timeout : Option τ) : Stage (Connection ω) NetworkInfo := do
  let info ← network s carrier timeout
  if info.passphrase ≠ expected then throw (.passphraseMismatch info.passphrase expected)
  else pure info

end Rpc
end LedgerFlow
