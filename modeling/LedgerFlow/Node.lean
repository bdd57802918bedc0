import LedgerFlow.Node.Record
import LedgerFlow.Session

/-!
# Capabilities

What the pipeline is given: a node to call, a signer, a clock, a way to wait, and possibly a
cancellation.  Each of them may change the world and may fail; nothing else is assumed of them.
-/

namespace LedgerFlow

/-- The calls that the pipeline makes to a node, each with an optional timeout. -/
structure Node (ω τ : Type) where
  simulate : Transaction → Option τ → Stage ω Simulation
  send : Envelope → Option τ → Stage ω SendReply
  status : String → Option τ → Stage ω StatusReply
  latestLedger : Option τ → Stage ω LatestLedger

/-- Signs a payload on behalf of an address.  The answer should be bytes. -/
abbrev Signer (ω : Type) := Bytes → String → Stage ω Value

/-- Everything outside the pipeline. -/
structure Surroundings (ω τ : Type) where
  node : Node ω τ
  signer : Signer ω
  /-- The reading of the clock. -/
  now : ω → τ
  /-- The caller's cancellation, if there is one. -/
  cancellation : ω → Option (Cancellation τ)
  /-- Lets time pass. -/
  sleep : τ → ω → ω

namespace Surroundings

variable {ω τ : Type} [Timeline τ]

/-- Whether the caller's cancellation has fired. -/
def hasFired (env : Surroundings ω τ) (w : ω) : Bool :=
  (env.cancellation w).any fun c => c.hasFired (env.now w)

/-- A timeout that does not outlive the caller's cancellation. -/
def bounded (env : Surroundings ω τ) (w : ω) (timeout : Option τ) : Option τ :=
  match env.cancellation w with
  | some c => c.bounded (env.now w) timeout
  | none => timeout

/-- Waits. -/
def wait {m : Type → Type} [MonadState (Session ω) m] (env : Surroundings ω τ) (duration : τ) :
    m Unit :=
  modify fun s => { s with world := env.sleep duration s.world }

end Surroundings
end LedgerFlow
