import LedgerFlow.Assembly
import LedgerFlow.Authorization
import LedgerFlow.Config
import LedgerFlow.Draft
import LedgerFlow.Submission.Poll

/-!
# The pipeline

A draft is simulated, assembled, authorized, signed, submitted, and followed until its outcome is
known.  Every stage can be run on its own.  A cancellation that fires before or during a stage that
calls the node ends it; once the envelope is submitted it only ends the polling.
-/

namespace LedgerFlow

/-- How a configuration polls. -/
def Config.pollSettings {τ : Type} (c : Config τ) : PollSettings τ :=
  ⟨c.pollInterval, c.pollAttempts, some c.requestTimeout⟩

/-- A configuration and the capabilities that a pipeline runs on. -/
structure Pipeline (ω τ : Type) where
  config : Config τ
  env : Surroundings ω τ

/-- What a complete run produced; a skipped view has no envelope and no submission. -/
structure RunResult where
  simulation : Simulation
  transaction : Transaction
  envelope : Option Envelope := none
  submission : Option Submission := none

/-- The options of a run. -/
structure RunOptions where
  /-- An explicit expiration of authorizations. -/
  expirationLedger : Option Int := none
  /-- A budget that replaces the simulated one. -/
  instructions : Value.Read (Option Int) := .ok none
  /-- Whether a read-only call stops after assembly. -/
  skipView : Bool := false

namespace Pipeline

variable {ω τ : Type} [Timeline τ]

/-- The timeout of one call. -/
def timeout (p : Pipeline ω τ) : Stage ω (Option τ) :=
  return p.env.bounded (← Stage.world) (some p.config.requestTimeout)

/-- Ends a stage when the cancellation has fired. -/
def checkpoint (p : Pipeline ω τ) (stage : String) (txHash : Option String) : Stage ω Unit := do
  if p.env.hasFired (← Stage.world) then Stage.fail (.cancelled stage txHash)

/-- A transport failure of a stage counts as its cancellation when that has fired. -/
def cancellable {α : Type} (p : Pipeline ω τ) (stage : String) (txHash : Option String)
    (body : Stage ω α) : Stage ω α := do
  match ← Stage.attempt body with
  | .ok a => pure a
  | .error fault =>
    if fault.isUnreachable && p.env.hasFired (← Stage.world) then
      Stage.fail (.cancelled stage txHash)
    else throw fault

def simulate (p : Pipeline ω τ) (tx : Transaction) : Stage ω Simulation := do
  p.checkpoint "simulate" none
  p.cancellable "simulate" none do
    Draft.simulate p.env.node tx (← p.timeout)

def assemble (p : Pipeline ω τ) (tx : Transaction) (sim : Simulation)
    (instructions : Value.Read (Option Int)) : Stage ω Transaction :=
  Assembly.run tx sim (.ok p.config.baseFee) instructions

/-- The requirements of a simulation, if it has any. -/
def requirements (sim : Simulation) : Option (List AuthEntry) :=
  if sim.auth.isEmpty then none else some sim.auth

def authorize (p : Pipeline ω τ) (tx : Transaction) (sim : Simulation)
    (expirationLedger : Option Int) : Stage ω Transaction := do
  p.checkpoint "authorize" none
  let policy ← Stage.ofExcept (ExpirationPolicy.make p.config.authHorizon expirationLedger)
  let ledger : Stage ω Value := do
    let latest ← p.env.node.latestLedger (← p.timeout)
    pure (.int latest.sequence)
  p.cancellable "authorize" none
    (Authorization.resolve tx (requirements sim) p.env.signer policy p.config.networkPassphrase
      ledger (Draft.knownLedger sim.latestLedger))

/-- Signs the envelope.  Unless a signer is named it is the source account; a muxed one signs with
the account behind it. -/
def sign (p : Pipeline ω τ) (tx : Transaction) (signer : Option String) : Stage ω Envelope := do
  let address ← match PipelineError.nonEmpty? signer with
    | some address => pure address
    | none => Stage.ofExcept ((Strkey.accountId tx.sourceAccount).mapError .strkey)
  Envelope.sign { tx } p.env.signer address p.config.networkPassphrase

def submit (p : Pipeline ω τ) (envelope : Envelope) : Stage ω Submission := do
  let hash := envelope.tx.hash p.config.networkPassphrase
  p.checkpoint "submit" (some hash)
  p.cancellable "submit" (some hash) do
    Submission.submit p.env.node envelope (some p.config.networkPassphrase) (← p.timeout)

def pollSettings (p : Pipeline ω τ) : PollSettings τ := p.config.pollSettings

def poll (p : Pipeline ω τ) (s : Submission) : StateM (Session ω) Poll.Ending :=
  s.poll p.env p.pollSettings

/-- Runs a draft through all stages. -/
def run (p : Pipeline ω τ) (draft : Transaction) (options : RunOptions) : Stage ω RunResult := do
  let simulation ← p.simulate draft
  let assembled ← p.assemble draft simulation options.instructions
  if options.skipView && assembled.isView then
    Stage.record .info "read-only call; not submitting"
    pure { simulation, transaction := assembled }
  else
    let transaction ← p.authorize assembled simulation options.expirationLedger
    let envelope ← p.sign transaction none
    let submission ← p.submit envelope
    let (submission, ending) ← p.poll submission
    let _ ← Stage.ofExcept ending
    pure { simulation, transaction, envelope := some envelope, submission := some submission }

end Pipeline
end LedgerFlow
