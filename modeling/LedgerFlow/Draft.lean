import LedgerFlow.Node

/-!
# Drafts

A draft is checked locally before the node is asked to simulate it: it needs operations, valid
accounts, and at most one operation that runs on simulated resources.
-/

namespace LedgerFlow

/-- Whether a value is an account or a muxed account. -/
def isAccount : Value → Bool
  | .text s => Strkey.isValid s (some [.account, .muxed])
  | _ => false

namespace Transaction

/-- The first operation with an invalid source account of its own, with its position. -/
def badOverride? (ops : List Operation) : Option (Nat × Value) :=
  (ops.zipIdx.find? fun p => !p.1.sourceAccount.isNull && !isAccount p.1.sourceAccount).map
    fun p => (p.2, p.1.sourceAccount)

/-- Checks that a draft can possibly be simulated. -/
def validate (tx : Transaction) : Except PipelineError Unit :=
  if tx.operations.isEmpty then
    .error (.invalidDraft "transaction has no operations" (some "operations"))
  else if !isAccount (.text tx.sourceAccount) then
    .error (.invalidDraft ("invalid source account " ++ Text.quote tx.sourceAccount)
      (some "source_account"))
  else match badOverride? tx.operations with
    | some (i, account) =>
      .error (.invalidDraft ("invalid source account override " ++ account.shown)
        (some ("operations[" ++ toString i ++ "].source_account")))
    | none =>
      let soroban := tx.sorobanOperations
      if 1 < soroban.length then
        .error (.invalidDraft
          ("at most one soroban operation per transaction, found " ++ toString soroban.length
            ++ " (" ++ ", ".intercalate (soroban.map fun p => p.2.kind) ++ ")")
          (some "operations"))
      else .ok ()

/-- Whether a draft is refused for an override that has no text. -/
def hasUntoldOverride (tx : Transaction) : Bool :=
  isAccount (.text tx.sourceAccount) && (badOverride? tx.operations).any fun p => p.2.hasLongNumber

end Transaction

namespace SorobanData

/-- The log line for declared resources. -/
def summary (data : Option SorobanData) (minResourceFee : Int) : String :=
  match data with
  | none => "no soroban resources declared"
  | some d =>
    let r := d.resources
    "resources: instructions=" ++ toString r.instructions
      ++ " read_bytes=" ++ toString r.readBytes ++ " write_bytes=" ++ toString r.writeBytes
      ++ " read_only=" ++ toString r.footprint.readOnly.length
      ++ " read_write=" ++ toString r.footprint.readWrite.length
      ++ " min_resource_fee=" ++ toString minResourceFee

end SorobanData

namespace Draft

variable {ω τ : Type}

/-- What ends a stage that refuses a draft: a number that has no text cannot be named as the override
that is refused. -/
def refusal (tx : Transaction) (e : PipelineError) : Fault :=
  if tx.hasUntoldOverride then .malformed .badNumber else .pipeline e

/-- Logs a successful simulation. -/
def recordSimulation (sim : Simulation) : Stage ω Unit := do
  Stage.recordEvents .debug "simulation" sim.events
  Stage.record .debug (SorobanData.summary sim.transactionData sim.minResourceFee)
  match sim.restorePreamble with
  | some preamble =>
    let n := preamble.expiredKeys.length
    Stage.record .info ("simulation requires restoring " ++ toString n ++ " expired "
      ++ entriesWord n ++ " (fee " ++ toString preamble.minResourceFee ++ ")")
  | none => pure ()

/-- The latest ledger when it is known. -/
def knownLedger (ledger : Int) : Option Int := if ledger == 0 then none else some ledger

/-- Validates a draft and asks the node to simulate it.  An error that the node reports ends the
stage, with the diagnostic events attached. -/
def simulate (node : Node ω τ) (tx : Transaction) (timeout : Option τ) : Stage ω Simulation := do
  match tx.validate with
  | .error e => throw (refusal tx e)
  | .ok () =>
    let sim ← node.simulate tx timeout
    match sim.error with
    | some message =>
      Stage.record .error ("simulation failed: " ++ message)
      Stage.recordEvents .error "simulation" sim.events
      Stage.fail (.simulationRejected message sim.events (knownLedger sim.latestLedger))
    | none =>
      recordSimulation sim
      pure sim

end Draft
end LedgerFlow
