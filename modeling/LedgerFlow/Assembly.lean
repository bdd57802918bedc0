import LedgerFlow.Node

/-!
# Assembly

Applies a simulation to a draft.  The fee becomes the larger of the draft's inclusion fee and a
floor, plus what the simulation asks for resources; it has to fit 32 bits.  Contract calls without
authorization entries take the simulated ones, expired ledger keys are restored by one operation in
front, and the simulated resource data is attached.  Assembling the result again with the same
simulation changes nothing.
-/

namespace LedgerFlow

/-- The largest fee that the fee field holds. -/
def maxFee : Int := 2 ^ 32 - 1

/-- The inclusion fee floor when none is configured. -/
def defaultBaseFee : Int := 100

namespace Simulation

/-- What the simulation asks for resources, restoring included. -/
def totalResourceFee (sim : Simulation) : Int :=
  sim.minResourceFee + sim.restorePreamble.elim 0 (·.minResourceFee)

/-- The resource data to attach. -/
def dataToAttach (sim : Simulation) (resourceFee : Int) (instructions : Option Int) :
    SorobanData :=
  let data := sim.transactionData.getD {}
  let resources := match instructions with
    | some n => { data.resources with instructions := n }
    | none => data.resources
  { resources, resourceFee }

/-- The operation that restores the expired keys of a preamble. -/
def restoreOperation (p : RestorePreamble) : Operation :=
  { body := .restoreFootprint (.list p.expiredKeys) }

end Simulation

namespace Transaction

/-- Inclusion fee and resource fee under a simulation. -/
def fees (tx : Transaction) (sim : Simulation) (baseFee : Int) : Int × Int :=
  (max tx.inclusionFee baseFee, sim.totalResourceFee)

/-- A contract call without authorization entries takes the given ones. -/
def attachAuth (auth : List AuthEntry) (op : Operation) : Operation :=
  if op.body.isInvocation && op.body.auth.isEmpty then { op with body := op.body.withAuth auth }
  else op

/-- The operations with a restore operation in front, unless they start with that one. -/
def withRestore (preamble : Option RestorePreamble) (ops : List Operation) : List Operation :=
  match preamble with
  | none => ops
  | some p =>
    let restore := Simulation.restoreOperation p
    match ops with
    | [] => [restore]
    | op :: _ => if op.same restore then ops else restore :: ops

/-- Assembles with a fee floor and an instruction budget that are read only when they are
needed. -/
def assembleReading (tx : Transaction) (sim : Simulation) (baseFee : Value.Read Int)
    (instructions : Value.Read (Option Int)) : Except Fault Transaction :=
  if tx.version ≠ currentVersion then
    .error (.pipeline (.unsupportedEnvelopeVersion tx.version))
  else match sim.error with
    | some message =>
      .error (.pipeline (.simulationRejected message sim.events (some sim.latestLedger)))
    | none => do
      let (inclusion, resource) := tx.fees sim (← baseFee)
      let fee := inclusion + resource
      if maxFee < fee then .error (.pipeline (.largeFee fee))
      else do
        let operations := withRestore sim.restorePreamble (tx.operations.map (attachAuth sim.auth))
        let instructions ← instructions
        let sorobanData := sim.dataToAttach resource instructions
        pure { tx with fee, operations, sorobanData := some sorobanData }

/-- Assembles a draft under a simulation. -/
def assemble (tx : Transaction) (sim : Simulation) (baseFee : Int)
    (instructions : Option Int) : Except Fault Transaction :=
  tx.assembleReading sim (.ok baseFee) (.ok instructions)

/-- The log line for an assembled transaction. -/
def assembledMessage (tx : Transaction) : String :=
  "assembled tx " ++ tx.sourceAccount ++ "/" ++ toString tx.seqNum ++ ": fee=" ++ toString tx.fee
    ++ " (inclusion=" ++ toString tx.inclusionFee ++ " resource=" ++ toString tx.resourceFee
    ++ ") ops=" ++ toString tx.operations.length

end Transaction

namespace Assembly

variable {ω : Type}

/-- Assembly as a stage, with its log line. -/
def run (tx : Transaction) (sim : Simulation) (baseFee : Value.Read Int)
    (instructions : Value.Read (Option Int)) : Stage ω Transaction := do
  let out ← Stage.ofExcept (tx.assembleReading sim baseFee instructions)
  Stage.record .debug out.assembledMessage
  pure out

end Assembly
end LedgerFlow
