import LedgerFlow.Proofs.Pipeline.Frame
import LedgerFlow.Proofs.Pipeline.Order

/-!
# Skipped views

A run that may skip a read-only call ends after assembly if it finds one.  `run_skipsView` says for every
run with a result when it did so, and whether more than the call was skipped with it.  That nothing is
written and nobody but the source account is needed holds of the resources and the entries of the whole
transaction, but that there is a contract call is asked of some operation, not of all of them.  So what
stands beside the call is skipped as well.  That is nothing if and only if the call is the one operation
of the draft and needs no ledger keys restored; `skipped_payment` is a run that drops a payment.
-/

namespace LedgerFlow

open NodeMethod (sendTransaction)

namespace Transaction

/-- What makes an assembled transaction a read-only call. -/
theorem isView_assembled_iff (tx : Transaction) (sim : Simulation) (base : Int)
    (budget : Option Int) :
    (tx.assembled sim base budget).isView = true ↔
      (∃ op ∈ (tx.assembled sim base budget).operations, op.body.isInvocation = true) ∧
      (sim.transactionData.getD {}).resources.footprint.readWrite = [] ∧
      ∀ a ∈ (tx.assembled sim base budget).authEntries, a.usesSourceAccount = true := by
  have hfootprint : (sim.dataToAttach sim.totalResourceFee budget).resources.footprint =
      (sim.transactionData.getD {}).resources.footprint := by
    cases budget <;> rfl
  show (_ && List.isEmpty (sim.dataToAttach _ budget).resources.footprint.readWrite && _) = true ↔ _
  rw [hfootprint, Bool.and_eq_true, Bool.and_eq_true, List.any_eq_true, List.isEmpty_iff,
    List.all_eq_true, and_assoc]

/-- A valid draft with a contract call is assembled into nothing but calls only if the call is all there
is and nothing is restored. -/
theorem assembled_calls_iff {tx : Transaction} {sim : Simulation} {base : Int}
    {budget : Option Int} (hvalid : tx.validate = .ok ())
    (hcall : ∃ op ∈ (tx.assembled sim base budget).operations, op.body.isInvocation = true) :
    (∀ op ∈ (tx.assembled sim base budget).operations, op.body.isInvocation = true) ↔
      tx.operations.length = 1 ∧ sim.restorePreamble = none := by
  obtain ⟨front, hops, hfront⟩ :=
    exists_front_withRestore sim.restorePreamble (tx.operations.map (attachAuth sim.auth))
  change (tx.assembled sim base budget).operations = _ at hops
  have hone := atMostOneCall_map_attachAuth sim.auth (atMostOneCall_of_validate hvalid)
  rw [hops] at hcall ⊢
  rw [← List.length_map (attachAuth sim.auth)]
  generalize tx.operations.map (attachAuth sim.auth) = ops at hfront hone hcall ⊢
  have hothers := hfront.not_isInvocation
  -- The call is one of the draft, since what is put in front is none.
  obtain ⟨call, hmem, hcall⟩ := hcall
  replace hmem : call ∈ ops := (List.mem_append.1 hmem).resolve_left fun hin => by
    rw [hothers call hin] at hcall
    cases hcall
  constructor
  · intro hall
    -- Neither what is put in front nor a second operation would be a call.
    have hnone : front = [] := List.eq_nil_iff_forall_not_mem.2 fun op hop => by
      have hop' := hall op (List.mem_append_left _ hop)
      rw [hothers op hop] at hop'
      cases hop'
    have hlength : ops.length = 1 := Nat.le_antisymm
      (length_le_one_of_calls hone fun op hop => hall op (List.mem_append_right _ hop))
      (List.length_pos_of_mem hmem)
    obtain ⟨op, rfl⟩ := List.length_eq_one_iff.1 hlength
    obtain rfl := List.mem_singleton.1 hmem
    exact ⟨hlength, (hfront.eq_nil_iff_of_call hcall).1 hnone⟩
  · rintro ⟨hlength, hpreamble⟩
    obtain ⟨op, rfl⟩ := List.length_eq_one_iff.1 hlength
    obtain rfl := List.mem_singleton.1 hmem
    rw [(hfront.eq_nil_iff_of_call hcall).2 hpreamble, List.nil_append]
    exact List.forall_mem_singleton.2 hcall

end Transaction

namespace Pipeline

variable {ω τ : Type} [Timeline τ] {p : Pipeline ω τ} {draft : Transaction} {options : RunOptions}
  {w : ω} {log : List LogRecord} {result : RunResult}

/-- A run with a result has assembled its valid draft.  Either it skipped that as a read-only call and
called nothing more, or it made an envelope. -/
theorem exists_assembled_of_run (h : ((p.run draft options).outcome ⟨w, log⟩).1 = .ok result) :
    ∃ budget s, draft.validate = .ok () ∧
      (∃ before timeout, .simulate before draft timeout (.ok result.simulation) ∈
        p.calls draft options w log) ∧
      let assembled := draft.assembled result.simulation p.config.baseFee budget
      draft.assembleReading result.simulation (.ok p.config.baseFee) options.instructions =
        .ok assembled ∧
      p.Reaches draft options w log (.assembled result.simulation assembled) s ∧
      ((options.skipView && assembled.isView) = true ∧
          result = { simulation := result.simulation, transaction := assembled } ∧
          p.calls draft options w log = s.world.2 ∨
        (options.skipView && assembled.isView) = false ∧ result.envelope ≠ none) := by
  have hrun := outcome_run_recorded p draft options w log
  rw [h] at hrun
  obtain ⟨sim, s₁, hsim, hrun⟩ := Stage.outcome_bind_eq_ok.1 hrun
  obtain ⟨assembled, s₂, hassemble, hrun⟩ := Stage.outcome_bind_eq_ok.1 hrun
  obtain ⟨hvalid, before, timeout, hcall⟩ := simulate_eq_ok hsim
  have hread := assemble_eq_ok hassemble
  obtain ⟨-, -, base, budget, hbase, -, -, rfl⟩ := Transaction.assembleReading_eq_ok_iff.1 hread
  cases hbase
  have hsimulated : p.Reaches draft options w log (.simulated sim) s₁ :=
    Reached.start.step (Stage.outcome_bind_of_ok hsim)
  have hassembled : p.Reaches draft options w log _ s₂ :=
    hsimulated.step (Stage.outcome_bind_of_ok hassemble)
  have hcall' := mem_calls_of_reached hsimulated hcall
  split at hrun
  · next hskip =>
      -- Only the log grows after assembly.
      obtain ⟨_, s₃, hrecord, hrun⟩ := Stage.outcome_bind_eq_ok.1 hrun
      cases hrecord
      obtain ⟨hresult, hlast⟩ := Prod.mk.inj hrun
      cases hresult
      have hcalls := congrArg (fun s => s.world.2) hlast
      exact ⟨budget, s₂, hvalid, ⟨before, timeout, hcall'⟩, hread, hassembled,
        .inl ⟨hskip, rfl, hcalls.symm⟩⟩
  · next hrest =>
      obtain ⟨tx, s₃, -, hrun⟩ := Stage.outcome_bind_eq_ok.1 hrun
      obtain ⟨e, s₄, -, hrun⟩ := Stage.outcome_bind_eq_ok.1 hrun
      obtain ⟨submission, s₅, -, hrun⟩ := Stage.outcome_bind_eq_ok.1 hrun
      obtain ⟨polled, s₆, -, hrun⟩ := Stage.outcome_bind_eq_ok.1 hrun
      obtain ⟨_, s₇, -, hrun⟩ := Stage.outcome_bind_eq_ok.1 hrun
      obtain ⟨hresult, -⟩ := Prod.mk.inj hrun
      cases hresult
      exact ⟨budget, s₂, hvalid, ⟨before, timeout, hcall'⟩, hread, hassembled,
        .inr ⟨Bool.eq_false_iff.2 hrest, Option.some_ne_none e⟩⟩

/-- A run with a result and an envelope has sent. -/
theorem sendTransaction_mem_of_envelope
    (h : ((p.run draft options).outcome ⟨w, log⟩).1 = .ok result)
    (henvelope : result.envelope ≠ none) :
    sendTransaction ∈ methods (p.calls draft options w log) := by
  obtain ⟨m, s, hreached, -, ⟨ended, rfl, hended⟩ | ⟨fault, -, hfault⟩⟩ :=
    exists_last p draft options w log
  · cases h.symm.trans hended
    -- A skipped call has no envelope, so this run has reached its submission.
    rcases exists_submitted_of_ended hreached with
      ⟨-, -, hnone, -⟩ | ⟨sim, tx, e, submission, s₁, hsubmitted⟩
    · exact absurd hnone henvelope
    · obtain ⟨before, timeout, answer, hsend⟩ := exists_send_of_submitted hsubmitted
      exact List.mem_filterMap.2 ⟨_, mem_calls_of_reached hsubmitted hsend, rfl⟩
  · cases h.symm.trans hfault

/-- What a run with a result says about the skipping of its draft, given its calls and the transaction
that was assembled. -/
structure SkipsView (p : Pipeline ω τ) (draft : Transaction) (options : RunOptions)
    (calls : List (Event ω τ)) (result : RunResult) (assembled : Transaction) : Prop where
  simulated : ∃ before timeout, .simulate before draft timeout (.ok result.simulation) ∈ calls
  assembles : draft.assembleReading result.simulation (.ok p.config.baseFee) options.instructions =
    .ok assembled
  /-- Nothing is sent where that is allowed and the transaction has a contract call, writes nothing and
  needs nobody but the source account. -/
  unsent_iff : sendTransaction ∉ methods calls ↔
    options.skipView = true ∧ (∃ op ∈ assembled.operations, op.body.isInvocation = true) ∧
      (result.simulation.transactionData.getD {}).resources.footprint.readWrite = [] ∧
      ∀ a ∈ assembled.authEntries, a.usesSourceAccount = true
  /-- The result has the assembled transaction then, and no envelope. -/
  of_unsent : sendTransaction ∉ methods calls →
    result = { simulation := result.simulation, transaction := assembled }
  /-- What was not sent is contract calls only where the draft is one operation and needs no ledger keys
  restored. -/
  calls_iff : sendTransaction ∉ methods calls →
    ((∀ op ∈ assembled.operations, op.body.isInvocation = true) ↔
      draft.operations.length = 1 ∧ result.simulation.restorePreamble = none)

/-- **When a run skips its draft, and what it skips with it.** -/
theorem run_skipsView (h : ((p.run draft options).outcome ⟨w, log⟩).1 = .ok result) :
    ∃ assembled, SkipsView p draft options (p.calls draft options w log) result assembled := by
  obtain ⟨budget, s, hvalid, hsimulate, hread, hreached, hend⟩ := exists_assembled_of_run h
  have hview := Transaction.isView_assembled_iff draft result.simulation p.config.baseFee budget
  rcases hend with ⟨hskip, hresult, hcalls⟩ | ⟨hrest, henvelope⟩
  · -- An assembled transaction has been simulated and nothing else was called for it.
    have hunsent : sendTransaction ∉ methods (p.calls draft options w log) := by
      rw [hcalls, show methods s.world.2 = [.simulateTransaction] from hreached.ordered]
      decide
    obtain ⟨hallowed, hview'⟩ := Bool.and_eq_true_iff.1 hskip
    have hreads := hview.1 hview'
    exact ⟨_, hsimulate, hread, iff_of_true hunsent ⟨hallowed, hreads⟩, fun _ => hresult,
      fun _ => Transaction.assembled_calls_iff hvalid hreads.1⟩
  · have hsent := sendTransaction_mem_of_envelope h henvelope
    refine ⟨_, hsimulate, hread, iff_of_false (not_not_intro hsent) ?_,
      fun hunsent => absurd hsent hunsent, fun hunsent => absurd hsent hunsent⟩
    rintro ⟨hallowed, hreads⟩
    rw [hallowed, hview.2 hreads] at hrest
    cases hrest

/-- A pipeline whose node finds a call that reads one ledger key and needs the source account only. -/
def reading : Pipeline Unit Rat :=
  let covered : AuthEntry := { invocation := .mk "C" "f" [.int 1] [] }
  let data : SorobanData := { resources := { footprint := { readOnly := [.text "balance"] } } }
  { agreeable with
    env := { agreeable.env with
      node := { agreeable.env.node with
        simulate := fun _ _ => pure
          { results := [{ auth := [covered] }], transactionData := some data } } } }

/-- A draft with the call that `reading` simulates, behind other operations. -/
def callAfter (others : List Operation) : Transaction where
  sourceAccount := "GAAAAAAAAAAAAAAAAAAAAAAAAAAAAAAAAAAAAAAAAAAAAAAAAAAAAWHF"
  seqNum := 1
  operations := others ++ [{ body := .invokeContract (.text "C") (.text "f") (.list [.int 1]) [] }]

/-- A call that only reads is not sent, and nothing else is skipped with it. -/
theorem run_skipsView_reading :
    let options : RunOptions := { skipView := true }
    let calls := reading.calls (callAfter []) options () []
    ∃ result, ((reading.run (callAfter []) options).outcome ⟨(), []⟩).1 = .ok result ∧
      methods calls = [.simulateTransaction] ∧
      result.transaction.operations.map Operation.kind = ["invoke_contract"] ∧
      ∃ assembled, SkipsView reading (callAfter []) options calls result assembled := by
  intro options calls
  have hcalls : methods calls = [.simulateTransaction] := by decide +kernel
  have hkinds : ((reading.run (callAfter []) options).outcome ⟨(), []⟩).1.toOption.map
      (fun result => result.transaction.operations.map Operation.kind) = some ["invoke_contract"] := by
    decide +kernel
  obtain ⟨result, hrun, hkinds⟩ := exists_of_toOption_map hkinds
  exact ⟨result, hrun, hcalls, hkinds, run_skipsView hrun⟩

/-- A payment before a call that only reads is not sent either. -/
theorem skipped_payment :
    let account := "GAAQCAIBAEAQCAIBAEAQCAIBAEAQCAIBAEAQCAIBAEAQCAIBAEAQDZ7H"
    let draft := callAfter [{ body := .payment (.text account) (.text "native") (.int 3) }]
    let options : RunOptions := { skipView := true }
    ∃ result, ((reading.run draft options).outcome ⟨(), []⟩).1 = .ok result ∧
      sendTransaction ∉ methods (reading.calls draft options () []) ∧
      result.transaction.operations.map Operation.kind = ["payment", "invoke_contract"] := by
  intro account draft options
  have hcalls : methods (reading.calls draft options () []) = [.simulateTransaction] := by
    decide +kernel
  have hkinds : ((reading.run draft options).outcome ⟨(), []⟩).1.toOption.map
      (fun result => result.transaction.operations.map Operation.kind) =
        some ["payment", "invoke_contract"] := by
    decide +kernel
  obtain ⟨result, hrun, hkinds⟩ := exists_of_toOption_map hkinds
  refine ⟨result, hrun, ?_, hkinds⟩
  rw [hcalls]
  decide

end Pipeline
end LedgerFlow
