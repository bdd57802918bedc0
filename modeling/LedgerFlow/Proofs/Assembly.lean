import LedgerFlow.Assembly
import LedgerFlow.Proofs.Transaction.Calls
import LedgerFlow.Proofs.Value.Equality

/-!
# What assembly produces

`Transaction.assembled` is the transaction that assembly yields once its checks have passed, and
`assembleReading_eq_ok_iff` says that they are the only thing between the two.  Everything else about
assembly is read off `assembled`.

The main statement is that assembly is idempotent.  The second pass recovers the inclusion fee by
subtracting the resource fee that the first pass recorded, finds no contract call without entries
that the simulation could fill, and finds the restore operation in front.
-/

namespace LedgerFlow
namespace Transaction

/-- The transaction that assembly yields when nothing refuses it. -/
def assembled (tx : Transaction) (sim : Simulation) (baseFee : Int) (instructions : Option Int) :
    Transaction :=
  { tx with
    fee := max tx.inclusionFee baseFee + sim.totalResourceFee
    operations := withRestore sim.restorePreamble (tx.operations.map (attachAuth sim.auth))
    sorobanData := some (sim.dataToAttach sim.totalResourceFee instructions) }

/-- Once version, simulation and floor are accepted, the fee is checked, and only then the instructions are
read. -/
theorem assembleReading_eq_ite {tx : Transaction} {sim : Simulation} {base : Int}
    (instructions : Value.Read (Option Int)) (hversion : tx.version = currentVersion)
    (herror : sim.error = none) :
    tx.assembleReading sim (.ok base) instructions =
      if maxFee < max tx.inclusionFee base + sim.totalResourceFee then
        .error (.pipeline (.largeFee (max tx.inclusionFee base + sim.totalResourceFee)))
      else (instructions.mapError .malformed).map fun budget => tx.assembled sim base budget := by
  unfold assembleReading
  rw [if_neg (not_not_intro hversion), herror]
  cases instructions <;> rfl

/-- Once version, simulation and options are accepted, only the fee can refuse. -/
theorem assembleReading_of_accepted {tx : Transaction} {sim : Simulation} {base : Int}
    {budget : Option Int} (hversion : tx.version = currentVersion) (herror : sim.error = none) :
    tx.assembleReading sim (.ok base) (.ok budget) =
      if maxFee < (tx.assembled sim base budget).fee then
        .error (.pipeline (.largeFee (tx.assembled sim base budget).fee))
      else .ok (tx.assembled sim base budget) :=
  assembleReading_eq_ite (.ok budget) hversion herror

/-- Assembly succeeds exactly on a current version, a simulation without error, readable options
and a fee that fits, and then yields the assembled transaction. -/
theorem assembleReading_eq_ok_iff {tx out : Transaction} {sim : Simulation}
    {baseFee : Value.Read Int} {instructions : Value.Read (Option Int)} :
    tx.assembleReading sim baseFee instructions = .ok out ↔
      tx.version = currentVersion ∧ sim.error = none ∧ ∃ base budget,
        baseFee = .ok base ∧ instructions = .ok budget ∧
          (tx.assembled sim base budget).fee ≤ maxFee ∧ tx.assembled sim base budget = out := by
  constructor
  · intro h
    by_cases hversion : tx.version = currentVersion
    · cases herror : sim.error with
      | some message =>
          rw [assembleReading, if_neg (not_not_intro hversion), herror] at h
          cases h
      | none =>
          cases baseFee with
          | error m =>
              rw [assembleReading, if_neg (not_not_intro hversion), herror] at h
              cases h
          | ok base =>
              cases instructions with
              | error m =>
                  rw [assembleReading_eq_ite _ hversion herror] at h
                  split at h <;> cases h
              | ok budget =>
                  rw [assembleReading_of_accepted hversion herror] at h
                  split at h
                  · cases h
                  · next hfee =>
                      cases h
                      exact ⟨hversion, rfl, base, budget, rfl, rfl, by omega, rfl⟩
    · rw [assembleReading, if_pos hversion] at h
      cases h
  · rintro ⟨hversion, herror, base, budget, rfl, rfl, hfee, rfl⟩
    rw [assembleReading_of_accepted hversion herror, if_neg (by omega)]

/-- Whatever is refused is refused with an error that callers handle, unless the instructions cannot be
read. -/
theorem assembleReading_eq_error {tx : Transaction} {sim : Simulation} {base : Int}
    {instructions : Value.Read (Option Int)} {f : Fault}
    (h : tx.assembleReading sim (.ok base) instructions = .error f) :
    (∃ e, f = .pipeline e) ∨ ∃ m, instructions = .error m ∧ f = .malformed m := by
  by_cases hversion : tx.version = currentVersion
  · cases herror : sim.error with
    | some message =>
        rw [assembleReading, if_neg (not_not_intro hversion), herror] at h
        cases h
        exact .inl ⟨_, rfl⟩
    | none =>
        rw [assembleReading_eq_ite _ hversion herror] at h
        split at h
        · cases h
          exact .inl ⟨_, rfl⟩
        · cases instructions with
          | ok budget => cases h
          | error m =>
              cases h
              exact .inr ⟨m, rfl, rfl⟩
  · rw [assembleReading, if_pos hversion] at h
    cases h
    exact .inl ⟨_, rfl⟩

/-- The whole resource fee: what the simulation asks for itself, and what its preamble asks for. -/
theorem totalResourceFee_eq (sim : Simulation) :
    sim.totalResourceFee =
      sim.minResourceFee + (sim.restorePreamble.map fun p => p.minResourceFee).getD 0 := by
  unfold Simulation.totalResourceFee
  cases sim.restorePreamble <;> rfl

/-! ## Attaching authorizations -/

/-- Attaching entries never turns another body into a contract call, or a call into another body. -/
theorem isInvocation_attachAuth (auth : List AuthEntry) (op : Operation) :
    (attachAuth auth op).body.isInvocation = op.body.isInvocation := by
  unfold attachAuth
  split
  · cases op.body <;> rfl
  · rfl

/-- Attaching no entries changes nothing. -/
theorem attachAuth_nil (op : Operation) : attachAuth [] op = op := by
  obtain ⟨body, sourceAccount⟩ := op
  cases body with
  | invokeContract contractId functionName args own => cases own <;> rfl
  | _ => rfl

/-- A call that took entries keeps them, so of two lists the first that is not empty is attached. -/
theorem attachAuth_attachAuth (first second : List AuthEntry) (op : Operation) :
    attachAuth second (attachAuth first op) =
      attachAuth (if first.isEmpty then second else first) op := by
  obtain ⟨body, sourceAccount⟩ := op
  cases body with
  | invokeContract contractId functionName args own =>
      cases own with
      | nil => cases first <;> rfl
      | cons e rest => cases first <;> rfl
  | _ => cases first <;> rfl

theorem map_attachAuth_map_attachAuth (auth : List AuthEntry) (ops : List Operation) :
    (ops.map (attachAuth auth)).map (attachAuth auth) = ops.map (attachAuth auth) := by
  simp [attachAuth_attachAuth]

/-- A contract call is no restore operation. -/
theorem same_restore_of_isInvocation {op : Operation} (h : op.body.isInvocation = true)
    (preamble : RestorePreamble) : op.same (Simulation.restoreOperation preamble) = false := by
  obtain ⟨body, sourceAccount⟩ := op
  cases body with
  | invokeContract contractId functionName args auth => rfl
  | _ => cases h

/-- Only a contract call takes entries, and that is no restore operation with or without them. -/
theorem same_restore_attachAuth (auth : List AuthEntry) (op : Operation)
    (preamble : RestorePreamble) :
    (attachAuth auth op).same (Simulation.restoreOperation preamble) =
      op.same (Simulation.restoreOperation preamble) := by
  cases hcall : op.body.isInvocation with
  | true =>
      have hattached : (attachAuth auth op).body.isInvocation = true :=
        (isInvocation_attachAuth auth op).trans hcall
      rw [same_restore_of_isInvocation hcall, same_restore_of_isInvocation hattached]
  | false => rw [attachAuth, hcall, Bool.false_and, if_neg Bool.false_ne_true]

/-! ## Restoring in front -/

/-- The operation that restores the ledger keys of a footprint: those that would be written, or those
that would be read where none would be written. -/
def restoring : Footprint → Operation
  | ⟨readOnly, []⟩ => { body := .restoreFootprint (.list readOnly), sourceAccount := .null }
  | ⟨_, key :: keys⟩ => { body := .restoreFootprint (.list (key :: keys)), sourceAccount := .null }

theorem restoreOperation_eq_restoring (p : RestorePreamble) :
    Simulation.restoreOperation p = restoring p.transactionData.resources.footprint := by
  obtain ⟨⟨⟨⟨readOnly, readWrite⟩, _, _, _⟩, _⟩, _⟩ := p
  cases readWrite <;> rfl

/-- Restoring changes nothing, or puts the restore operation in front of operations that do not start
with it. -/
theorem withRestore_cases (preamble : Option RestorePreamble) (ops : List Operation) :
    withRestore preamble ops = ops ∨
      ∃ p, preamble = some p ∧ withRestore preamble ops = Simulation.restoreOperation p :: ops ∧
        ∀ op ∈ ops.head?, op.same (Simulation.restoreOperation p) = false := by
  cases preamble with
  | none => exact .inl rfl
  | some p =>
      cases ops with
      | nil => exact .inr ⟨p, rfl, rfl, by simp⟩
      | cons op rest =>
          cases hop : op.same (Simulation.restoreOperation p) with
          | true => exact .inl (by simp [withRestore, hop])
          | false => exact .inr ⟨p, rfl, by simp [withRestore, hop], by simpa using hop⟩

/-- Operations that are restored in front start with the restore operation. -/
theorem withRestore_withRestore (preamble : Option RestorePreamble) (ops : List Operation) :
    withRestore preamble (withRestore preamble ops) = withRestore preamble ops := by
  rcases withRestore_cases preamble ops with hops | ⟨p, rfl, hops, -⟩
  · rw [hops, hops]
  · have hself : (Simulation.restoreOperation p).same (Simulation.restoreOperation p) = true :=
      Operation.same_refl _
    rw [hops]
    simp [withRestore, hself]

/-- The restore operation takes no entries, so attaching them passes over it. -/
theorem map_attachAuth_withRestore (auth : List AuthEntry) (preamble : Option RestorePreamble)
    {ops : List Operation} (h : ops.map (attachAuth auth) = ops) :
    (withRestore preamble ops).map (attachAuth auth) = withRestore preamble ops := by
  rcases withRestore_cases preamble ops with hops | ⟨p, rfl, hops, -⟩
  · rw [hops, h]
  · have hrestore : attachAuth auth (Simulation.restoreOperation p) =
        Simulation.restoreOperation p := rfl
    rw [hops, List.map_cons, hrestore, h]

/-! ## Contract calls of the result -/

theorem atMostOneCall_map_attachAuth (auth : List AuthEntry) {ops : List Operation}
    (hone : AtMostOneCall ops) : AtMostOneCall (ops.map (attachAuth auth)) := by
  have hfilter := List.filter_map (f := attachAuth auth)
    (p := fun op : Operation => op.body.isInvocation) (l := ops)
  have hsame : ((fun op : Operation => op.body.isInvocation) ∘ attachAuth auth) =
      fun op => op.body.isInvocation := funext (isInvocation_attachAuth auth)
  unfold AtMostOneCall
  rw [hfilter, hsame, List.length_map]
  exact hone

/-- The restore operation is no contract call. -/
theorem atMostOneCall_withRestore (preamble : Option RestorePreamble) {ops : List Operation}
    (hone : AtMostOneCall ops) : AtMostOneCall (withRestore preamble ops) := by
  rcases withRestore_cases preamble ops with hops | ⟨p, rfl, hops, -⟩
  · rw [hops]
    exact hone
  · have hrestore : (Simulation.restoreOperation p).body.isInvocation = false := rfl
    rw [hops, AtMostOneCall, List.filter_cons, hrestore]
    exact hone

theorem atMostOneCall_assembled {tx : Transaction} (hone : AtMostOneCall tx.operations)
    (sim : Simulation) (base : Int) (budget : Option Int) :
    AtMostOneCall (tx.assembled sim base budget).operations :=
  atMostOneCall_withRestore _ (atMostOneCall_map_attachAuth _ hone)

/-- A call has its own entries or takes the given ones. -/
theorem mem_auth_attachAuth {auth : List AuthEntry} {op : Operation} {a : AuthEntry}
    (h : a ∈ (attachAuth auth op).body.auth) : a ∈ op.body.auth ∨ a ∈ auth := by
  unfold attachAuth at h
  split at h
  · next hcall =>
      rw [Body.auth_withAuth (Bool.and_eq_true_iff.1 hcall).1] at h
      exact .inr h
  · exact .inl h

/-- Restoring adds no entries. -/
theorem flatMap_auth_withRestore (preamble : Option RestorePreamble) (ops : List Operation) :
    (withRestore preamble ops).flatMap (fun op => op.body.auth) =
      ops.flatMap fun op => op.body.auth := by
  rcases withRestore_cases preamble ops with hops | ⟨p, rfl, hops, -⟩
  · rw [hops]
  · have hnone : (Simulation.restoreOperation p).body.auth = [] := rfl
    rw [hops, List.flatMap_cons, hnone, List.nil_append]

/-- Every entry after assembly was there before or comes from the simulation. -/
theorem mem_authEntries_assembled {tx : Transaction} {sim : Simulation} {base : Int}
    {budget : Option Int} {a : AuthEntry} (h : a ∈ (tx.assembled sim base budget).authEntries) :
    a ∈ tx.authEntries ∨ a ∈ sim.auth := by
  change a ∈ (withRestore _ (tx.operations.map _)).flatMap _ at h
  rw [flatMap_auth_withRestore, List.flatMap_map] at h
  obtain ⟨op, hop, ha⟩ := List.mem_flatMap.1 h
  rcases mem_auth_attachAuth ha with hown | hgiven
  · exact .inl (List.mem_flatMap.2 ⟨op, hop, hown⟩)
  · exact .inr hgiven

/-! ## Assembling again -/

/-- The recorded resource fee is exactly what the total exceeds the inclusion fee by. -/
theorem inclusionFee_assembled (tx : Transaction) (sim : Simulation) (base : Int)
    (budget : Option Int) :
    (tx.assembled sim base budget).inclusionFee = max tx.inclusionFee base := by
  simp only [inclusionFee, resourceFee, assembled, Simulation.dataToAttach, Option.elim_some]
  omega

theorem assembled_assembled (tx : Transaction) (sim : Simulation) (base : Int)
    (budget : Option Int) :
    (tx.assembled sim base budget).assembled sim base budget = tx.assembled sim base budget := by
  have hfee : max (tx.assembled sim base budget).inclusionFee base = max tx.inclusionFee base := by
    rw [inclusionFee_assembled]
    omega
  have hops : withRestore sim.restorePreamble
      ((tx.assembled sim base budget).operations.map (attachAuth sim.auth)) =
        (tx.assembled sim base budget).operations := by
    show withRestore _ ((withRestore _ (tx.operations.map _)).map _) = withRestore _ _
    rw [map_attachAuth_withRestore _ _ (map_attachAuth_map_attachAuth _ _),
      withRestore_withRestore]
  rw [assembled, hfee, hops]
  rfl

/-- **Assembly is idempotent.**  Whatever the transaction already carries (resource data, a restore
operation, contract calls with or without entries, a fee below its resource fee), assembling the
result under the same simulation and options succeeds again and changes nothing. -/
theorem assembleReading_idempotent {tx out : Transaction} {sim : Simulation}
    {baseFee : Value.Read Int} {instructions : Value.Read (Option Int)}
    (h : tx.assembleReading sim baseFee instructions = .ok out) :
    out.assembleReading sim baseFee instructions = .ok out := by
  obtain ⟨hversion, herror, base, budget, hbase, hbudget, hfee, rfl⟩ :=
    assembleReading_eq_ok_iff.1 h
  refine assembleReading_eq_ok_iff.2 ⟨hversion, herror, base, budget, hbase, hbudget, ?_, ?_⟩
  · rw [assembled_assembled]
    exact hfee
  · exact assembled_assembled tx sim base budget

/-- A draft whose fee is below the resource fee it already records, with a stale restore operation
and a contract call that waits for entries. -/
theorem assembleReading_idempotent_restoring :
    let entry : AuthEntry := { invocation := .mk "C" "f" [.int 1] [], address := .text "G" }
    let data : SorobanData := { resources := { instructions := 9 }, resourceFee := 80 }
    let tx : Transaction :=
      { sourceAccount := "G", seqNum := 1, fee := 50, sorobanData := some data
        operations :=
          [{ body := .restoreFootprint (.list [.text "stale"]) },
            { body := .invokeContract (.text "C") (.text "f") (.list [.int 1]) [] }] }
    let preamble : RestorePreamble :=
      { transactionData := { resources := { footprint := { readWrite := [.text "expired"] } } }
        minResourceFee := 5 }
    let sim : Simulation :=
      { minResourceFee := 20, results := [{ auth := [entry] }], restorePreamble := some preamble }
    let out := tx.assembled sim 100 (some 7)
    out.fee = 125 ∧ out.operations.length = 3 ∧
      tx.assembleReading sim (.ok 100) (.ok (some 7)) = .ok out ∧
      out.assembleReading sim (.ok 100) (.ok (some 7)) = .ok out := by
  intro entry data tx preamble sim out
  have h : tx.assembleReading sim (.ok 100) (.ok (some 7)) = .ok out := rfl
  exact ⟨rfl, rfl, h, assembleReading_idempotent h⟩

end Transaction
end LedgerFlow
