import LedgerFlow.Proofs.Assembly
import LedgerFlow.Proofs.Pipeline.Calls

/-!
# When an assembled transaction is a draft again

Assembly keeps the accounts of a valid draft and the kinds of its operations.  What it may add is one restore
operation in front, which runs on simulated resources itself.  So the result of assembly is a valid draft
again, and can be simulated and assembled once more, unless the restore operation was put beside another
operation on simulated resources (`Transaction.RestoresBeside`).
-/

namespace LedgerFlow

/-- A body does the same with other entries. -/
theorem Body.kind_withAuth (auth : List AuthEntry) (b : Body) : (b.withAuth auth).kind = b.kind := by
  cases b <;> rfl

namespace Transaction

variable {tx out : Transaction} {sim : Simulation} {p : RestorePreamble} {ops : List Operation}

/-! ## What attaching entries keeps -/

theorem kind_attachAuth (auth : List AuthEntry) (op : Operation) :
    (attachAuth auth op).kind = op.kind := by
  unfold attachAuth
  split
  · exact Body.kind_withAuth auth op.body
  · rfl

theorem sourceAccount_attachAuth (auth : List AuthEntry) (op : Operation) :
    (attachAuth auth op).sourceAccount = op.sourceAccount := by
  unfold attachAuth
  split <;> rfl

theorem isSoroban_attachAuth (auth : List AuthEntry) (op : Operation) :
    (attachAuth auth op).isSoroban = op.isSoroban :=
  congrArg (Body.sorobanKinds.contains ·) (kind_attachAuth auth op)

/-- The operations on simulated resources stay what they are, with entries attached. -/
theorem filter_isSoroban_map_attachAuth (auth : List AuthEntry) (ops : List Operation) :
    (ops.map (attachAuth auth)).filter (fun op => op.isSoroban) =
      (ops.filter fun op => op.isSoroban).map (attachAuth auth) := by
  have hsame : ((fun op : Operation => op.isSoroban) ∘ attachAuth auth) = fun op => op.isSoroban :=
    funext (isSoroban_attachAuth auth)
  rw [List.filter_map, hsame]

/-! ## What restoring adds -/

/-- Whether assembly puts the restore operation of a preamble in front of operations. -/
def PutsRestore (sim : Simulation) (ops : List Operation) (p : RestorePreamble) : Prop :=
  sim.restorePreamble = some p ∧
    ∀ op ∈ ops.head?, op.same (restoring p.transactionData.resources.footprint) = false

/-- Whether assembly puts a restore operation in front of a draft that has another operation on simulated
resources. -/
def RestoresBeside (tx : Transaction) (sim : Simulation) : Prop :=
  ∃ p, PutsRestore sim tx.operations p ∧ ∃ op ∈ tx.operations, op.isSoroban = true

theorem withRestore_of_putsRestore (h : PutsRestore sim ops p) :
    withRestore sim.restorePreamble ops = Simulation.restoreOperation p :: ops := by
  obtain ⟨hpreamble, hhead⟩ := h
  rw [← restoreOperation_eq_restoring] at hhead
  cases ops with
  | nil => rw [hpreamble, withRestore]
  | cons op rest => rw [hpreamble, withRestore, hhead op rfl, if_neg Bool.false_ne_true]

theorem withRestore_of_not_putsRestore (h : ∀ p, ¬PutsRestore sim ops p) :
    withRestore sim.restorePreamble ops = ops := by
  rcases withRestore_cases sim.restorePreamble ops with hops | ⟨p, hpreamble, -, hhead⟩
  · exact hops
  · rw [restoreOperation_eq_restoring] at hhead
    exact absurd ⟨hpreamble, hhead⟩ (h p)

/-- Entries make no restore operation of a contract call, nor the other way round. -/
theorem putsRestore_map_attachAuth (auth : List AuthEntry) :
    PutsRestore sim (ops.map (attachAuth auth)) p ↔ PutsRestore sim ops p := by
  unfold PutsRestore
  rw [← restoreOperation_eq_restoring]
  cases ops with
  | nil => rfl
  | cons op rest => simp [same_restore_attachAuth]

theorem operations_assembled_of_putsRestore (h : PutsRestore sim tx.operations p) (base : Int)
    (budget : Option Int) :
    (tx.assembled sim base budget).operations =
      Simulation.restoreOperation p :: tx.operations.map (attachAuth sim.auth) :=
  withRestore_of_putsRestore ((putsRestore_map_attachAuth sim.auth).2 h)

theorem operations_assembled_of_not_putsRestore (h : ∀ p, ¬PutsRestore sim tx.operations p)
    (base : Int) (budget : Option Int) :
    (tx.assembled sim base budget).operations = tx.operations.map (attachAuth sim.auth) :=
  withRestore_of_not_putsRestore fun p => mt (putsRestore_map_attachAuth sim.auth).1 (h p)

/-! ## The result as a draft -/

/-- Assembly adds no account, and keeps those that there are. -/
theorem HasAccounts.assembled (h : tx.HasAccounts) (sim : Simulation) (base : Int)
    (budget : Option Int) : (tx.assembled sim base budget).HasAccounts := by
  have hattached : ∀ op ∈ tx.operations.map (attachAuth sim.auth),
      op.sourceAccount.isNull = true ∨ isAccount op.sourceAccount = true := by
    rw [List.forall_mem_map]
    intro op hop
    rw [sourceAccount_attachAuth]
    exact h.overrides op hop
  by_cases hput : ∃ p, PutsRestore sim tx.operations p
  · obtain ⟨p, hput⟩ := hput
    have hops := operations_assembled_of_putsRestore hput base budget
    refine ⟨by rw [hops]; exact List.cons_ne_nil _ _, h.source, ?_⟩
    rw [hops, List.forall_mem_cons]
    exact ⟨.inl rfl, hattached⟩
  · have hops := operations_assembled_of_not_putsRestore (not_exists.1 hput) base budget
    refine ⟨?_, h.source, hops ▸ hattached⟩
    rw [hops]
    exact fun hnil => h.operations (List.map_eq_nil_iff.1 hnil)

/-- The operation of a valid draft that runs on simulated resources stands behind the restore operation, and
both are named. -/
theorem validate_assembled_of_restoresBeside (hvalid : tx.validate = .ok ())
    (h : RestoresBeside tx sim) (base : Int) (budget : Option Int) :
    ∃ op ∈ tx.operations, op.isSoroban = true ∧ (tx.assembled sim base budget).validate =
      .error (.invalidDraft ("at most one soroban operation per transaction, found 2 (restore_footprint, "
        ++ op.kind ++ ")") (some "operations")) := by
  obtain ⟨p, hput, op, hop, hsoroban⟩ := h
  obtain ⟨haccounts, hone⟩ := validate_eq_ok_iff.1 hvalid
  have hmem : op ∈ tx.soroban := List.mem_filter.2 ⟨hop, hsoroban⟩
  have hsingle : tx.soroban = [op] := by
    obtain ⟨only, honly⟩ := List.length_eq_one_iff.1
      (Nat.le_antisymm hone (List.length_pos_of_mem hmem))
    rw [honly] at hmem ⊢
    rw [List.mem_singleton.1 hmem]
  have hboth : (tx.assembled sim base budget).soroban =
      [Simulation.restoreOperation p, attachAuth sim.auth op] := by
    have hrestore : (Simulation.restoreOperation p).isSoroban = true := rfl
    rw [soroban, operations_assembled_of_putsRestore hput, List.filter_cons, if_pos hrestore,
      filter_isSoroban_map_attachAuth]
    exact congrArg (fun ops => Simulation.restoreOperation p :: ops.map (attachAuth sim.auth)) hsingle
  have hseveral : 1 < [Simulation.restoreOperation p, attachAuth sim.auth op].length :=
    Nat.lt_succ_self 1
  have hrestoring : "at most one soroban operation per transaction, found 2 (" ++
      (Simulation.restoreOperation p).kind ++ ", " =
        "at most one soroban operation per transaction, found 2 (restore_footprint, " := by
    show _ ++ "restore_footprint" ++ _ = _
    decide
  refine ⟨op, hop, hsoroban, ?_⟩
  rw [(haccounts.assembled sim base budget).validate_eq, hboth, if_pos hseveral,
    severalMessage_pair, kind_attachAuth, hrestoring]

/-- A draft without such an operation gets one at most, and any other draft gets none. -/
theorem validate_assembled_of_not_restoresBeside (hvalid : tx.validate = .ok ())
    (h : ¬RestoresBeside tx sim) (base : Int) (budget : Option Int) :
    (tx.assembled sim base budget).validate = .ok () := by
  obtain ⟨haccounts, hone⟩ := validate_eq_ok_iff.1 hvalid
  refine validate_eq_ok_iff.2 ⟨haccounts.assembled sim base budget, ?_⟩
  by_cases hput : ∃ p, PutsRestore sim tx.operations p
  · obtain ⟨p, hput⟩ := hput
    -- Nothing in the draft runs on simulated resources, so the restore operation is alone.
    have hnone : tx.soroban = [] := List.filter_eq_nil_iff.2 fun op hop hsoroban =>
      h ⟨p, hput, op, hop, hsoroban⟩
    have hattached : (tx.operations.map (attachAuth sim.auth)).filter (fun op => op.isSoroban) = [] := by
      rw [filter_isSoroban_map_attachAuth]
      exact List.map_eq_nil_iff.2 hnone
    rw [soroban, operations_assembled_of_putsRestore hput, List.filter_cons, hattached]
    split
    · exact Nat.le_refl 1
    · exact Nat.zero_le 1
  · rw [soroban, operations_assembled_of_not_putsRestore (not_exists.1 hput),
      filter_isSoroban_map_attachAuth, List.length_map]
    exact hone

/-- **When an assembled transaction is a draft again.**  Whatever a valid draft is assembled to, it is refused
as a draft exactly when a restore operation was put beside another operation on simulated resources, and the
message names the two.  In every other case it is valid: simulating it asks the node, and it can be assembled
under every simulation without error whose fee fits. -/
theorem assembled_draft (hvalid : tx.validate = .ok ()) {baseFee : Value.Read Int}
    {instructions : Value.Read (Option Int)}
    (h : tx.assembleReading sim baseFee instructions = .ok out) :
    ((∃ e, out.validate = .error e) ↔ RestoresBeside tx sim) ∧
      (RestoresBeside tx sim → ∃ op ∈ tx.operations, op.isSoroban = true ∧ out.validate =
        .error (.invalidDraft ("at most one soroban operation per transaction, found 2 (restore_footprint, "
          ++ op.kind ++ ")") (some "operations"))) ∧
      (¬RestoresBeside tx sim → out.validate = .ok () ∧
        (∀ {ω τ : Type} (node : Node ω τ) (timeout : Option τ),
          Draft.simulate node out timeout = node.simulate out timeout >>= Draft.accept) ∧
        ∀ (again : Simulation) (base : Int) (budget : Option Int), again.error = none →
          max out.inclusionFee base + again.totalResourceFee ≤ maxFee →
            ∃ final, out.assembleReading again (.ok base) (.ok budget) = .ok final) := by
  obtain ⟨hversion, -, base, budget, -, -, -, rfl⟩ := assembleReading_eq_ok_iff.1 h
  have hrefused : RestoresBeside tx sim → _ := fun hbeside =>
    validate_assembled_of_restoresBeside hvalid hbeside base budget
  have haccepted : ¬RestoresBeside tx sim → _ := fun halone =>
    validate_assembled_of_not_restoresBeside hvalid halone base budget
  refine ⟨⟨?_, ?_⟩, hrefused, fun halone => ⟨haccepted halone, ?_, ?_⟩⟩
  · rintro ⟨e, he⟩
    by_contra halone
    rw [haccepted halone] at he
    cases he
  · intro hbeside
    obtain ⟨op, -, -, hmessage⟩ := hrefused hbeside
    exact ⟨_, hmessage⟩
  · intro ω τ node timeout
    exact Draft.simulate_of_valid (haccepted halone) node timeout
  · intro again base' budget' herror hfits
    exact ⟨_, assembleReading_eq_ok_iff.2
      ⟨hversion, herror, base', budget', rfl, rfl, hfits, rfl⟩⟩

/-- A payment before the contract call leaves no place for the restore operation. -/
theorem assembled_draft_restoring :
    let account := "GAAAAAAAAAAAAAAAAAAAAAAAAAAAAAAAAAAAAAAAAAAAAAAAAAAAAWHF"
    let tx : Transaction :=
      { sourceAccount := account, seqNum := 1
        operations :=
          [{ body := .payment (.text account) (.text "native") (.int 5) },
            { body := .invokeContract (.text "C") (.text "f") (.list []) [] }] }
    let sim : Simulation :=
      { minResourceFee := 20, restorePreamble := some { transactionData := {}, minResourceFee := 5 } }
    tx.validate = .ok () ∧ ∃ out, tx.assembleReading sim (.ok 100) (.ok none) = .ok out ∧
      ∃ e, out.validate = .error e := by
  intro account tx sim
  have hvalid : tx.validate = .ok () := by
    have haccount : isAccount (.text account) = true := by decide +kernel
    refine validate_eq_ok_iff.2 ⟨⟨List.cons_ne_nil _ _, haccount, ?_⟩, Nat.le_refl 1⟩
    simp [tx, Value.isNull]
  have h : tx.assembleReading sim (.ok 100) (.ok none) = .ok (tx.assembled sim 100 none) := rfl
  have hbeside : RestoresBeside tx sim :=
    ⟨_, ⟨rfl, by rintro op ⟨⟩; rfl⟩, _, List.mem_cons_of_mem _ (List.mem_singleton.2 rfl), rfl⟩
  exact ⟨hvalid, _, h, (assembled_draft hvalid h).1.2 hbeside⟩

end Transaction
end LedgerFlow
