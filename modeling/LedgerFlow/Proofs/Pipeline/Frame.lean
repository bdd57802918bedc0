import LedgerFlow.Proofs.Pipeline.Authorized
import LedgerFlow.Proofs.Pipeline.Parts

/-!
# What a run may change in a draft

Assembly and authorization both rebuild the operations of a transaction.  Compared without their
authorization entries (`Operation.withoutAuth`), neither changes any of them: assembly puts at most one
operation in front (`exists_front_withRestore`), and authorization none (`withAuth_eq_ok_frame`).

The main statement `sent_frame` is about every call that sends an envelope, for every draft, node,
signer and option: the sent transaction is the draft but for its fee, its resource data, the entries of
its contract calls, and the one operation that restores what the simulation found expired.
-/

namespace LedgerFlow

/-- An operation without the authorization entries of its contract call. -/
def Operation.withoutAuth (op : Operation) : Operation := { op with body := op.body.withAuth [] }

/-- Whether operations start with a given one, compared as values. -/
def startsWith (ops : List Operation) (op : Operation) : Bool :=
  ops.head?.any fun first => first.same op

namespace Operation

/-- Other entries make no difference to an operation without them. -/
theorem withoutAuth_withAuth (op : Operation) (entries : List AuthEntry) :
    ({ op with body := op.body.withAuth entries } : Operation).withoutAuth = op.withoutAuth := by
  obtain ⟨body, sourceAccount⟩ := op
  cases body <;> rfl

/-- Only the restore operation is one without its entries. -/
theorem eq_restore_of_withoutAuth {op : Operation} {preamble : RestorePreamble}
    (h : op.withoutAuth = Simulation.restoreOperation preamble) :
    op = Simulation.restoreOperation preamble := by
  obtain ⟨body, sourceAccount⟩ := op
  cases body with
  | invokeContract => cases congrArg Operation.body h
  | _ => exact h

end Operation

namespace Transaction

variable {tx out : Transaction} {entries : List AuthEntry}

/-! ## Assembly -/

theorem withoutAuth_attachAuth (auth : List AuthEntry) (op : Operation) :
    (attachAuth auth op).withoutAuth = op.withoutAuth := by
  unfold attachAuth
  split
  · exact op.withoutAuth_withAuth auth
  · rfl

theorem map_withoutAuth_attachAuth (auth : List AuthEntry) (ops : List Operation) :
    (ops.map (attachAuth auth)).map Operation.withoutAuth = ops.map Operation.withoutAuth := by
  rw [List.map_map]
  exact List.map_congr_left fun op _ => withoutAuth_attachAuth auth op

theorem startsWith_restore_attachAuth (auth : List AuthEntry) (ops : List Operation)
    (preamble : RestorePreamble) :
    startsWith (ops.map (attachAuth auth)) (Simulation.restoreOperation preamble) =
      startsWith ops (Simulation.restoreOperation preamble) := by
  cases ops with
  | nil => rfl
  | cons op rest => exact same_restore_attachAuth auth op preamble

/-- What restoring puts in front of operations: nothing, or the restore operation of the preamble where
there is one and the operations do not start with it. -/
structure RestoredBy (preamble : Option RestorePreamble) (ops front : List Operation) : Prop where
  atMostOne : front = [] ∨ ∃ p, preamble = some p ∧
    front = [restoring p.transactionData.resources.footprint]
  iff_needed : front ≠ [] ↔ ∃ p, preamble = some p ∧
    startsWith ops (restoring p.transactionData.resources.footprint) = false

theorem exists_front_withRestore (preamble : Option RestorePreamble) (ops : List Operation) :
    ∃ front, withRestore preamble ops = front ++ ops ∧ RestoredBy preamble ops front := by
  cases preamble with
  | none => exact ⟨[], rfl, .inl rfl, by simp⟩
  | some p =>
      have hrestore := restoreOperation_eq_restoring p
      cases ops with
      | nil => exact ⟨[_], rfl, .inr ⟨p, rfl, congrArg ([·]) hrestore⟩, by simp [startsWith]⟩
      | cons op rest =>
          cases hop : op.same (Simulation.restoreOperation p) with
          | true =>
              refine ⟨[], by simp [withRestore, hop], .inl rfl, ?_⟩
              simp [startsWith, ← hrestore, hop]
          | false =>
              refine ⟨[Simulation.restoreOperation p], by simp [withRestore, hop],
                .inr ⟨p, rfl, congrArg ([·]) hrestore⟩, ?_⟩
              simp [startsWith, ← hrestore, hop]

/-- What was restored in front is no contract call. -/
theorem RestoredBy.not_isInvocation {preamble : Option RestorePreamble} {ops front : List Operation}
    (h : RestoredBy preamble ops front) : ∀ op ∈ front, op.body.isInvocation = false := by
  rcases h.atMostOne with rfl | ⟨p, -, rfl⟩
  · exact List.forall_mem_nil _
  · rw [← restoreOperation_eq_restoring]
    exact List.forall_mem_singleton.2 rfl

/-- A draft that starts with a contract call has every restore operation put in front. -/
theorem RestoredBy.eq_nil_iff_of_call {preamble : Option RestorePreamble} {op : Operation}
    {rest front : List Operation} (h : RestoredBy preamble (op :: rest) front)
    (hcall : op.body.isInvocation = true) : front = [] ↔ preamble = none := by
  have hneeded : front ≠ [] ↔ preamble ≠ none := by
    rw [h.iff_needed, Option.ne_none_iff_exists']
    refine exists_congr fun p => and_iff_left ?_
    rw [← restoreOperation_eq_restoring]
    exact same_restore_of_isInvocation hcall p
  exact not_iff_not.1 hneeded

/-! ## Authorization -/

theorem map_withoutAuth_replaceAuth? {ops replaced : List Operation}
    (h : replaceAuth? entries ops = some replaced) :
    replaced.map Operation.withoutAuth = ops.map Operation.withoutAuth := by
  induction ops generalizing replaced with
  | nil => cases h
  | cons op rest ih =>
      rw [replaceAuth?] at h
      split at h
      · cases h
        rw [List.map_cons, List.map_cons, op.withoutAuth_withAuth]
      · obtain ⟨more, hmore, rfl⟩ := Option.map_eq_some_iff.1 h
        rw [List.map_cons, List.map_cons, ih hmore]

/-- Authorization changes nothing but the entries of contract calls. -/
theorem withAuth_eq_ok_frame (h : tx.withAuth entries = .ok out) :
    out = { tx with operations := out.operations } ∧
      out.operations.map Operation.withoutAuth = tx.operations.map Operation.withoutAuth := by
  unfold withAuth at h
  split at h
  · split at h
    · cases h
      exact ⟨rfl, rfl⟩
    · cases h
      refine ⟨rfl, ?_⟩
      cases hreplaced : replaceAuth? entries tx.operations with
      | none => rfl
      | some replaced => exact map_withoutAuth_replaceAuth? hreplaced
  · split at h
    · cases h
      exact ⟨rfl, rfl⟩
    · cases h

/-! ## The whole run -/

/-- What of a draft is left in the transaction that is made of it under a simulation and an instruction
budget. -/
structure Frame (draft : Transaction) (sim : Simulation) (budget : Option Int) (tx : Transaction) :
    Prop where
  sourceAccount : tx.sourceAccount = draft.sourceAccount
  seqNum : tx.seqNum = draft.seqNum
  timeBounds : tx.timeBounds = draft.timeBounds
  memo : tx.memo = draft.memo
  version : tx.version = draft.version
  /-- The operations are those of the draft in their order, but for the entries of contract calls, with
  what restoring puts in front. -/
  operations : ∃ front kept, tx.operations = front ++ kept ∧
    kept.map Operation.withoutAuth = draft.operations.map Operation.withoutAuth ∧
    RestoredBy sim.restorePreamble draft.operations front
  /-- The resource data are the simulated ones, or the empty ones, with the fee and perhaps the budget
  replaced. -/
  sorobanData :
    let simulated := (sim.transactionData.getD {}).resources
    tx.sorobanData = some
      { resources := { simulated with instructions := budget.getD simulated.instructions }
        resourceFee := sim.minResourceFee +
          (sim.restorePreamble.map fun p => p.minResourceFee).getD 0 }

theorem frame_assembled (draft : Transaction) (sim : Simulation) (base : Int) (budget : Option Int) :
    Frame draft sim budget (draft.assembled sim base budget) := by
  obtain ⟨front, hops, hfront⟩ :=
    exists_front_withRestore sim.restorePreamble (draft.operations.map (attachAuth sim.auth))
  refine ⟨rfl, rfl, rfl, rfl, rfl, ⟨front, _, hops, map_withoutAuth_attachAuth _ _, ?_⟩, ?_⟩
  · refine ⟨hfront.atMostOne, hfront.iff_needed.trans ?_⟩
    simp only [← restoreOperation_eq_restoring, startsWith_restore_attachAuth]
  · rw [← totalResourceFee_eq]
    cases budget <;> rfl

/-- What is left of a draft is left when contract calls take other entries. -/
theorem Frame.withAuth {draft : Transaction} {sim : Simulation} {budget : Option Int}
    (hframe : Frame draft sim budget tx) (h : tx.withAuth entries = .ok out) :
    Frame draft sim budget out := by
  obtain ⟨hout, hops⟩ := withAuth_eq_ok_frame h
  obtain ⟨front, kept, hsplit, hkept, hfront⟩ := hframe.operations
  rw [hsplit, List.map_append] at hops
  obtain ⟨front', kept', hsplit', hsame, hkept'⟩ := List.map_eq_append_iff.1 hops
  -- The operation in front has no entries that could be others.
  have hfront' : front' = front := by
    rcases hfront.atMostOne with rfl | ⟨p, -, rfl⟩
    · exact List.map_eq_nil_iff.1 hsame
    · rw [← restoreOperation_eq_restoring] at hsame ⊢
      obtain ⟨op, rfl, hop⟩ := List.map_eq_singleton_iff.1 hsame
      have hrestore : op = Simulation.restoreOperation p := Operation.eq_restore_of_withoutAuth hop
      rw [hrestore]
  subst hfront'
  rw [hout]
  exact ⟨hframe.sourceAccount, hframe.seqNum, hframe.timeBounds, hframe.memo, hframe.version,
    ⟨front', kept', hsplit', hkept'.trans hkept, hfront⟩, hframe.sorobanData⟩

end Transaction

namespace Pipeline

variable {ω τ : Type} [Timeline τ] {p : Pipeline ω τ}

/-- What is sent is the assembled draft with the requirements of the simulation resolved. -/
theorem resolved_of_send {draft : Transaction} {options : RunOptions} {w before : ω}
    {log : List LogRecord} {e : Envelope} {timeout : Option τ} {reply : Except Fault SendReply}
    (hsend : .send before e timeout reply ∈ p.calls draft options w log) :
    ∃ sim budget, (∃ before timeout,
        .simulate before draft timeout (.ok sim) ∈ p.calls draft options w log) ∧
      options.instructions = .ok budget ∧
      draft.assembleReading sim (.ok p.config.baseFee) options.instructions =
        .ok (draft.assembled sim p.config.baseFee budget) ∧
      ∃ policy ledger s s', (Authorization.resolve (draft.assembled sim p.config.baseFee budget)
        (requirements sim) p.recorded.env.signer policy p.config.networkPassphrase ledger
        (Draft.knownLedger sim.latestLedger)).outcome s = (.ok e.tx, s') := by
  obtain ⟨sim, assembled, tx, s₀, s₁, s₂, s₃, s₄, hsim, hassemble, hauthorize, hsign, hgrows, hlast⟩ :=
    stages_of_send hsend
  obtain ⟨-, first, bound, hsimulated⟩ := simulate_eq_ok hsim
  have hassembled := assemble_eq_ok hassemble
  obtain ⟨-, -, base, budget, hbase, hbudget, -, rfl⟩ :=
    Transaction.assembleReading_eq_ok_iff.1 hassembled
  cases hbase
  obtain ⟨policy, ledger, s, hresolve⟩ := exists_resolve_of_authorize hauthorize
  obtain rfl := tx_of_sign hsign
  exact ⟨sim, budget, ⟨first, bound, hlast (hgrows hsimulated)⟩, hbudget, hassembled, policy, ledger,
    s, s₃, hresolve⟩

/-- **What a run may change.**  The transaction that is sent is the draft, but for its fee, its resource
data, the entries of its contract calls and the restore operation in front. -/
theorem sent_frame {draft : Transaction} {options : RunOptions} {w before : ω}
    {log : List LogRecord} {e : Envelope} {timeout : Option τ} {reply : Except Fault SendReply}
    (hsend : .send before e timeout reply ∈ p.calls draft options w log) :
    ∃ sim budget, (∃ before timeout,
        .simulate before draft timeout (.ok sim) ∈ p.calls draft options w log) ∧
      options.instructions = .ok budget ∧ draft.Frame sim budget e.tx := by
  obtain ⟨sim, budget, hsimulated, hbudget, -, policy, ledger, s, s', hresolve⟩ :=
    resolved_of_send hsend
  obtain ⟨entries, hwith, -⟩ := Authorization.resolve_eq_ok hresolve
  exact ⟨sim, budget, hsimulated, hbudget,
    (Transaction.frame_assembled draft sim p.config.baseFee budget).withAuth hwith⟩

/-- A pipeline whose node finds a ledger key expired, and requires what the node of `agreeable` does. -/
def restoring : Pipeline Unit Rat :=
  let preamble : RestorePreamble :=
    { transactionData := { resources := { footprint := { readOnly := [.text "expired"] } } }
      minResourceFee := 5 }
  let data : SorobanData := { resources := { instructions := 9, readBytes := 4 }, resourceFee := 1 }
  { agreeable with
    env := { agreeable.env with
      node := { agreeable.env.node with
        simulate := fun tx timeout => do
          let sim ← agreeable.env.node.simulate tx timeout
          pure { sim with
            minResourceFee := 20, transactionData := some data, restorePreamble := some preamble } } } }

/-- A payment from another account and a contract call without entries are sent behind the restore
operation, with another instruction budget. -/
theorem sent_frame_restoring :
    let account := "GAAQCAIBAEAQCAIBAEAQCAIBAEAQCAIBAEAQCAIBAEAQCAIBAEAQDZ7H"
    let draft : Transaction :=
      { sourceAccount := "GAAAAAAAAAAAAAAAAAAAAAAAAAAAAAAAAAAAAAAAAAAAAAAAAAAAAWHF", seqNum := 1
        memo := some { kind := .text, value := .text "rent" }
        operations :=
          [{ body := .payment (.text account) (.text "native") (.int 3), sourceAccount := .text account },
            { body := .invokeContract (.text "C") (.text "f") (.list [.int 1]) [] }] }
    let calls := restoring.calls draft { instructions := .ok (some 7) } () []
    ∃ e before timeout reply, .send before e timeout reply ∈ calls ∧
      e.tx.operations.length = 3 ∧ e.tx.authEntries.length = 1 ∧
      ∃ sim budget, (∃ before timeout, .simulate before draft timeout (.ok sim) ∈ calls) ∧
        (.ok (some 7) : Value.Read (Option Int)) = .ok budget ∧ draft.Frame sim budget e.tx := by
  intro account draft calls
  have hsend : (calls.any fun call => call.sent?.any fun e =>
      e.tx.operations.length == 3 && e.tx.authEntries.length == 1) = true := by
    decide +kernel
  obtain ⟨call, hmem, hcall⟩ := List.any_eq_true.1 hsend
  cases call with
  | send before e timeout reply =>
      obtain ⟨hops, hauth⟩ := Bool.and_eq_true_iff.1 hcall
      exact ⟨e, before, timeout, reply, hmem, beq_iff_eq.1 hops, beq_iff_eq.1 hauth, sent_frame hmem⟩
  | _ => cases hcall

end Pipeline
end LedgerFlow
