import LedgerFlow.Proofs.Assembly
import Mathlib.Data.List.Chain
import Mathlib.Data.List.Induction

/-!
# Assembling over and over

A draft is assembled under one simulation, and its result under another, as often as the caller
simulates again.  Nothing piles up on the way: the inclusion fee is recovered from what the last pass
recorded, the resource data is replaced, and what stands in front of the draft's own operations are
restore operations, each of another pass.

`Carried` is what every pass keeps, by `Carried.assembled` for one pass and `carried_assembleAll` for
a run of them.  The main statement `reassembled_of_assembleAll` adds to it what only the last pass
decides.
-/

namespace LedgerFlow

/-- What one pass of assembly is given. -/
structure Assembly.Pass where
  /-- The simulation to apply. -/
  sim : Simulation
  /-- The floor of the inclusion fee. -/
  baseFee : Int
  /-- The instruction budget that overrides the simulated one. -/
  instructions : Option Int

namespace Assembly

/-- The entries that a simulation brings: those of its first result. -/
def Pass.entries (p : Pass) : List AuthEntry := (p.sim.results.head?.map fun r => r.auth).getD []

/-- What a simulation asks for resources: its own fee, and that of its preamble. -/
def Pass.resourceFee (p : Pass) : Int :=
  p.sim.minResourceFee + (p.sim.restorePreamble.map fun p => p.minResourceFee).getD 0

/-- The entries of the first simulation that has some. -/
def firstAuth (passes : List Pass) : List AuthEntry :=
  ((passes.map Pass.entries).find? fun auth => !auth.isEmpty).getD []

/-- The restore operations that the simulations ask for, the latest one in front. -/
def restores (passes : List Pass) : List Operation :=
  (passes.filterMap fun p => p.sim.restorePreamble.map fun preamble =>
    Transaction.restoring preamble.transactionData.resources.footprint).reverse

theorem auth_eq_entries (p : Pass) : p.sim.auth = p.entries := by
  unfold Simulation.auth Pass.entries
  cases p.sim.results <;> rfl

/-- Later entries count only as long as no earlier pass had some. -/
theorem firstAuth_append_singleton (passes : List Pass) (p : Pass) :
    firstAuth (passes ++ [p]) =
      if (firstAuth passes).isEmpty then p.entries else firstAuth passes := by
  unfold firstAuth
  rw [List.map_append, List.find?_append]
  cases hfound : (passes.map Pass.entries).find? fun auth => !auth.isEmpty with
  | some auth =>
      have hempty : auth.isEmpty = false := by
        simpa using List.find?_some (p := fun auth : List AuthEntry => !auth.isEmpty) hfound
      simp [hempty]
  | none => cases hauth : p.entries <;> simp [hauth]

theorem restores_append_singleton (passes : List Pass) (p : Pass) :
    restores (passes ++ [p]) =
      (p.sim.restorePreamble.map Simulation.restoreOperation).toList ++ restores passes := by
  unfold restores
  cases hpreamble : p.sim.restorePreamble <;>
    simp [hpreamble, Transaction.restoreOperation_eq_restoring]

theorem exists_of_mem_restores {passes : List Pass} {op : Operation} (h : op ∈ restores passes) :
    ∃ p, op = Simulation.restoreOperation p := by
  obtain ⟨pass, -, hop⟩ := List.mem_filterMap.1 (List.mem_reverse.1 h)
  obtain ⟨p, -, rfl⟩ := Option.map_eq_some_iff.1 hop
  exact ⟨p, (Transaction.restoreOperation_eq_restoring p).symm⟩

end Assembly

namespace Transaction

open Assembly

/-- Assembles a draft under the first pass, and each result under the next one. -/
def assembleAll (tx : Transaction) (passes : List Pass) : Except Fault Transaction :=
  passes.foldlM (fun tx p => tx.assemble p.sim p.baseFee p.instructions) tx

/-- An operation once it has taken entries: a contract call that has none takes them, and every other
operation stays as it is. -/
def completed (entries : List AuthEntry) : Operation → Operation
  | ⟨.invokeContract contractId functionName args [], sourceAccount⟩ =>
    ⟨.invokeContract contractId functionName args entries, sourceAccount⟩
  | op => op

theorem attachAuth_eq_completed (entries : List AuthEntry) :
    attachAuth entries = completed entries := by
  funext op
  obtain ⟨body, sourceAccount⟩ := op
  cases body with
  | invokeContract contractId functionName args own => cases own <;> rfl
  | _ => rfl

/-- `front` is what the passes may have put before the operations `kept`: restore operations, at most
one for each pass that asks for one, and none of them twice in a row. -/
structure RestoredFront (passes : List Pass) (kept front : List Operation) : Prop where
  sublist : front.Sublist (restores passes)
  chain : front.IsChain fun op next => next.same op = false
  join : ∀ op ∈ front.getLast?, ∀ next ∈ kept.head?, next.same op = false

/-- What every pass of assembly keeps of the draft `tx`, given the transaction `out` after `passes`. -/
structure Carried (tx : Transaction) (passes : List Pass) (out : Transaction) : Prop where
  inclusionFee : out.inclusionFee = (passes.map Pass.baseFee).foldl max tx.inclusionFee
  operations : ∃ front, out.operations = front ++ tx.operations.map (completed (firstAuth passes)) ∧
    RestoredFront passes (tx.operations.map (completed (firstAuth passes))) front
  rest : out = { tx with
    fee := out.fee, operations := out.operations, sorobanData := out.sorobanData }

/-- What a draft has become after `passes` and then `last`: only the last pass decides on the resource
fee and the resource data.  The draft's own inclusion fee is what its fee exceeds the recorded resource
fee by. -/
structure Reassembled (tx : Transaction) (passes : List Pass) (last : Pass) (out : Transaction) : Prop
    extends Carried tx (passes ++ [last]) out where
  fee :
    let recorded := (tx.sorobanData.map fun data => data.resourceFee).getD 0
    out.fee =
      ((passes ++ [last]).map Pass.baseFee).foldl max (tx.fee - recorded) + last.resourceFee
  sorobanData :
    let simulated := (last.sim.transactionData.getD {}).resources
    out.sorobanData = some
      { resources := { simulated with
          instructions := last.instructions.getD simulated.instructions }
        resourceFee := last.resourceFee }

/-! ## One more pass -/

namespace RestoredFront

variable {passes : List Pass} {kept front : List Operation}

/-- Attaching entries passes over the restore operations. -/
theorem map_attachAuth (h : RestoredFront passes kept front) (auth : List AuthEntry) :
    front.map (attachAuth auth) = front := by
  refine (List.map_congr_left fun op hop => ?_).trans (List.map_id front)
  obtain ⟨p, rfl⟩ := exists_of_mem_restores (h.sublist.subset hop)
  rfl

/-- Attaching entries to the operations behind does not make them restore operations. -/
theorem join_attachAuth (h : RestoredFront passes kept front) (auth : List AuthEntry) :
    ∀ op ∈ front.getLast?, ∀ next ∈ (kept.map (attachAuth auth)).head?, next.same op = false := by
  intro op hop next hnext
  obtain ⟨p, rfl⟩ := exists_of_mem_restores (h.sublist.subset (List.mem_of_getLast? hop))
  rw [List.head?_map] at hnext
  obtain ⟨next, hhead, rfl⟩ := Option.map_eq_some_iff.1 hnext
  rw [same_restore_attachAuth]
  exact h.join _ hop next hhead

/-- One more pass keeps the front, or puts its own restore operation before it. -/
theorem withRestore (h : RestoredFront passes kept front) (p : Pass) (auth : List AuthEntry) :
    ∃ front', Transaction.withRestore p.sim.restorePreamble (front ++ kept.map (attachAuth auth)) =
        front' ++ kept.map (attachAuth auth) ∧
      RestoredFront (passes ++ [p]) (kept.map (attachAuth auth)) front' := by
  have hjoin := h.join_attachAuth auth
  have hkeep : front.Sublist (restores (passes ++ [p])) := by
    rw [restores_append_singleton]
    exact h.sublist.trans (List.sublist_append_right _ _)
  rcases withRestore_cases p.sim.restorePreamble (front ++ kept.map (attachAuth auth)) with
    hops | ⟨preamble, hpreamble, hops, hhead⟩
  · exact ⟨front, hops, hkeep, h.chain, hjoin⟩
  · refine ⟨Simulation.restoreOperation preamble :: front, hops, ?_, ?_, ?_⟩
    · rw [restores_append_singleton, hpreamble]
      exact h.sublist.cons_cons _
    -- The head of the whole list is the head of the front, or of what is behind an empty front.
    · refine h.chain.cons fun next hnext => hhead next ?_
      rw [List.head?_append, hnext]
      rfl
    · cases front with
      | nil =>
          intro op hop next hnext
          cases hop
          exact hhead next hnext
      | cons first others => exact hjoin

end RestoredFront

/-- One pass keeps what the passes before it kept. -/
theorem Carried.assembled {tx mid : Transaction} {passes : List Pass} (h : Carried tx passes mid)
    (p : Pass) :
    Carried tx (passes ++ [p]) (mid.assembled p.sim p.baseFee p.instructions) := by
  obtain ⟨front, hops, hfront⟩ := h.operations
  rw [← attachAuth_eq_completed] at hops hfront
  have hkept : (tx.operations.map (attachAuth (firstAuth passes))).map (attachAuth p.sim.auth) =
      tx.operations.map (attachAuth (firstAuth (passes ++ [p]))) := by
    rw [List.map_map, firstAuth_append_singleton, auth_eq_entries]
    exact List.map_congr_left fun op _ => attachAuth_attachAuth _ _ op
  have hattached : mid.operations.map (attachAuth p.sim.auth) =
      front ++ tx.operations.map (attachAuth (firstAuth (passes ++ [p]))) := by
    rw [hops, List.map_append, hfront.map_attachAuth, hkept]
  refine ⟨?_, ?_, ?_⟩
  · rw [inclusionFee_assembled, h.inclusionFee, List.map_append, List.foldl_append]
    rfl
  · obtain ⟨front', hops', hfront'⟩ := hfront.withRestore p p.sim.auth
    rw [hkept] at hops' hfront'
    rw [← attachAuth_eq_completed]
    refine ⟨front', ?_, hfront'⟩
    rw [← hops', ← hattached]
    rfl
  · rw [h.rest]
    rfl

/-! ## A run of passes -/

theorem carried_nil (tx : Transaction) : Carried tx [] tx := by
  refine ⟨rfl, ⟨[], ?_, ?_⟩, rfl⟩
  · have hnone : completed (firstAuth []) = id := by
      rw [← attachAuth_eq_completed]
      exact funext attachAuth_nil
    rw [hnone, List.map_id, List.nil_append]
  · exact ⟨List.nil_sublist _, List.IsChain.nil, by simp⟩

theorem assembleAll_append_singleton_eq_ok_iff {tx out : Transaction} {passes : List Pass}
    {p : Pass} :
    tx.assembleAll (passes ++ [p]) = .ok out ↔
      ∃ mid, tx.assembleAll passes = .ok mid ∧
        mid.assemble p.sim p.baseFee p.instructions = .ok out := by
  unfold assembleAll
  rw [List.foldlM_append]
  simp only [List.foldlM_cons, List.foldlM_nil, bind_pure]
  cases passes.foldlM (fun (tx : Transaction) p => tx.assemble p.sim p.baseFee p.instructions) tx with
  | error fault =>
      constructor
      · rintro ⟨⟩
      · rintro ⟨mid, ⟨⟩, -⟩
  | ok mid =>
      constructor
      · exact fun h => ⟨mid, rfl, h⟩
      · rintro ⟨_, ⟨⟩, h⟩
        exact h

theorem eq_assembled_of_assemble {tx out : Transaction} {p : Pass}
    (h : tx.assemble p.sim p.baseFee p.instructions = .ok out) :
    out = tx.assembled p.sim p.baseFee p.instructions := by
  obtain ⟨-, -, base, budget, hbase, hbudget, -, hout⟩ := assembleReading_eq_ok_iff.1 h
  cases hbase
  cases hbudget
  exact hout.symm

/-- However many passes succeed one after another, the draft is carried through them. -/
theorem carried_assembleAll (tx : Transaction) (passes : List Pass) :
    ∀ {out}, tx.assembleAll passes = .ok out → Carried tx passes out := by
  -- The pass that comes last acts on what the others left, so the list grows at its end.
  induction passes using List.reverseRecOn with
  | nil =>
      intro out h
      cases h
      exact carried_nil tx
  | append_singleton passes p ih =>
      intro out h
      obtain ⟨mid, hmid, hlast⟩ := assembleAll_append_singleton_eq_ok_iff.1 h
      rw [eq_assembled_of_assemble hlast]
      exact (ih hmid).assembled p

/-- **Assembling again never accumulates.**  After any run of passes that all succeed, the inclusion
fee is the largest of the draft's own and the floors, the resource fee and the resource data are those
of the last pass alone, and the operations are the draft's, in order, behind restore operations of
which no two neighbours are equal and each belongs to another pass.  A contract call that waited for
entries has those of the first simulation with some, and every other operation is as it was. -/
theorem reassembled_of_assembleAll {tx out : Transaction} {passes : List Pass} {last : Pass}
    (h : tx.assembleAll (passes ++ [last]) = .ok out) : Reassembled tx passes last out := by
  have hcarried := carried_assembleAll tx (passes ++ [last]) h
  obtain ⟨mid, -, hlast⟩ := assembleAll_append_singleton_eq_ok_iff.1 h
  have hdecided := eq_assembled_of_assemble hlast
  have hrecorded : (tx.sorobanData.map fun data => data.resourceFee).getD 0 = tx.resourceFee := by
    unfold resourceFee
    cases tx.sorobanData <;> rfl
  refine { hcarried with fee := ?_, sorobanData := ?_ }
  · have hresource : out.resourceFee = last.resourceFee := by
      rw [hdecided, Pass.resourceFee, ← totalResourceFee_eq]
      rfl
    have hinclusion := hcarried.inclusionFee
    rw [inclusionFee, hresource, inclusionFee, ← hrecorded] at hinclusion
    exact Int.sub_eq_iff_eq_add.1 hinclusion
  · rw [hdecided, Pass.resourceFee, ← totalResourceFee_eq]
    cases hbudget : last.instructions <;> rfl

/-- Three simulations of one draft: the first asks to restore a key and brings no entries, the second
asks for the same key again, and the third for another one. -/
theorem reassembled_thrice :
    let entry (address : String) : AuthEntry :=
      { invocation := .mk "C" "f" [.int 1] [], address := .text address }
    let preamble (key : String) : RestorePreamble :=
      { transactionData := { resources := { footprint := { readWrite := [.text key] } } }
        minResourceFee := 5 }
    let restore (key : String) : Operation := Simulation.restoreOperation (preamble key)
    let call (auth : List AuthEntry) : Operation :=
      { body := .invokeContract (.text "C") (.text "f") (.list [.int 1]) auth }
    let tx : Transaction :=
      { sourceAccount := "G", seqNum := 1, fee := 50, operations := [call []] }
    let first : Pass :=
      ⟨{ minResourceFee := 20, restorePreamble := some (preamble "a") }, 100, some 7⟩
    let second : Pass :=
      ⟨{ minResourceFee := 30, results := [{ auth := [entry "G"] }],
         restorePreamble := some (preamble "a") }, 300, none⟩
    let third : Pass :=
      ⟨{ minResourceFee := 40, results := [{ auth := [entry "H"] }],
         restorePreamble := some (preamble "b") }, 200, none⟩
    let out : Transaction :=
      { tx with
        fee := 345
        operations := [restore "b", restore "a", call [entry "G"]]
        sorobanData := some { resourceFee := 45 } }
    tx.assembleAll ([first, second] ++ [third]) = .ok out ∧
      Reassembled tx [first, second] third out := by
  intro entry preamble restore call tx first second third out
  have h : tx.assembleAll ([first, second] ++ [third]) = .ok out := rfl
  exact ⟨h, reassembled_of_assembleAll h⟩

end Transaction
end LedgerFlow
