import LedgerFlow.Proofs.Assembly

/-!
# Fees after assembly

Assembly adds up two fees: the larger one of the draft's inclusion fee and a positive floor, and what the
simulation asks for resources.  The sum is compared with the largest fee that the field holds, and with
nothing else: the numbers of a reply are read with their signs, so a node that asks for less than nothing
gets a transaction with a negative resource fee, and maybe a negative fee (`assembled_below_zero`).

`Charged` says what is true of the fees of every assembled transaction, and which simulations keep them in
the range of the field.  The main statement `assembly_charges` adds when there is such a transaction and
when the fee is refused as too large.
-/

namespace LedgerFlow
namespace Transaction

variable {tx out : Transaction} {sim : Simulation} {base fee : Int}
  {instructions : Value.Read (Option Int)}

/-- The fees of a transaction that a draft is assembled to.  They are in the range of the field exactly when
the simulation asks for no negative amount. -/
structure Charged (tx : Transaction) (sim : Simulation) (base : Int) (out : Transaction) : Prop where
  inclusionFee : out.inclusionFee = max tx.inclusionFee base
  resourceFee : out.resourceFee = sim.totalResourceFee
  fee : out.fee = out.inclusionFee + out.resourceFee
  fee_le : out.fee ≤ 2 ^ 32 - 1
  resourceFee_lt : out.resourceFee < out.fee
  inRange_iff : 0 ≤ out.fee ∧ 0 ≤ out.resourceFee ↔ 0 ≤ sim.totalResourceFee

theorem fee_eq_add (tx : Transaction) : tx.fee = tx.inclusionFee + tx.resourceFee := by
  rw [inclusionFee, Int.sub_add_cancel]

/-- With a positive floor something is left for inclusion, so the resource fee alone is below the whole. -/
theorem charged_assembled (hbase : 0 < base) {budget : Option Int}
    (hfee : (tx.assembled sim base budget).fee ≤ maxFee) :
    Charged tx sim base (tx.assembled sim base budget) := by
  have hinclusion : (tx.assembled sim base budget).inclusionFee = max tx.inclusionFee base :=
    inclusionFee_assembled tx sim base budget
  have hresource : (tx.assembled sim base budget).resourceFee = sim.totalResourceFee := rfl
  have hsum := fee_eq_add (tx.assembled sim base budget)
  have hpositive : 0 < max tx.inclusionFee base := by omega
  refine ⟨hinclusion, hresource, hsum, hfee, by omega, ?_⟩
  constructor
  · rintro ⟨-, hnonneg⟩
    rwa [hresource] at hnonneg
  · intro hnonneg
    exact ⟨by omega, by rwa [hresource]⟩

/-- A fee is refused as too large exactly when version and simulation are accepted and the sum does not fit
the field.  The instructions are not looked at before. -/
theorem assembleReading_eq_largeFee_iff :
    tx.assembleReading sim (.ok base) instructions = .error (.pipeline (.largeFee fee)) ↔
      tx.version = currentVersion ∧ sim.error = none ∧
        fee = max tx.inclusionFee base + sim.totalResourceFee ∧ 2 ^ 32 - 1 < fee := by
  by_cases hversion : tx.version = currentVersion
  · cases herror : sim.error with
    | some message =>
        rw [assembleReading, if_neg (not_not_intro hversion), herror]
        simp
    | none =>
        rw [assembleReading_eq_ite instructions hversion herror]
        split
        · next hlarge =>
            constructor
            · intro h
              cases h
              exact ⟨hversion, rfl, rfl, hlarge⟩
            · rintro ⟨-, -, rfl, -⟩
              rfl
        · next hfits =>
            refine iff_of_false ?_ ?_
            · intro h
              cases instructions <;> cases h
            · rintro ⟨-, -, rfl, hlarge⟩
              exact hfits hlarge
  · rw [assembleReading, if_pos hversion]
    simp [hversion]

/-- **What assembly charges.**  With a positive floor, a draft of the current version and a simulation
without error are assembled, or refused for a sum that does not fit the field; and whatever is assembled is
charged the larger inclusion fee and what the simulation asks for resources.  The fee is never above its
range, and it is below it, or the resource fee is, only if the simulation asks for a negative amount. -/
theorem assembly_charges (hbase : 0 < base) :
    (∀ out, tx.assembleReading sim (.ok base) instructions = .ok out → Charged tx sim base out) ∧
      (∀ fee, tx.assembleReading sim (.ok base) instructions = .error (.pipeline (.largeFee fee)) ↔
        tx.version = currentVersion ∧ sim.error = none ∧
          fee = max tx.inclusionFee base + sim.totalResourceFee ∧ 2 ^ 32 - 1 < fee) ∧
      (tx.version = currentVersion → sim.error = none →
        max tx.inclusionFee base + sim.totalResourceFee ≤ 2 ^ 32 - 1 → ∀ budget,
          ∃ out, tx.assembleReading sim (.ok base) (.ok budget) = .ok out) := by
  refine ⟨?_, fun fee => assembleReading_eq_largeFee_iff, ?_⟩
  · intro out h
    obtain ⟨-, -, base', budget, hread, -, hfee, rfl⟩ := assembleReading_eq_ok_iff.1 h
    cases hread
    exact charged_assembled hbase hfee
  · intro hversion herror hfits budget
    exact ⟨_, assembleReading_eq_ok_iff.2 ⟨hversion, herror, base, budget, rfl, rfl, hfits, rfl⟩⟩

/-- A draft whose fee is below the resource fee it already records, and a node that asks for a restoring
too. -/
theorem assembly_charges_restoring :
    let tx : Transaction :=
      { sourceAccount := "G", seqNum := 1, fee := 50, sorobanData := some { resourceFee := 80 } }
    let sim : Simulation :=
      { minResourceFee := 20, restorePreamble := some { transactionData := {}, minResourceFee := 5 } }
    (0 : Int) < 100 ∧ ∃ out, tx.assembleReading sim (.ok 100) (.ok (some 7)) = .ok out ∧
      Charged tx sim 100 out ∧ out.fee = 125 := by
  intro tx sim
  have h : tx.assembleReading sim (.ok 100) (.ok (some 7)) = .ok (tx.assembled sim 100 (some 7)) := rfl
  exact ⟨by decide, _, h, (assembly_charges (by decide)).1 _ h, rfl⟩

/-- A reply that asks for less than nothing is read as it is, and what is assembled under it has a negative
fee. -/
theorem assembled_below_zero :
    let tx : Transaction :=
      { sourceAccount := "G", seqNum := 1
        operations := [{ body := .invokeContract (.text "C") (.text "f") (.list []) [] }] }
    let reply : Value := .record [("minResourceFee", .text "-200"), ("latestLedger", .int 1000)]
    ∃ sim out, Simulation.ofReply reply = .ok sim ∧
      tx.assembleReading sim (.ok 100) (.ok none) = .ok out ∧ out.fee = -100 ∧
      out.resourceFee = -200 :=
  ⟨_, _, rfl, rfl, rfl, rfl⟩

end Transaction
end LedgerFlow
