import LedgerFlow.Draft

/-!
# Valid drafts

A draft is valid when it has operations, its own account and those of its operations are accounts, and at
most one of its operations runs on simulated resources (`Transaction.validate_eq_ok_iff`).  A draft that
fails the last condition only is refused with the kinds of these operations, in order.
-/

namespace LedgerFlow
namespace Transaction

/-- The operations of a transaction that run on simulated resources. -/
def soroban (tx : Transaction) : List Operation := tx.operations.filter fun op => op.isSoroban

/-- What is demanded of a draft besides that few operations run on simulated resources. -/
structure HasAccounts (tx : Transaction) : Prop where
  operations : tx.operations ≠ []
  source : isAccount (.text tx.sourceAccount) = true
  overrides : ∀ op ∈ tx.operations, op.sourceAccount.isNull = true ∨ isAccount op.sourceAccount = true

/-- Leaving out the positions selects the same operations. -/
theorem map_sorobanOperations (tx : Transaction) :
    tx.sorobanOperations.map (fun p => p.2) = tx.soroban := by
  have hfilter := List.filter_map (f := Prod.fst) (p := fun op : Operation => op.isSoroban)
    (l := tx.operations.zipIdx)
  rw [List.zipIdx_map_fst] at hfilter
  rw [soroban, hfilter, sorobanOperations, List.map_map]
  rfl

theorem length_sorobanOperations (tx : Transaction) :
    tx.sorobanOperations.length = tx.soroban.length := by
  rw [← map_sorobanOperations, List.length_map]

/-- No operation has an invalid account of its own when each has none or a valid one. -/
theorem badOverride?_eq_none_iff {ops : List Operation} :
    badOverride? ops = none ↔
      ∀ op ∈ ops, op.sourceAccount.isNull = true ∨ isAccount op.sourceAccount = true := by
  have hpositions : (∀ op ∈ ops, op.sourceAccount.isNull = true ∨ isAccount op.sourceAccount = true) ↔
      ∀ p ∈ ops.zipIdx, p.1.sourceAccount.isNull = true ∨ isAccount p.1.sourceAccount = true := by
    have hmap := List.forall_mem_map (f := Prod.fst) (l := ops.zipIdx)
      (P := fun op : Operation => op.sourceAccount.isNull = true ∨ isAccount op.sourceAccount = true)
    rwa [List.zipIdx_map_fst] at hmap
  rw [badOverride?, Option.map_eq_none_iff, List.find?_eq_none, hpositions]
  refine forall_congr' fun p => imp_congr_right fun _ => ?_
  cases p.1.sourceAccount.isNull <;> cases isAccount p.1.sourceAccount <;> simp

/-- The message for a draft with several operations that run on simulated resources. -/
def severalMessage (ops : List Operation) : String :=
  "at most one soroban operation per transaction, found " ++ toString ops.length ++ " ("
    ++ ", ".intercalate (ops.map Operation.kind) ++ ")"

theorem severalMessage_pair (a b : Operation) :
    severalMessage [a, b] = "at most one soroban operation per transaction, found 2 (" ++ a.kind
      ++ ", " ++ b.kind ++ ")" := by
  have hcount : toString [a, b].length = "2" := by
    show toString 2 = "2"
    decide
  have hopening : "at most one soroban operation per transaction, found " ++ "2" ++ " (" =
      "at most one soroban operation per transaction, found 2 (" := by decide
  have hkinds : ", ".intercalate ([a, b].map Operation.kind) = a.kind ++ ", " ++ b.kind := rfl
  unfold severalMessage
  rw [hcount, hopening, hkinds]
  simp only [String.append_assoc]

/-- With everything else in order, the number of these operations decides. -/
theorem HasAccounts.validate_eq {tx : Transaction} (h : tx.HasAccounts) :
    tx.validate = if 1 < tx.soroban.length then
        .error (.invalidDraft (severalMessage tx.soroban) (some "operations"))
      else .ok () := by
  have hkinds : (tx.sorobanOperations.map fun p => p.2.kind) = tx.soroban.map Operation.kind := by
    rw [← map_sorobanOperations, List.map_map]
    rfl
  unfold validate
  rw [if_neg (by simpa using h.operations), if_neg (by simp [h.source]),
    badOverride?_eq_none_iff.2 h.overrides]
  dsimp only
  rw [length_sorobanOperations, hkinds]
  rfl

/-- A draft without operations or with an invalid account is refused. -/
theorem hasAccounts_of_validate {tx : Transaction} (h : tx.validate = .ok ()) : tx.HasAccounts := by
  unfold validate at h
  split at h
  · cases h
  · next hoperations =>
      split at h
      · cases h
      · next hsource =>
          cases hbad : badOverride? tx.operations with
          | some bad =>
              rw [hbad] at h
              cases h
          | none =>
              exact ⟨by simpa using hoperations, by simpa using hsource, badOverride?_eq_none_iff.1 hbad⟩

theorem validate_eq_ok_iff {tx : Transaction} :
    tx.validate = .ok () ↔ tx.HasAccounts ∧ tx.soroban.length ≤ 1 := by
  constructor
  · intro h
    have haccounts := hasAccounts_of_validate h
    refine ⟨haccounts, ?_⟩
    rw [haccounts.validate_eq] at h
    split at h
    · cases h
    · next hone => exact Nat.not_lt.1 hone
  · rintro ⟨haccounts, hone⟩
    rw [haccounts.validate_eq, if_neg (Nat.not_lt.2 hone)]

end Transaction
end LedgerFlow
