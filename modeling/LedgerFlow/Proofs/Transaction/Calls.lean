import LedgerFlow.Proofs.Draft

/-!
# Contract calls of a transaction

A draft that passes its checks has one operation on simulated resources at most, so one contract call
at most (`atMostOneCall_of_validate`).  The authorization entries of a transaction with one contract
call at most are those of that call.
-/

namespace LedgerFlow

/-- Whether at most one of the operations is a contract call. -/
def AtMostOneCall (ops : List Operation) : Prop :=
  (ops.filter fun op => op.body.isInvocation).length ≤ 1

namespace Body

/-- Only a contract call has entries. -/
theorem auth_of_not_isInvocation {b : Body} (h : b.isInvocation = false) : b.auth = [] := by
  cases b <;> first | rfl | cases h

theorem isSoroban_of_isInvocation {b : Body} (h : b.isInvocation = true) : b.isSoroban = true := by
  cases b <;> first | rfl | cases h

theorem isInvocation_withAuth {b : Body} (h : b.isInvocation = true) {entries : List AuthEntry} :
    (b.withAuth entries).isInvocation = true := by
  cases b <;> first | rfl | cases h

theorem auth_withAuth {b : Body} (h : b.isInvocation = true) (entries : List AuthEntry) :
    (b.withAuth entries).auth = entries := by
  cases b <;> first | rfl | cases h

end Body

namespace Transaction

theorem flatMap_auth_eq_nil {ops : List Operation}
    (h : ∀ op ∈ ops, op.body.isInvocation = false) : ops.flatMap (fun op => op.body.auth) = [] := by
  rw [List.flatMap_eq_nil_iff]
  intro op hop
  exact Body.auth_of_not_isInvocation (h op hop)

/-- No operation after the one contract call is another. -/
theorem not_isInvocation_of_call {op : Operation} {rest : List Operation}
    (hone : AtMostOneCall (op :: rest)) (hop : op.body.isInvocation = true) :
    ∀ other ∈ rest, other.body.isInvocation = false := by
  have hrest : rest.filter (fun op => op.body.isInvocation) = [] := by
    simpa [AtMostOneCall, hop] using hone
  intro other hother
  simpa using List.filter_eq_nil_iff.1 hrest other hother

theorem atMostOneCall_tail {op : Operation} {rest : List Operation}
    (hone : AtMostOneCall (op :: rest)) (hop : op.body.isInvocation = false) :
    AtMostOneCall rest := by
  simpa [AtMostOneCall, hop] using hone

/-- Where at most one operation is a call, all are calls only if there is no other operation. -/
theorem length_le_one_of_calls {ops : List Operation} (hone : AtMostOneCall ops)
    (hcalls : ∀ op ∈ ops, op.body.isInvocation = true) : ops.length ≤ 1 := by
  rwa [AtMostOneCall, List.filter_eq_self.2 hcalls] at hone

/-- With one contract call at most, its entries are all entries. -/
theorem flatMap_auth_eq {ops : List Operation} (hone : AtMostOneCall ops) :
    ops.flatMap (fun op => op.body.auth) =
      ((ops.find? fun op => op.body.isInvocation).map fun op => op.body.auth).getD [] := by
  induction ops with
  | nil => rfl
  | cons op rest ih =>
      cases hop : op.body.isInvocation with
      | true =>
          have hrest := flatMap_auth_eq_nil (not_isInvocation_of_call hone hop)
          simp [hop, hrest]
      | false =>
          have hnone := Body.auth_of_not_isInvocation hop
          simp [hop, hnone, ih (atMostOneCall_tail hone hop)]

/-! ## Drafts -/

theorem atMostOneCall_of_validate {tx : Transaction} (h : tx.validate = .ok ()) :
    AtMostOneCall tx.operations := by
  have hle := List.countP_mono_left (l := tx.operations)
    fun op _ => Body.isSoroban_of_isInvocation (b := op.body)
  rw [List.countP_eq_length_filter, List.countP_eq_length_filter] at hle
  exact Nat.le_trans hle (validate_eq_ok_iff.1 h).2

end Transaction
end LedgerFlow
