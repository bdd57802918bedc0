import LedgerFlow.Proofs.Authorization
import LedgerFlow.Proofs.Transaction.Bytes

/-!
# What makes two entries the same requirement

Two entries have the same identity exactly when their nonces are equal and their addresses and calls have
the same canonical bytes (`identity_eq_iff`): the bytes of an identity are those of the three fields one
after another, and no canonical form is the beginning of another.  So entries of the same requirement are
signed in the same payload, and an entry of the source account is never the same requirement as one with
an address.
-/

namespace LedgerFlow

namespace AuthEntry

variable {a b : AuthEntry}

/-- The bytes of an identity, field by field in canonical order. -/
theorem identity_eq_append (a : AuthEntry) : a.identity = Cbor.head 5 3 ++
    (Cbor.encode (.text "nonce") ++ (Cbor.encode (.int a.nonce) ++
      (Cbor.encode (.text "address") ++ (Cbor.encode a.address ++
        (Cbor.encode (.text "invocation") ++ Cbor.encode a.invocation.toValue))))) := by
  have hsorted : ∀ u v w : Bytes,
      Cbor.inOrder [(Cbor.encode (.text "address"), u), (Cbor.encode (.text "nonce"), v),
          (Cbor.encode (.text "invocation"), w)] =
        [(Cbor.encode (.text "nonce"), v), (Cbor.encode (.text "address"), u),
          (Cbor.encode (.text "invocation"), w)] := by
    intro u v w
    unfold Cbor.inOrder
    rfl
  rw [identity, Value.record, Cbor.encode]
  show Cbor.head 5 3 ++ List.flatMap _ (Cbor.inOrder [_, _, _]) = _
  rw [hsorted]
  simp only [List.flatMap_cons, List.flatMap_nil, List.append_nil, List.append_assoc]
  rfl

theorem identity_eq_iff (hsize : a.identity.length < 2 ^ 64) : a.identity = b.identity ↔
    a.nonce = b.nonce ∧ Cbor.encode a.address = Cbor.encode b.address ∧
      Cbor.encode a.invocation.toValue = Cbor.encode b.invocation.toValue := by
  constructor
  · intro h
    have hsize' := h ▸ hsize
    rw [identity_eq_append, identity_eq_append] at h
    rw [identity_eq_append] at hsize hsize'
    simp only [List.length_append] at hsize hsize'
    rw [List.append_cancel_left_eq, List.append_cancel_left_eq] at h
    -- The field names are left out one after another; the fields between them end together.
    obtain ⟨hnonce, h⟩ := Cbor.agree_of_encode_append_eq (by omega) (by omega) h
    rw [List.append_cancel_left_eq] at h
    obtain ⟨-, hcall⟩ := Cbor.agree_of_encode_append_eq (by omega) (by omega) h
    rw [hcall, List.append_cancel_right_eq] at h
    rw [List.append_cancel_left_eq] at hcall
    exact ⟨Value.agree_int_iff.1 hnonce, h, hcall⟩
  · rintro ⟨hnonce, haddress, hcall⟩
    rw [identity_eq_append, identity_eq_append, hnonce, haddress, hcall]

/-- Entries of the same requirement have addresses that agree. -/
theorem agree_address_of_identity_eq (hsize : a.identity.length < 2 ^ 64)
    (h : a.identity = b.identity) : a.address.Agree b.address := by
  refine Cbor.agree_of_encode_eq ?_ ((identity_eq_iff hsize).1 h).2.1
  rw [identity_eq_append] at hsize
  simp only [List.length_append] at hsize
  omega

/-- A requirement of the source account has no address in any of its entries. -/
theorem isNull_address_of_identity_eq (hsize : a.identity.length < 2 ^ 64)
    (h : a.identity = b.identity) (hnull : a.address.isNull = true) : b.address.isNull = true := by
  have hagree := agree_address_of_identity_eq hsize h
  cases haddress : a.address with
  | null =>
      rw [haddress] at hagree
      generalize b.address = v at hagree ⊢
      cases hagree
      rfl
  | _ =>
      rw [haddress] at hnull
      cases hnull

/-- Entries of the same requirement are signed in the same payload. -/
theorem payload_eq_of_identity_eq (hsize : a.identity.length < 2 ^ 64) (h : a.identity = b.identity)
    (passphrase : String) (limit : Int) : a.payload passphrase limit = b.payload passphrase limit := by
  obtain ⟨hnonce, -, hcall⟩ := (identity_eq_iff hsize).1 h
  rw [payload, payload, preimage, preimage, hnonce]
  refine congrArg sha256 (Cbor.encode_record_congr ?_)
  simp only [List.map_cons, List.map_nil, hcall]

end AuthEntry

namespace Transaction

variable {tx : Transaction} {a e : AuthEntry}

/-- A signed entry for a requirement is an entry of this requirement. -/
theorem identity_of_signedEntry? (h : tx.signedEntry? e = some a) : a.identity = e.identity := by
  have hfound := List.find?_some (p := fun x : AuthEntry => x.identity == e.identity) h
  exact beq_iff_eq.1 hfound

/-- The signed entry is the same for all entries of a requirement. -/
theorem signedEntry?_congr (h : a.identity = e.identity) : tx.signedEntry? a = tx.signedEntry? e := by
  unfold signedEntry?
  rw [h]

/-- Where no signed entry is one of a requirement, none is found for it. -/
theorem signedEntry?_eq_none
    (h : ∀ a ∈ tx.authEntries, a.signature.isSome = true → a.identity ≠ e.identity) :
    tx.signedEntry? e = none := by
  cases hfound : tx.signedEntry? e with
  | none => rfl
  | some a =>
      obtain ⟨hmem, hsigned⟩ := mem_of_signedEntry? hfound
      have hidentity := identity_of_signedEntry? hfound
      exact absurd hidentity (h a hmem hsigned)

/-- Where only entries with an address are signed, there is none for a requirement of the source account. -/
theorem signedEntry?_eq_none_of_isNull
    (hsigned : ∀ x ∈ tx.authEntries, x.signature.isSome = true → x.address.isNull = false)
    (hsize : e.identity.length < 2 ^ 64) (hnull : e.address.isNull = true) :
    tx.signedEntry? e = none := by
  refine signedEntry?_eq_none fun a ha hsome hidentity => ?_
  have haddress := AuthEntry.isNull_address_of_identity_eq hsize hidentity.symm hnull
  rw [hsigned a ha hsome] at haddress
  cases haddress

end Transaction
end LedgerFlow
