import LedgerFlow.Proofs.Codec.Cbor.Canonical
import LedgerFlow.Transaction

/-!
# Models read back from their values

Every model that is written as a value and put in canonical form is read back as the same model,
with its dynamic values in canonical form.  `mapValues` says what happens to a model when something
happens to each of its dynamic values: names, numbers, signatures and the shape stay as they are.

There is one lemma for each type, in the order in which the types contain each other.
-/

namespace LedgerFlow

variable {ο : Type} [Objects ο]

namespace Value

theorem pure_eq_ok {α : Type} (a : α) : (pure a : Read α) = .ok a := rfl

/-- Things that are read one by one are read as a list. -/
theorem mapM_eq_ok {ε α β : Type} {read : α → Except ε β} {back : α → β} {xs : List α}
    (h : ∀ x ∈ xs, read x = .ok (back x)) : xs.mapM read = .ok (xs.map back) := by
  induction xs with
  | nil => rfl
  | cons x xs ih =>
      have hx := h x List.mem_cons_self
      have hxs := ih fun y hy => h y (List.mem_cons_of_mem x hy)
      rw [List.mapM_cons, hx, hxs]
      rfl

theorem mapM_ok {α β : Type} (back : α → β) (xs : List α) :
    xs.mapM (fun x => (Except.ok (back x) : Read β)) = .ok (xs.map back) :=
  mapM_eq_ok fun _ _ => rfl

/-- The items of a list are there even when there are none. -/
theorem toItemsIfPresent_list (items : List (Value ο)) :
    (Value.list items).toItemsIfPresent = .ok items := by
  cases items <;> rfl

theorem orEmptyMap_of_isTruthy {v : Value ο} (h : v.isTruthy = true) : v.orEmptyMap = v := by
  simp [orEmptyMap, h]

end Value

/-! ## Resources -/

namespace Footprint

def mapValues (f : Value ο → Value ο) (p : Footprint ο) : Footprint ο :=
  { readOnly := p.readOnly.map f, readWrite := p.readWrite.map f }

theorem ofValue_canonical (p : Footprint ο) :
    ofValue p.toValue.canonical = .ok (p.mapValues Value.canonical) := by
  simp [ofValue, toValue, Value.get_canonical_record, List.lookup_cons, ok_bind,
    Value.toItemsOrNone, Value.toItems, mapValues]

end Footprint

namespace Resources

def mapValues (f : Value ο → Value ο) (r : Resources ο) : Resources ο :=
  { r with footprint := r.footprint.mapValues f }

theorem ofValue_canonical (r : Resources ο) :
    ofValue r.toValue.canonical = .ok (r.mapValues Value.canonical) := by
  have hfootprint : r.footprint.toValue.canonical.orEmptyMap = r.footprint.toValue.canonical :=
    Value.orEmptyMap_of_isTruthy (Value.isTruthy_canonical_record (by simp))
  simp [ofValue, toValue, Value.get_canonical_record, Value.getD_canonical_record, List.lookup_cons,
    ok_bind, Value.toInt, hfootprint, Footprint.ofValue_canonical, mapValues]

end Resources

namespace SorobanData

def mapValues (f : Value ο → Value ο) (d : SorobanData ο) : SorobanData ο :=
  { d with resources := d.resources.mapValues f }

theorem ofValue_canonical (d : SorobanData ο) :
    ofValue d.toValue.canonical = .ok (d.mapValues Value.canonical) := by
  have hresources : d.resources.toValue.canonical.orEmptyMap = d.resources.toValue.canonical :=
    Value.orEmptyMap_of_isTruthy (Value.isTruthy_canonical_record (by simp))
  simp [ofValue, toValue, Value.get_canonical_record, Value.getD_canonical_record, List.lookup_cons,
    ok_bind, Value.toInt, hresources, Resources.ofValue_canonical, mapValues]

end SorobanData

/-! ## Authorization entries -/

namespace Invocation

mutual

def mapValues (f : Value ο → Value ο) : Invocation ο → Invocation ο
  | .mk contractId functionName args subs =>
    .mk contractId functionName (args.map f) (mapValuesAll f subs)

/-- Several invocations with something done to their values. -/
def mapValuesAll (f : Value ο → Value ο) : List (Invocation ο) → List (Invocation ο)
  | [] => []
  | i :: rest => mapValues f i :: mapValuesAll f rest

end

omit [Objects ο] in
theorem mapValuesAll_eq_map (f : Value ο → Value ο) (subs : List (Invocation ο)) :
    mapValuesAll f subs = subs.map (mapValues f) := by
  induction subs with
  | nil => rfl
  | cons i rest ih => simp [mapValuesAll, ih]

omit [Objects ο] in
theorem toValues_eq_map (subs : List (Invocation ο)) : toValues subs = subs.map toValue := by
  induction subs with
  | nil => rfl
  | cons i rest ih => simp [toValues, ih]

omit [Objects ο] in
/-- Structural induction: a call by the calls it makes. -/
@[elab_as_elim]
theorem structural {motive : Invocation ο → Prop}
    (mk : ∀ contractId functionName args subs, (∀ i ∈ subs, motive i) →
      motive (.mk contractId functionName args subs)) (i : Invocation ο) : motive i :=
  Invocation.rec (motive_2 := fun subs => ∀ i ∈ subs, motive i) mk
    (List.forall_mem_nil _) (fun _ _ hi hrest => List.forall_mem_cons.2 ⟨hi, hrest⟩) i

/-- The calls that a call makes nest less deep than the call. -/
theorem depth_lt_of_mem_subs (contractId functionName : String) (args : List (Value ο))
    {subs : List (Invocation ο)} {i : Invocation ο} (h : i ∈ subs) :
    i.toValue.canonical.depth <
      (toValue (.mk contractId functionName args subs)).canonical.depth := by
  have hfield : (toValue (.mk contractId functionName args subs)).canonical.field?
      "subInvocations" = some (.list (subs.map fun i => i.toValue.canonical)) := by
    simp [toValue, Value.field?_canonical_record, List.lookup_cons, toValues_eq_map,
      Function.comp_def]
  have hmem : i.toValue.canonical ∈ subs.map fun i => i.toValue.canonical :=
    List.mem_map_of_mem h
  rw [toValue, Value.record, Value.canonical_map] at hfield ⊢
  exact Nat.lt_trans (Value.depth_lt_of_mem_list hmem) (Value.depth_lt_of_lookup hfield)

theorem ofValueWithin_canonical {i : Invocation ο} {depth : Nat}
    (h : i.toValue.canonical.depth ≤ depth) :
    ofValueWithin depth i.toValue.canonical = .ok (i.mapValues Value.canonical) := by
  induction i using structural generalizing depth with
  | mk contractId functionName args subs ih =>
      cases depth with
      -- A call is written as a map, which nests at least one deep.
      | zero =>
          rw [toValue, Value.record, Value.canonical_map, Value.depth] at h
          omega
      | succ depth =>
          have hsubs : subs.mapM (fun i => ofValueWithin depth i.toValue.canonical) =
              .ok (subs.map (mapValues Value.canonical)) := by
            refine Value.mapM_eq_ok fun i hi => ih i hi ?_
            have hdepth := depth_lt_of_mem_subs contractId functionName args hi
            omega
          simp [ofValueWithin, toValue, Value.require_canonical_record, Value.get_canonical_record,
            List.lookup_cons, ok_bind, Value.toText, Value.toItemsOrNone, Value.toItems,
            Value.toItemsIfPresent_list, toValues_eq_map, Function.comp_def, hsubs, mapValues,
            mapValuesAll_eq_map]

theorem ofValue_canonical (i : Invocation ο) :
    ofValue i.toValue.canonical = .ok (i.mapValues Value.canonical) :=
  ofValueWithin_canonical (Nat.le_succ _)

end Invocation

namespace AuthSignature

theorem ofValue_canonical (s : AuthSignature) :
    ofValue (s.toValue : Value ο).canonical = .ok s := by
  simp [ofValue, toValue, Value.require_canonical_record, List.lookup_cons, ok_bind,
    Value.toBytes]

/-- A signature is not null. -/
theorem isNull_canonical (s : AuthSignature) :
    (s.toValue : Value ο).canonical.isNull = false := by
  rw [toValue, Value.record, Value.canonical_map]
  rfl

end AuthSignature

namespace AuthEntry

def mapValues (f : Value ο → Value ο) (e : AuthEntry ο) : AuthEntry ο :=
  { e with invocation := e.invocation.mapValues f, address := f e.address }

/-- The field `signature` is read as absent exactly when it is not written. -/
theorem ofValue_canonical (e : AuthEntry ο) :
    ofValue e.toValue.canonical = .ok (e.mapValues Value.canonical) := by
  obtain ⟨invocation, address, nonce, expiration, signature⟩ := e
  cases signature with
  | none =>
      simp [ofValue, toValue, Value.require_canonical_record, Value.get_canonical_record,
        Value.getD_canonical_record, List.lookup_cons, ok_bind, Value.toInt, Value.isNull,
        Value.pure_eq_ok, Invocation.ofValue_canonical, mapValues]
  | some s =>
      simp [ofValue, toValue, Value.require_canonical_record, Value.get_canonical_record,
        Value.getD_canonical_record, List.lookup_cons, ok_bind, Value.toInt,
        Invocation.ofValue_canonical, AuthSignature.ofValue_canonical,
        AuthSignature.isNull_canonical, mapValues]

end AuthEntry

/-! ## Operations -/

namespace Body

def mapValues (f : Value ο → Value ο) : Body ο → Body ο
  | .invokeContract contractId functionName args auth =>
    .invokeContract (f contractId) (f functionName) (f args) (auth.map (AuthEntry.mapValues f))
  | .extendFootprintTtl extendTo => .extendFootprintTtl (f extendTo)
  | .restoreFootprint keys => .restoreFootprint (f keys)
  | .payment destination asset amount => .payment (f destination) (f asset) (f amount)
  | .createAccount destination startingBalance =>
    .createAccount (f destination) (f startingBalance)
  | .changeTrust asset limit => .changeTrust (f asset) (f limit)
  | .manageData name value => .manageData (f name) (f value)
  | .accountMerge destination => .accountMerge (f destination)
  | .bumpSequence bumpTo => .bumpSequence (f bumpTo)
  | .createClaimableBalance asset amount claimants =>
    .createClaimableBalance (f asset) (f amount) (f claimants)
  | .claimClaimableBalance balanceId => .claimClaimableBalance (f balanceId)
  | .clawbackClaimableBalance balanceId => .clawbackClaimableBalance (f balanceId)
  | .beginSponsoringFutureReserves sponsoredId => .beginSponsoringFutureReserves (f sponsoredId)
  | .endSponsoringFutureReserves => .endSponsoringFutureReserves
  | .revokeSponsorship ledgerKey => .revokeSponsorship (f ledgerKey)

omit [Objects ο] in
/-- No field of a body is named as its tag, and no two fields share a name. -/
theorem nodup_names (b : Body ο) : ((("kind", .text b.kind) :: b.fields).map (·.1)).Nodup := by
  cases b <;> simp [fields]

/-- Each of the fifteen bodies finds its own reader by its tag. -/
theorem ofValue_canonical (b : Body ο) :
    ofValue b.toValue.canonical = .ok (b.mapValues Value.canonical) := by
  -- The tag is read first, so the remaining goal is one reader at its own body.
  have hkind : b.toValue.canonical.get "kind" = .ok (.text b.kind) := by
    rw [toValue, Value.get_canonical_record b.nodup_names]
    rfl
  rw [ofValue, hkind, ok_bind]
  cases b with
  | invokeContract contractId functionName args auth =>
      simp [kind, ofKind, invocationOfValue, needed, toValue, fields,
        Value.field?_canonical_record, List.lookup_cons, ok_bind, Value.toItemsIfPresent_list,
        Value.mapM_ok, AuthEntry.ofValue_canonical, Function.comp_def, mapValues]
  | _ =>
      simp [kind, ofKind, needed, toValue, fields, Value.field?_canonical_record, List.lookup_cons,
        ok_bind, mapValues]

end Body

namespace Operation

def mapValues (f : Value ο → Value ο) (op : Operation ο) : Operation ο :=
  { body := op.body.mapValues f, sourceAccount := f op.sourceAccount }

theorem ofValue_canonical (op : Operation ο) :
    ofValue op.toValue.canonical = .ok (op.mapValues Value.canonical) := by
  simp [ofValue, toValue, Value.require_canonical_record, Value.get_canonical_record,
    List.lookup_cons, ok_bind, Body.ofValue_canonical, mapValues]

end Operation

/-! ## Transactions and envelopes -/

theorem TimeBounds.ofValue_canonical (b : TimeBounds) :
    ofValue (b.toValue : Value ο).canonical = .ok b := by
  simp [ofValue, toValue, Value.getD_canonical_record, List.lookup_cons, ok_bind, Value.toInt]

namespace Memo

def mapValues (f : Value ο → Value ο) (m : Memo ο) : Memo ο := { m with value := f m.value }

theorem ofValue_canonical (m : Memo ο) :
    ofValue m.toValue.canonical = .ok (m.mapValues Value.canonical) := by
  simp [ofValue, toValue, Value.require_canonical_record, List.lookup_cons, ok_bind,
    Value.toText, MemoKind.ofName?_name, Value.pure_eq_ok, mapValues]

end Memo

namespace Transaction

def mapValues (f : Value ο → Value ο) (tx : Transaction ο) : Transaction ο :=
  { tx with
    operations := tx.operations.map (Operation.mapValues f)
    memo := tx.memo.map (Memo.mapValues f)
    sorobanData := tx.sorobanData.map (SorobanData.mapValues f) }

/-- An optional part that is written as a record is read back, and an absent one stays absent. -/
theorem optional_canonical {α : Type} {read : Value ο → Value.Read α} {write : α → Value ο}
    {back : α → α} (hread : ∀ a, read (write a).canonical = .ok (back a))
    (hpresent : ∀ a, (write a).canonical.isTruthy = true) (part : Option α) :
    optional read (Value.ofOption write part).canonical = .ok (part.map back) := by
  cases part with
  | none => rfl
  | some a =>
      rw [Value.ofOption, optional, if_pos (hpresent a), hread a]
      rfl

theorem ofValue_canonical (tx : Transaction ο) :
    ofValue tx.toValue.canonical = .ok (tx.mapValues Value.canonical) := by
  have hbounds : optional TimeBounds.ofValue
      (Value.ofOption TimeBounds.toValue tx.timeBounds : Value ο).canonical = .ok (tx.timeBounds.map id) :=
    optional_canonical TimeBounds.ofValue_canonical
      (fun _ => Value.isTruthy_canonical_record (by simp)) tx.timeBounds
  have hmemo : optional Memo.ofValue (Value.ofOption Memo.toValue tx.memo).canonical =
      .ok (tx.memo.map (Memo.mapValues Value.canonical)) :=
    optional_canonical Memo.ofValue_canonical
      (fun _ => Value.isTruthy_canonical_record (by simp)) tx.memo
  have hdata : optional SorobanData.ofValue
      (Value.ofOption SorobanData.toValue tx.sorobanData).canonical =
        .ok (tx.sorobanData.map (SorobanData.mapValues Value.canonical)) :=
    optional_canonical SorobanData.ofValue_canonical
      (fun _ => Value.isTruthy_canonical_record (by simp)) tx.sorobanData
  simp [ofValue, toValue, Value.require_canonical_record, Value.get_canonical_record,
    Value.getD_canonical_record, List.lookup_cons, ok_bind, Value.toText, Value.toInt,
    Value.toItemsIfPresent_list, Value.mapM_ok, Operation.ofValue_canonical,
    Function.comp_def, hbounds, hmemo, hdata, mapValues]

end Transaction

theorem DecoratedSignature.ofValue_canonical (s : DecoratedSignature) :
    ofValue (s.toValue : Value ο).canonical = .ok s := by
  simp [ofValue, toValue, Value.require_canonical_record, List.lookup_cons, ok_bind,
    Value.toBytes]

namespace Envelope

def mapValues (f : Value ο → Value ο) (e : Envelope ο) : Envelope ο := { e with tx := e.tx.mapValues f }

theorem ofValue_canonical (e : Envelope ο) :
    ofValue e.toValue.canonical = .ok (e.mapValues Value.canonical) := by
  have hsignatures : e.signatures.mapM
      (fun s => DecoratedSignature.ofValue (s.toValue : Value ο).canonical) = .ok (e.signatures.map id) :=
    Value.mapM_eq_ok fun s _ => DecoratedSignature.ofValue_canonical s
  simp [ofValue, toValue, Value.require_canonical_record, Value.get_canonical_record,
    List.lookup_cons, ok_bind, Value.toItemsIfPresent_list, Function.comp_def, hsignatures,
    Transaction.ofValue_canonical, mapValues]

end Envelope
end LedgerFlow
