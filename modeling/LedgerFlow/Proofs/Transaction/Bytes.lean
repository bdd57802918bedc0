import LedgerFlow.Proofs.Codec.Cbor.Injective
import LedgerFlow.Proofs.Transaction.Reading

/-!
# Bytes that canonical form keeps

The canonical bytes of a value are those of its canonical form (`Value.encode_canonical`): sorting
sorted entries leaves them alone, even when two keys have the same bytes.

So nothing changes in the bytes of a model when its dynamic values are put in canonical form, or
replaced in any other way that keeps their bytes.  There is one lemma for each type, in the order in
which the types contain each other.
-/

namespace LedgerFlow

variable {ο : Type} [Objects ο]

namespace Cbor

/-- The bytes of a list depend on those of its items only. -/
theorem encode_list_congr {xs ys : List (Value ο)} (h : xs.map encode = ys.map encode) :
    encode (.list xs) = encode (.list ys) := by
  have hlength : xs.length = ys.length := by simpa using congrArg List.length h
  rw [encode_list, encode_list, hlength, List.flatMap_def, List.flatMap_def, h]

/-- The bytes of a map depend on those of its entries only. -/
theorem encode_map_congr {xs ys : List (Value ο × Value ο)} (h : xs.map entryBytes = ys.map entryBytes) :
    encode (.map xs) = encode (.map ys) := by
  have hlength : xs.length = ys.length := by simpa using congrArg List.length h
  rw [encode, encode, encodeEntries_eq_map, encodeEntries_eq_map, hlength, h]

theorem encode_record_congr {fs gs : List (String × Value ο)}
    (h : (fs.map fun f => (f.1, encode f.2)) = gs.map fun f => (f.1, encode f.2)) :
    encode (.record fs) = encode (.record gs) := by
  have hentries : ∀ fields : List (String × Value ο),
      (fields.map fun f => (Value.text f.1, f.2)).map entryBytes =
        (fields.map fun f => (f.1, encode f.2)).map fun f => (encode (.text f.1), f.2) := by
    intro fields
    rw [List.map_map, List.map_map]
    rfl
  exact encode_map_congr (by rw [hentries, hentries, h])

/-- Entries that stand in canonical order stay in it. -/
theorem encode_map_sortEntries (entries : List (Value ο × Value ο)) :
    encode (.map (sortEntries entries)) = encode (.map entries) := by
  have hsorted : ((entries.map entryBytes).mergeSort keyLe).mergeSort keyLe =
      (entries.map entryBytes).mergeSort keyLe :=
    List.mergeSort_of_pairwise (List.pairwise_mergeSort keyLe_trans keyLe_total _)
  rw [encode, encode, encodeEntries_eq_map, encodeEntries_eq_map, inOrder_eq_mergeSort,
    inOrder_eq_mergeSort, map_sortEntries, hsorted, length_sortEntries]

end Cbor

namespace Value

/-- Putting a value in canonical form keeps its bytes. -/
theorem encode_canonical (v : Value ο) : Cbor.encode v.canonical = Cbor.encode v := by
  induction v using structural with
  | float x =>
      cases hx : x.isNaN with
      | true =>
          have hnan : Binary64.nan.isNaN = true := by decide
          rw [canonical_float_of_isNaN hx]
          simp [Cbor.encode, Cbor.real, hx, hnan]
      | false => rw [canonical_float_of_not_isNaN hx]
  | list items ih =>
      rw [canonical_list]
      refine Cbor.encode_list_congr ?_
      rw [List.map_map]
      exact List.map_congr_left ih
  | map entries ih =>
      have hentries : ((Cbor.sortEntries entries).map canonicalEntry).map Cbor.entryBytes =
          (Cbor.sortEntries entries).map Cbor.entryBytes := by
        rw [List.map_map]
        refine List.map_congr_left fun e he => ?_
        obtain ⟨hk, hv⟩ := ih e (Cbor.mem_sortEntries.1 he)
        exact Prod.ext hk hv
      rw [canonical_map, Cbor.encode_map_congr hentries, Cbor.encode_map_sortEntries]
  | object o => exact Objects.bytes_canonical o
  | _ => rfl

end Value

section

variable {f : Value ο → Value ο} (hf : ∀ v, Cbor.encode (f v) = Cbor.encode v)

include hf

/-! ## Resources -/

theorem Value.encode_list_map (xs : List (Value ο)) :
    Cbor.encode (.list (xs.map f)) = Cbor.encode (.list xs) := by
  refine Cbor.encode_list_congr ?_
  rw [List.map_map]
  exact List.map_congr_left fun x _ => hf x

theorem Footprint.encode_mapValues (p : Footprint ο) :
    Cbor.encode (p.mapValues f).toValue = Cbor.encode p.toValue :=
  Cbor.encode_record_congr (by simp [mapValues, Value.encode_list_map hf])

theorem Resources.encode_mapValues (r : Resources ο) :
    Cbor.encode (r.mapValues f).toValue = Cbor.encode r.toValue :=
  Cbor.encode_record_congr (by simp [mapValues, Footprint.encode_mapValues hf])

theorem SorobanData.encode_mapValues (d : SorobanData ο) :
    Cbor.encode (d.mapValues f).toValue = Cbor.encode d.toValue :=
  Cbor.encode_record_congr (by simp [mapValues, Resources.encode_mapValues hf])

/-! ## Authorization entries -/

theorem Invocation.encode_mapValues (i : Invocation ο) :
    Cbor.encode (i.mapValues f).toValue = Cbor.encode i.toValue := by
  induction i using structural with
  | mk contractId functionName args subs ih =>
      have hsubs : Cbor.encode (.list (toValues (mapValuesAll f subs))) =
          Cbor.encode (.list (toValues subs)) := by
        refine Cbor.encode_list_congr ?_
        rw [toValues_eq_map, toValues_eq_map, mapValuesAll_eq_map]
        simp only [List.map_map]
        exact List.map_congr_left ih
      rw [mapValues, toValue, toValue]
      exact Cbor.encode_record_congr (by simp [Value.encode_list_map hf, hsubs])

theorem AuthEntry.encode_mapValues (e : AuthEntry ο) :
    Cbor.encode (e.mapValues f).toValue = Cbor.encode e.toValue :=
  Cbor.encode_record_congr (by simp [mapValues, Invocation.encode_mapValues hf, hf])

/-! ## Operations -/

theorem Body.encode_mapValues (b : Body ο) :
    Cbor.encode (b.mapValues f).toValue = Cbor.encode b.toValue := by
  refine Cbor.encode_record_congr ?_
  cases b with
  | invokeContract contractId functionName args auth =>
      have hauth : Cbor.encode (.list ((auth.map (AuthEntry.mapValues f)).map AuthEntry.toValue)) =
          Cbor.encode (.list (auth.map AuthEntry.toValue)) := by
        refine Cbor.encode_list_congr ?_
        simp only [List.map_map]
        exact List.map_congr_left fun e _ => AuthEntry.encode_mapValues hf e
      rw [List.map_map] at hauth
      simp [mapValues, fields, kind, hf, hauth]
  | _ => simp [mapValues, fields, kind, hf]

theorem Operation.encode_mapValues (op : Operation ο) :
    Cbor.encode (op.mapValues f).toValue = Cbor.encode op.toValue :=
  Cbor.encode_record_congr (by simp [mapValues, Body.encode_mapValues hf, hf])

/-! ## Transactions and envelopes -/

theorem Memo.encode_mapValues (m : Memo ο) :
    Cbor.encode (m.mapValues f).toValue = Cbor.encode m.toValue :=
  Cbor.encode_record_congr (by simp [mapValues, hf])

omit hf in
theorem Value.encode_ofOption_map {α : Type} {write : α → Value ο} {back : α → α}
    (h : ∀ a, Cbor.encode (write (back a)) = Cbor.encode (write a)) (part : Option α) :
    Cbor.encode (.ofOption write (part.map back)) = Cbor.encode (.ofOption write part) := by
  cases part with
  | none => rfl
  | some a => exact h a

theorem Transaction.encode_mapValues (tx : Transaction ο) :
    Cbor.encode (tx.mapValues f).toValue = Cbor.encode tx.toValue := by
  have hmemo := Value.encode_ofOption_map (Memo.encode_mapValues hf) tx.memo
  have hdata := Value.encode_ofOption_map (SorobanData.encode_mapValues hf) tx.sorobanData
  have hops : Cbor.encode (.list ((tx.operations.map (Operation.mapValues f)).map Operation.toValue)) =
      Cbor.encode (.list (tx.operations.map Operation.toValue)) := by
    refine Cbor.encode_list_congr ?_
    simp only [List.map_map]
    exact List.map_congr_left fun op _ => Operation.encode_mapValues hf op
  rw [List.map_map] at hops
  exact Cbor.encode_record_congr (by simp [mapValues, hmemo, hdata, hops])

theorem Envelope.encode_mapValues (e : Envelope ο) :
    Cbor.encode (e.mapValues f).toValue = Cbor.encode e.toValue :=
  Cbor.encode_record_congr (by simp [mapValues, Transaction.encode_mapValues hf])

end

end LedgerFlow
