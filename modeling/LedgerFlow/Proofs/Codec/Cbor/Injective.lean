import LedgerFlow.Proofs.Codec.Cbor.Canonical

/-!
# Canonical bytes and agreement

Canonical bytes are equal exactly for values that agree.  One direction reads the bytes back, which
shows more: no canonical form is the beginning of another (`agree_of_encode_append_eq`).  For the
other direction the keys of every map have to have different bytes, because only then does the
canonical order not depend on the order in which the entries were written
(`encode_eq_of_agree`).
-/

namespace LedgerFlow
namespace Cbor

/-- Equal canonical bytes in front of anything belong to values that agree. -/
theorem agree_of_encode_append_eq {v w : Value} {r s : Bytes}
    (hv : (encode v).length < 2 ^ 64) (hw : (encode w).length < 2 ^ 64)
    (h : encode v ++ r = encode w ++ s) : v.Agree w ∧ r = s := by
  -- One reader that follows both values gives back both canonical forms.
  let reader : Reader := { ofEntries := .map, foreign := fun _ _ => .error .foreign }
  have hreadv : item? reader (max v.depth w.depth) (encode v ++ r) = .ok (v.canonical, r) :=
    item?_encode (reader.readsBack _) r (Nat.le_max_left _ _) (Nat.le_refl _) hv
  have hreadw : item? reader (max v.depth w.depth) (encode w ++ s) = .ok (w.canonical, s) :=
    item?_encode (reader.readsBack _) s (Nat.le_max_right _ _) (Nat.le_refl _) hw
  rw [h, hreadw] at hreadv
  obtain ⟨hcanonical, hrest⟩ := Prod.mk.inj (Except.ok.inj hreadv)
  refine ⟨(Value.agree_canonical v).trans ?_, hrest.symm⟩
  rw [← hcanonical]
  exact (Value.agree_canonical w).symm

theorem agree_of_encode_eq {v w : Value} (hv : (encode v).length < 2 ^ 64)
    (h : encode v = encode w) : v.Agree w :=
  (agree_of_encode_append_eq hv (h ▸ hv) (congrArg (· ++ []) h)).1

/-! ## Equal bytes from agreement -/

mutual

/-- Whether no map inside a value has two keys of equal canonical bytes. -/
def unambiguous : Value → Bool
  | .list items => unambiguousItems items
  | .map entries =>
    decide ((entries.map fun e => encode e.1).Nodup) && unambiguousEntries entries
  | _ => true

/-- Whether all items are unambiguous. -/
def unambiguousItems : List Value → Bool
  | [] => true
  | x :: xs => unambiguous x && unambiguousItems xs

/-- Whether all keys and values are unambiguous. -/
def unambiguousEntries : List (Value × Value) → Bool
  | [] => true
  | (k, v) :: rest => unambiguous k && unambiguous v && unambiguousEntries rest

end

theorem unambiguous_list {items : List Value} :
    unambiguous (.list items) = true ↔ ∀ x ∈ items, unambiguous x = true := by
  rw [unambiguous]
  induction items with
  | nil => simp [unambiguousItems]
  | cons x xs ih => simp [unambiguousItems, ih]

theorem unambiguous_map {entries : List (Value × Value)} :
    unambiguous (.map entries) = true ↔
      (entries.map fun e => encode e.1).Nodup ∧
        ∀ e ∈ entries, unambiguous e.1 = true ∧ unambiguous e.2 = true := by
  have hentries : unambiguousEntries entries = true ↔
      ∀ e ∈ entries, unambiguous e.1 = true ∧ unambiguous e.2 = true := by
    induction entries with
    | nil => simp [unambiguousEntries]
    | cons e rest ih => simp [unambiguousEntries, ih]
  rw [unambiguous, Bool.and_eq_true, hentries, decide_eq_true_eq]

/-- Values that agree have the same canonical bytes, unless two keys have. -/
theorem encode_eq_of_agree {v w : Value} (hkeys : unambiguous v = true) (h : v.Agree w) :
    encode v = encode w := by
  induction v using Value.structural generalizing w with
  | list items ih =>
      cases h with
      | @list _ ys h =>
          have hbytes : items.map encode = ys.map encode :=
            Value.map_eq_map_of_forall₂ (fun x hx _ hxy => ih x hx (unambiguous_list.1 hkeys x hx) hxy) h
          rw [encode_list, encode_list, h.length_eq, List.flatMap_def, List.flatMap_def, hbytes]
  | map entries ih =>
      obtain ⟨hnodup, hparts⟩ := unambiguous_map.1 hkeys
      cases h with
      | @map _ ys zs hks hvs hperm =>
          have hbytes : entries.map entryBytes = ys.map entryBytes := by
            refine Value.map_eq_map_of_forall₂ ?_ (Value.agreeEntry_iff.2 ⟨hks, hvs⟩)
            intro x hx y hxy
            obtain ⟨hk, hv⟩ := hparts x hx
            exact Prod.ext ((ih x hx).1 hk hxy.1) ((ih x hx).2 hv hxy.2)
          -- The written entries are a permutation of each other, which sorting forgets.
          have hsort : (entries.map entryBytes).mergeSort keyLe =
              (zs.map entryBytes).mergeSort keyLe := by
            refine mergeSort_eq_of_perm (hbytes ▸ hperm.map entryBytes) ?_
            rwa [List.map_map]
          have hlength : entries.length = zs.length := by
            simpa using (congrArg List.length hbytes).trans (hperm.map entryBytes).length_eq
          rw [encode, encode, encodeEntries_eq_map, encodeEntries_eq_map, inOrder_eq_mergeSort,
            inOrder_eq_mergeSort, hsort, hlength]
  | float x =>
      cases h with
      | float => rfl
      | nan hx hy => simp [encode, real, hx, hy]
  | object o => cases o
  | _ => cases h; rfl

/-- Canonical bytes are equal exactly for values that agree. -/
theorem encode_eq_iff_agree {v w : Value} (hkeys : unambiguous v = true)
    (hsize : (encode v).length < 2 ^ 64) : encode v = encode w ↔ v.Agree w :=
  ⟨agree_of_encode_eq hsize, encode_eq_of_agree hkeys⟩

end Cbor
end LedgerFlow
