import LedgerFlow.Proofs.Codec.Cbor.ReadBack

/-!
# Values that nest too deep

The canonical bytes of a value are read exactly when no more containers nest in it than the reader
follows.  `item?_encode` is the one half; here is the other: whatever else a payload holds, one value
that nests too deep makes it unreadable.
-/

namespace LedgerFlow
namespace Cbor

variable {r : Reader}

/-- One of several things that is not read keeps all of them from being read in a row. -/
theorem times_flatMap_eq_illFormed {α β : Type} {read : Bytes → Read (α × Bytes)} {write : β → Bytes}
    (back : β → α) {xs : List β}
    (h : ∀ x ∈ xs, (∀ rest, read (write x ++ rest) = .ok (back x, rest)) ∨
      ∀ rest, read (write x ++ rest) = .error .illFormed)
    (hbad : ∃ x ∈ xs, ∀ rest, read (write x ++ rest) = .error .illFormed) (rest : Bytes) :
    times read xs.length (xs.flatMap write ++ rest) = .error .illFormed := by
  induction xs with
  | nil =>
      obtain ⟨x, hx, -⟩ := hbad
      cases hx
  | cons x xs ih =>
      rw [List.length_cons, List.flatMap_cons, List.append_assoc, times]
      rcases h x List.mem_cons_self with hx | hx
      · -- The first one is read, so it is one of the others that is not.
        have hrest : ∃ y ∈ xs, ∀ rest, read (write y ++ rest) = .error .illFormed := by
          obtain ⟨y, hy, hnone⟩ := hbad
          rcases List.mem_cons.1 hy with rfl | hy
          · have hboth := (hx []).symm.trans (hnone [])
            cases hboth
          · exact ⟨y, hy, hnone⟩
        have hxs := ih (fun y hy => h y (List.mem_cons_of_mem x hy)) hrest
        simp [hx, hxs, ok_bind]
      · simp [hx, error_bind]

/-- A list has to nest somewhere less deep than the reader follows. -/
theorem item?_list_eq_illFormed {depth n : Nat} {rest : Bytes} (hn : n < 2 ^ 64)
    (h : ∀ d, depth = d + 1 → times (item? r d) n rest = .error .illFormed) :
    item? r depth (head 4 n ++ rest) = .error .illFormed := by
  obtain ⟨b, bytes, happend, hmajor, harg⟩ := exists_head_append 4 rest (by decide) hn
  rw [happend]
  cases depth with
  | zero =>
      unfold item?
      simp [hmajor]
  | succ d =>
      unfold item?
      simp [hmajor, harg, sequence, h d rfl, ok_bind]

theorem item?_map_eq_illFormed {depth n : Nat} {rest : Bytes} (hn : n < 2 ^ 64)
    (h : ∀ d, depth = d + 1 → times (association? (item? r d)) n rest = .error .illFormed) :
    item? r depth (head 5 n ++ rest) = .error .illFormed := by
  obtain ⟨b, bytes, happend, hmajor, harg⟩ := exists_head_append 5 rest (by decide) hn
  rw [happend]
  cases depth with
  | zero =>
      unfold item?
      simp [hmajor]
  | succ d =>
      unfold item?
      simp [hmajor, harg, sequence, h d rfl, ok_bind]

/-- **Canonical bytes of a value that nests too deep are not read**, whatever follows them. -/
theorem item?_encode_eq_illFormed {v : Value} {depth : Nat} (rest : Bytes) (hdepth : depth < v.depth)
    (hsize : (encode v).length < 2 ^ 64) : item? r depth (encode v ++ rest) = .error .illFormed := by
  induction v using Value.structural generalizing depth rest with
  | list items ih =>
      rw [encode_list] at hsize ⊢
      simp only [List.length_append] at hsize
      have hcount := length_le_length_flatMap encode fun x (_ : x ∈ items) => length_encode_plain_pos x
      rw [List.append_assoc]
      refine item?_list_eq_illFormed (by omega) ?_
      rintro d rfl
      rw [Value.depth] at hdepth
      have hbytes : ∀ x ∈ items, (encode x).length < 2 ^ 64 := fun x hx => by
        have := length_le_of_mem_flatMap encode hx
        omega
      refine times_flatMap_eq_illFormed (readBack r.ofEntries) (fun x hx => ?_) ?_ rest
      · by_cases hd : x.depth ≤ d
        · exact .inl fun rest => item?_encode (r.readsBack d) rest hd (Nat.le_refl d) (hbytes x hx)
        · exact .inr fun rest => ih x hx rest (by omega) (hbytes x hx)
      · have hdeep : d < Value.itemsDepth items := by omega
        obtain ⟨x, hx, hd⟩ := Value.exists_lt_depth_of_lt_itemsDepth hdeep
        exact ⟨x, hx, fun rest => ih x hx rest hd (hbytes x hx)⟩
  | map entries ih =>
      rw [encode_map] at hsize ⊢
      simp only [List.length_append] at hsize
      have hcount := length_le_length_flatMap (fun e => encode e.1 ++ encode e.2)
        fun e (_ : e ∈ sortEntries entries) => by
          have := length_encode_plain_pos e.1
          simp only [List.length_append]
          omega
      have hlength : (sortEntries entries).length = entries.length := length_sortEntries entries
      rw [List.append_assoc, ← hlength]
      refine item?_map_eq_illFormed (by omega) ?_
      rintro d rfl
      rw [Value.depth] at hdepth
      have hbytes : ∀ e ∈ sortEntries entries,
          (encode e.1).length < 2 ^ 64 ∧ (encode e.2).length < 2 ^ 64 := fun e he => by
        have := length_le_of_mem_flatMap (fun e => encode e.1 ++ encode e.2) he
        simp only [List.length_append] at this
        omega
      -- An entry is not read when its key or its value is not.
      have hbad : ∀ e ∈ sortEntries entries, (d < e.1.depth ∨ d < e.2.depth) → ∀ rest,
          association? (item? r d) ((encode e.1 ++ encode e.2) ++ rest) = .error .illFormed := by
        intro e he hd rest
        obtain ⟨hk, hv⟩ := ih e (mem_sortEntries.1 he)
        obtain ⟨hkbytes, hvbytes⟩ := hbytes e he
        rw [association?, List.append_assoc]
        by_cases hkd : d < e.1.depth
        · simp [hk _ hkd hkbytes, error_bind]
        · have hvd : d < e.2.depth := by omega
          have hkey : item? r d (encode e.1 ++ (encode e.2 ++ rest)) =
              .ok (readBack r.ofEntries e.1, encode e.2 ++ rest) :=
            item?_encode (r.readsBack d) _ (by omega) (Nat.le_refl d) hkbytes
          simp [hkey, hv rest hvd hvbytes, ok_bind]
      refine times_flatMap_eq_illFormed (readBackEntry r.ofEntries) (fun e he => ?_) ?_ rest
      · by_cases hd : d < e.1.depth ∨ d < e.2.depth
        · exact .inr (hbad e he hd)
        · refine .inl fun rest => ?_
          obtain ⟨hkbytes, hvbytes⟩ := hbytes e he
          have hkey : item? r d (encode e.1 ++ (encode e.2 ++ rest)) =
              .ok (readBack r.ofEntries e.1, encode e.2 ++ rest) :=
            item?_encode (r.readsBack d) _ (by omega) (Nat.le_refl d) hkbytes
          have hvalue : item? r d (encode e.2 ++ rest) =
              .ok (readBack r.ofEntries e.2, rest) :=
            item?_encode (r.readsBack d) _ (by omega) (Nat.le_refl d) hvbytes
          rw [association?, List.append_assoc, hkey]
          simp [hvalue, readBackEntry, ok_bind]
      · have hdeep : d < Value.entriesDepth entries := by omega
        obtain ⟨e, he, hd⟩ := Value.exists_lt_depth_of_lt_entriesDepth hdeep
        exact ⟨e, mem_sortEntries.2 he, hbad e (mem_sortEntries.2 he) hd⟩
  | object o => cases o
  | _ => cases hdepth

/-- The canonical bytes of a value that nests too many containers are no payload. -/
theorem decode?_encode_eq_illFormed {v : Value} (hdepth : maxDepth < v.depth)
    (hsize : (encode v).length < 2 ^ 64) : decode? (encode v) = .error .illFormed := by
  have h : item? (reader (encode v)) maxDepth (encode v ++ []) = .error .illFormed :=
    item?_encode_eq_illFormed [] hdepth hsize
  rw [List.append_nil] at h
  rw [decode?, h]
  rfl

end Cbor
end LedgerFlow
