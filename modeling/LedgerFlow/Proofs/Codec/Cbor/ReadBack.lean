import LedgerFlow.Proofs.Codec.Cbor.Order
import LedgerFlow.Proofs.Codec.Cbor.Scalar
import LedgerFlow.Proofs.Value.Depth
import LedgerFlow.Proofs.Value.Keys

/-!
# Values read back from their canonical bytes

`readBack` says what comes out when the canonical bytes of a value are read: the same value with its
map entries in canonical order and with the one NaN.  Whoever reads decides what becomes of the
entries of a map, so `readBack` takes that decision as an argument, as the reader does.

The main statement is `item?_encode`: the bytes are read back whatever follows them.  No map, list
or text has to be small for that, only the bytes as a whole have to number fewer than `2 ^ 64`.

Objects are written and read by a library, which the reader knows, so they are read back if the library
does its part (`Reader.ReadsBack`).
-/

namespace LedgerFlow
namespace Cbor

variable {ο : Type} [Objects ο]

/-! ## Objects -/

/-- Whether a reader gives back every object whose bytes it is allowed to follow, in canonical form. -/
def Reader.ReadsBack (r : Reader ο) (bound : Nat) : Prop :=
  ∀ (o : ο) (depth : Nat) (rest : Bytes), Objects.depth o ≤ depth → depth ≤ bound →
    item? r depth (Objects.bytes o ++ rest) = .ok (.object (Objects.canonical o), rest)

/-- Where there are no objects, all of them are given back. -/
theorem Reader.readsBack (r : Reader) (bound : Nat) : r.ReadsBack bound := nofun

variable {r : Reader ο} {bound : Nat}

theorem Reader.ReadsBack.bytes_ne_nil (h : r.ReadsBack bound) {o : ο}
    (hdepth : Objects.depth o ≤ bound) : Objects.bytes o ≠ [] := by
  intro hnil
  have hread := h o (Objects.depth o) [] (Nat.le_refl _) hdepth
  rw [hnil, List.append_nil, item?] at hread
  cases hread

/-- What is relied on of the library of the payload format. -/
class Library.Lawful (ο : Type) [Objects ο] [Library ο] : Prop extends Objects.Lawful ο where
  /-- The canonical bytes of an object are read back, wherever in a payload they stand. -/
  readsBack (payload : Bytes) : (reader payload : Reader ο).ReadsBack maxDepth
  /-- Maps that the library reads have no key twice, as far as their keys are scalars. -/
  wellKeyed_of_read {payload : Bytes} {depth : Nat} {bs rest : Bytes} {v : Value ο} :
    Library.read payload depth bs = .ok (v, rest) → v.hasScalarKeys = true → v.wellKeyed = true

/-- Where there are no objects, nothing is relied on of the library either. -/
instance : Library.Lawful Empty where
  readsBack _ := nofun
  wellKeyed_of_read := nofun

/-! ## The bytes of lists and maps -/

/-- The bytes of an entry, key and value apart. -/
def entryBytes (e : Value ο × Value ο) : Bytes × Bytes := (encode e.1, encode e.2)

/-- The entries of a map in canonical order. -/
def sortEntries (entries : List (Value ο × Value ο)) : List (Value ο × Value ο) :=
  entries.mergeSort fun a b => keyLe (entryBytes a) (entryBytes b)

theorem encodeItems_eq_flatMap (items : List (Value ο)) : encodeItems items = items.flatMap encode := by
  induction items with
  | nil => rfl
  | cons x xs ih => simp [encodeItems, ih]

theorem encodeEntries_eq_map (entries : List (Value ο × Value ο)) :
    encodeEntries entries = entries.map entryBytes := by
  induction entries with
  | nil => rfl
  | cons e rest ih =>
      obtain ⟨k, v⟩ := e
      simp [encodeEntries, entryBytes, ih]

theorem sortEntries_perm (entries : List (Value ο × Value ο)) : (sortEntries entries).Perm entries :=
  List.mergeSort_perm _ _

@[simp] theorem length_sortEntries (entries : List (Value ο × Value ο)) :
    (sortEntries entries).length = entries.length :=
  (sortEntries_perm entries).length_eq

@[simp] theorem mem_sortEntries {entries : List (Value ο × Value ο)} {e : Value ο × Value ο} :
    e ∈ sortEntries entries ↔ e ∈ entries :=
  (sortEntries_perm entries).mem_iff

theorem map_sortEntries (entries : List (Value ο × Value ο)) :
    (sortEntries entries).map entryBytes = (entries.map entryBytes).mergeSort keyLe :=
  List.map_mergeSort fun _ _ _ _ => rfl

theorem encode_list (items : List (Value ο)) :
    encode (.list items) = head 4 items.length ++ items.flatMap encode := by
  rw [encode, encodeItems_eq_flatMap]

theorem encode_map (entries : List (Value ο × Value ο)) :
    encode (.map entries) = head 5 entries.length
      ++ (sortEntries entries).flatMap fun e => encode e.1 ++ encode e.2 := by
  rw [encode, encodeEntries_eq_map, inOrder_eq_mergeSort, ← map_sortEntries, List.flatMap_map]
  rfl

/-- Every value takes at least one byte, if every object does. -/
theorem length_encode_pos (v : Value ο) (h : ∀ o, v = .object o → Objects.bytes o ≠ []) :
    0 < (encode v).length := by
  have hhead : ∀ major n (bs : Bytes), 0 < (head major n ++ bs).length := by
    intro major n bs
    have := List.length_pos_iff.2 (head_ne_nil major n)
    simp only [List.length_append]
    omega
  cases v with
  | null => simp [encode]
  | bool b => simp [encode]
  | int n =>
      simp only [encode, integer]
      split <;> split
      · simpa using hhead 0 n.toNat []
      · exact hhead 6 2 _
      · simpa using hhead 1 (-1 - n).toNat []
      · exact hhead 6 3 _
  | float x =>
      simp only [encode, real]
      repeat' split
      all_goals simp
  | text s => exact hhead 3 _ _
  | bytes b => exact hhead 2 _ _
  | list items =>
      rw [encode_list]
      exact hhead 4 _ _
  | map entries =>
      rw [encode_map]
      exact hhead 5 _ _
  | object o => exact List.length_pos_iff.2 (h o rfl)

theorem length_encode_plain_pos (v : Value) : 0 < (encode v).length :=
  length_encode_pos v fun o => o.elim

theorem Reader.ReadsBack.length_encode_pos (hr : r.ReadsBack bound) {v : Value ο}
    (hdepth : v.depth ≤ bound) : 0 < (encode v).length := by
  refine Cbor.length_encode_pos v ?_
  rintro o rfl
  exact hr.bytes_ne_nil hdepth

mutual

/-- How many bytes the canonical form of a value takes, which no order of entries changes. -/
def size : Value ο → Nat
  | .list items => (head 4 items.length).length + itemsSize items
  | .map entries => (head 5 entries.length).length + entriesSize entries
  | v => (encode v).length

/-- How many bytes items take. -/
def itemsSize : List (Value ο) → Nat
  | [] => 0
  | x :: xs => size x + itemsSize xs

/-- How many bytes entries take. -/
def entriesSize : List (Value ο × Value ο) → Nat
  | [] => 0
  | (k, v) :: rest => size k + size v + entriesSize rest

end

theorem length_encode (v : Value ο) : (encode v).length = size v := by
  induction v using Value.structural with
  | list items ih =>
      have hitems : (items.flatMap encode).length = itemsSize items := by
        induction items with
        | nil => rfl
        | cons x xs ihxs =>
            have hx := ih x List.mem_cons_self
            have hxs := ihxs fun y hy => ih y (List.mem_cons_of_mem x hy)
            rw [List.flatMap_cons, List.length_append, hx, hxs, itemsSize]
      rw [encode_list, List.length_append, hitems, size]
  | map entries ih =>
      have hentries : (entries.flatMap fun e => encode e.1 ++ encode e.2).length =
          entriesSize entries := by
        induction entries with
        | nil => rfl
        | cons e rest ihrest =>
            obtain ⟨hk, hv⟩ := ih e List.mem_cons_self
            have hrest := ihrest fun f hf => ih f (List.mem_cons_of_mem e hf)
            rw [List.flatMap_cons, List.length_append, List.length_append, hk, hv, hrest,
              entriesSize]
      -- Sorting only permutes what is written.
      have hperm := (sortEntries_perm entries).flatMap_right fun e => encode e.1 ++ encode e.2
      rw [encode_map, List.length_append, hperm.length_eq, hentries, size]
  | _ => rfl

/-- A list takes no fewer bytes than the items in front. -/
theorem size_list_le_append (xs ys : List (Value ο)) : size (.list xs) ≤ size (.list (xs ++ ys)) := by
  have hitems : itemsSize xs ≤ itemsSize (xs ++ ys) := by
    induction xs with
    | nil => exact Nat.zero_le _
    | cons x xs ih => exact Nat.add_le_add_left ih (size x)
  have hcount : xs.length ≤ (xs ++ ys).length := by simp
  rw [size, size]
  exact Nat.add_le_add (length_head_le 4 hcount) hitems

theorem size_le_of_mem_entries {entries : List (Value ο × Value ο)} {e : Value ο × Value ο}
    (h : e ∈ entries) : size e.2 ≤ size (.map entries) := by
  have hentries : size e.2 ≤ entriesSize entries := by
    induction entries with
    | nil => cases h
    | cons f rest ih =>
        rw [entriesSize]
        cases h with
        | head => omega
        | tail _ h =>
            have := ih h
            omega
  rw [size]
  omega

/-! ## What comes back -/

mutual

/-- The value that is read back; `ofEntries` makes a value of the entries of a map. -/
def readBack (ofEntries : List (Value ο × Value ο) → Value ο) : Value ο → Value ο
  | .float x => .float (.ofBits x.bits)
  | .list items => .list (readBackItems ofEntries items)
  | .map entries =>
    ofEntries (((readBackEntries ofEntries entries).mergeSort fun a b => keyLe a.1 b.1).map (·.2))
  | .object o => .object (Objects.canonical o)
  | v => v

/-- The items that are read back. -/
def readBackItems (ofEntries : List (Value ο × Value ο) → Value ο) : List (Value ο) → List (Value ο)
  | [] => []
  | x :: xs => readBack ofEntries x :: readBackItems ofEntries xs

/-- The entries that are read back, each with the bytes that decide on its place. -/
def readBackEntries (ofEntries : List (Value ο × Value ο) → Value ο) :
    List (Value ο × Value ο) → List ((Bytes × Bytes) × (Value ο × Value ο))
  | [] => []
  | (k, v) :: rest =>
    ((encode k, encode v), (readBack ofEntries k, readBack ofEntries v))
      :: readBackEntries ofEntries rest

end

variable {ofEntries : List (Value ο × Value ο) → Value ο}

/-- An entry that is read back. -/
def readBackEntry (ofEntries : List (Value ο × Value ο) → Value ο) (e : Value ο × Value ο) :
    Value ο × Value ο :=
  (readBack ofEntries e.1, readBack ofEntries e.2)

theorem readBack_list (items : List (Value ο)) :
    readBack ofEntries (.list items) = .list (items.map (readBack ofEntries)) := by
  rw [readBack]
  congr 1
  induction items with
  | nil => rfl
  | cons x xs ih => simp [readBackItems, ih]

theorem readBack_map (entries : List (Value ο × Value ο)) :
    readBack ofEntries (.map entries) =
      ofEntries ((sortEntries entries).map (readBackEntry ofEntries)) := by
  have hmap : readBackEntries ofEntries entries =
      entries.map fun e => (entryBytes e, readBackEntry ofEntries e) := by
    induction entries with
    | nil => rfl
    | cons e rest ih =>
        obtain ⟨k, v⟩ := e
        simp [readBackEntries, entryBytes, readBackEntry, ih]
  rw [readBack, hmap]
  congr 1
  -- Sorting pairs by their first half is sorting the entries by their bytes.
  have hsort : (sortEntries entries).map (fun e => (entryBytes e, readBackEntry ofEntries e)) =
      (entries.map fun e => (entryBytes e, readBackEntry ofEntries e)).mergeSort
        fun a b => keyLe a.1 b.1 :=
    List.map_mergeSort fun _ _ _ _ => rfl
  rw [← hsort, List.map_map]
  rfl

/-! ## Reading -/

/-- A reader that gives back each of several things gives back all of them in a row. -/
theorem times_flatMap {α β : Type} {read : Bytes → Read (α × Bytes)} {write : β → Bytes}
    {back : β → α} {xs : List β}
    (h : ∀ x ∈ xs, ∀ rest, read (write x ++ rest) = .ok (back x, rest)) (rest : Bytes) :
    times read xs.length (xs.flatMap write ++ rest) = .ok (xs.map back, rest) := by
  induction xs with
  | nil => rfl
  | cons x xs ih =>
      have hx := h x List.mem_cons_self (xs.flatMap write ++ rest)
      have hxs := ih fun y hy => h y (List.mem_cons_of_mem x hy)
      simp [times, hx, hxs, ok_bind]

theorem length_le_length_flatMap {α : Type} (write : α → Bytes) {xs : List α}
    (h : ∀ x ∈ xs, 0 < (write x).length) : xs.length ≤ (xs.flatMap write).length := by
  induction xs with
  | nil => simp
  | cons x xs ih =>
      have hx := h x List.mem_cons_self
      have hxs := ih fun y hy => h y (List.mem_cons_of_mem x hy)
      simp only [List.flatMap_cons, List.length_append, List.length_cons]
      omega

theorem length_le_of_mem_flatMap {α : Type} (write : α → Bytes) {xs : List α} {x : α}
    (h : x ∈ xs) : (write x).length ≤ (xs.flatMap write).length := by
  obtain ⟨front, back, rfl⟩ := List.append_of_mem h
  simp only [List.flatMap_append, List.flatMap_cons, List.length_append]
  omega

omit [Objects ο] in
theorem item?_list {depth n : Nat} {rest tail : Bytes} {items : List (Value ο)} (hn : n < 2 ^ 64)
    (h : times (item? r depth) n rest = .ok (items, tail)) :
    item? r (depth + 1) (head 4 n ++ rest) = .ok (.list items, tail) := by
  obtain ⟨b, bytes, happend, hmajor, harg⟩ := exists_head_append 4 rest (by decide) hn
  rw [happend]
  unfold item?
  simp [hmajor, harg, sequence, h, ok_bind]

omit [Objects ο] in
theorem item?_map {depth n : Nat} {rest tail : Bytes} {entries : List (Value ο × Value ο)}
    (hn : n < 2 ^ 64)
    (h : times (association? (item? r depth)) n rest = .ok (entries, tail)) :
    item? r (depth + 1) (head 5 n ++ rest) = .ok (r.ofEntries entries, tail) := by
  obtain ⟨b, bytes, happend, hmajor, harg⟩ := exists_head_append 5 rest (by decide) hn
  rw [happend]
  unfold item?
  simp [hmajor, harg, sequence, h, ok_bind]

/-- **Canonical bytes are read back**, whatever follows them: at least as many containers may nest
as the value nests, and the bytes number fewer than `2 ^ 64`.  Objects in the value are those that the
library gives back. -/
theorem item?_encode (hr : r.ReadsBack bound) {v : Value ο} {depth : Nat} (rest : Bytes)
    (hdepth : v.depth ≤ depth) (hbound : depth ≤ bound) (hsize : (encode v).length < 2 ^ 64) :
    item? r depth (encode v ++ rest) = .ok (readBack r.ofEntries v, rest) := by
  induction v using Value.structural generalizing depth rest with
  | null => exact item?_simple _ (by decide) (by decide)
  | bool b => cases b <;> exact item?_simple _ (by decide) (by decide)
  | int n => exact item?_integer rest hsize
  | float x => exact item?_real x rest
  | text s =>
      have hs : (Utf8.encode s).length < 2 ^ 64 := by
        simp only [encode, textString, List.length_append] at hsize
        omega
      exact item?_textString rest hs
  | bytes b =>
      have hb : b.length < 2 ^ 64 := by
        simp only [encode, byteString, List.length_append] at hsize
        omega
      exact item?_byteString rest hb
  | list items ih =>
      rw [Value.depth] at hdepth
      obtain ⟨d, rfl⟩ : ∃ d, depth = d + 1 := ⟨depth - 1, by omega⟩
      rw [encode_list] at hsize ⊢
      simp only [List.length_append] at hsize
      -- Every item takes a byte, so the head can say how many items there are.
      have hcount := length_le_length_flatMap encode fun x (hx : x ∈ items) => by
        have hd := Value.depth_le_of_mem_items hx
        exact hr.length_encode_pos (by omega)
      have hitems : ∀ x ∈ items, ∀ rest,
          item? r d (encode x ++ rest) = .ok (readBack r.ofEntries x, rest) := by
        intro x hx rest
        have hbytes := length_le_of_mem_flatMap encode hx
        have hd := Value.depth_le_of_mem_items hx
        exact ih x hx rest (by omega) (by omega) (by omega)
      rw [List.append_assoc, item?_list (by omega) (times_flatMap hitems rest), readBack_list]
  | map entries ih =>
      rw [Value.depth] at hdepth
      obtain ⟨d, rfl⟩ : ∃ d, depth = d + 1 := ⟨depth - 1, by omega⟩
      rw [encode_map] at hsize ⊢
      simp only [List.length_append] at hsize
      have hcount := length_le_length_flatMap (fun e => encode e.1 ++ encode e.2)
        fun e (he : e ∈ sortEntries entries) => by
          have hd := Value.depth_le_of_mem_entries (mem_sortEntries.1 he)
          have hkey : 0 < (encode e.1).length := hr.length_encode_pos (by omega)
          simp only [List.length_append]
          omega
      have hentries : ∀ e ∈ sortEntries entries, ∀ rest,
          association? (item? r d) ((encode e.1 ++ encode e.2) ++ rest) =
            .ok (readBackEntry r.ofEntries e, rest) := by
        intro e he rest
        have hbytes := length_le_of_mem_flatMap (fun e => encode e.1 ++ encode e.2) he
        rw [mem_sortEntries] at he
        simp only [List.length_append] at hbytes
        obtain ⟨hkd, hvd⟩ := Value.depth_le_of_mem_entries he
        obtain ⟨hk, hv⟩ := ih e he
        have hvalue : item? r d (encode e.2 ++ rest) = .ok (readBack r.ofEntries e.2, rest) :=
          hv rest (by omega) (by omega) (by omega)
        rw [association?, List.append_assoc, hk _ (by omega) (by omega) (by omega)]
        simp [hvalue, readBackEntry, ok_bind]
      -- The head counts the entries as they were written down, the reader as they were sorted.
      have hlength : (sortEntries entries).length = entries.length := length_sortEntries entries
      rw [List.append_assoc, ← hlength, item?_map (by omega) (times_flatMap hentries rest),
        readBack_map]
  | object o => exact hr o depth rest hdepth hbound

/-- The canonical bytes of a value that nests few enough containers are a payload. -/
theorem decode?_encode [Library ο] [Library.Lawful ο] {v : Value ο} (hdepth : v.depth ≤ maxDepth)
    (hsize : (encode v).length < 2 ^ 64) :
    decode? (encode v) = .ok (readBack Value.ofEntries v) := by
  have h : item? (reader (encode v)) maxDepth (encode v ++ []) =
      .ok (readBack Value.ofEntries v, []) :=
    item?_encode (Library.Lawful.readsBack (encode v)) [] hdepth (Nat.le_refl _) hsize
  rw [List.append_nil] at h
  rw [decode?, h]
  rfl

end Cbor
end LedgerFlow
