import LedgerFlow.Proofs.Codec.Cbor.ReadBack
import LedgerFlow.Proofs.Value.Keys
import LedgerFlow.Value.Reader

/-!
# The canonical form of a value

`Value.canonical` is what the canonical bytes of a value stand for: the entries of every map in
canonical order, and the one NaN.  A value agrees with its canonical form (`agree_canonical`), and a
value whose maps have keys that differ comes back in canonical form when it is encoded and decoded
(`decode?_encode_of_hasDistinctKeys`).  Well keyed values are of this kind; keys that are no scalars have to
differ in canonical form.

Named fields keep their values: a name of a record finds in the canonical form the canonical form of
what it finds in the record.
-/

namespace LedgerFlow
namespace Value

variable {ο : Type} [Objects ο]

/-- The entries of every map in canonical order, and one NaN. -/
def canonical (v : Value ο) : Value ο := Cbor.readBack .map v

/-- An entry in canonical form. -/
def canonicalEntry (e : Value ο × Value ο) : Value ο × Value ο := (e.1.canonical, e.2.canonical)

@[simp] theorem canonical_null : (canonical .null : Value ο) = .null := rfl

@[simp] theorem canonical_bool (b : Bool) : (canonical (.bool b) : Value ο) = .bool b := rfl

@[simp] theorem canonical_int (n : Int) : (canonical (.int n) : Value ο) = .int n := rfl

@[simp] theorem canonical_text (s : String) : (canonical (.text s) : Value ο) = .text s := rfl

@[simp] theorem canonical_bytes (b : Bytes) : (canonical (.bytes b) : Value ο) = .bytes b := rfl

@[simp] theorem canonical_list (items : List (Value ο)) :
    canonical (.list items) = .list (items.map canonical) :=
  Cbor.readBack_list items

theorem canonical_map (entries : List (Value ο × Value ο)) :
    canonical (.map entries) = .map ((Cbor.sortEntries entries).map canonicalEntry) :=
  Cbor.readBack_map entries

theorem canonical_float_of_isNaN {x : Binary64} (h : x.isNaN = true) :
    (canonical (.float x) : Value ο) = .float .nan := by
  show (Value.float (.ofBits x.bits) : Value ο) = _
  simp [Binary64.ofBits, h]

theorem canonical_float_of_not_isNaN {x : Binary64} (h : x.isNaN = false) :
    (canonical (.float x) : Value ο) = .float x := by
  show (Value.float (.ofBits x.bits) : Value ο) = _
  simp [Binary64.ofBits, h]

/-- The entries of a map in canonical form, up to their order. -/
theorem sortEntries_map_perm (entries : List (Value ο × Value ο)) :
    ((Cbor.sortEntries entries).map canonicalEntry).Perm (entries.map canonicalEntry) :=
  (Cbor.sortEntries_perm entries).map canonicalEntry

/-- A value agrees with its canonical form. -/
theorem agree_canonical (v : Value ο) : v.Agree v.canonical := by
  induction v using structural with
  | float x =>
      cases hx : x.isNaN with
      | true =>
          rw [canonical_float_of_isNaN hx]
          exact .nan hx (by decide)
      | false => rw [canonical_float_of_not_isNaN hx]
  | list items ih =>
      rw [canonical_list, agree_list_iff, List.forall₂_map_right_iff]
      exact List.forall₂_same.2 ih
  | map entries ih =>
      rw [canonical_map, agree_map_iff]
      refine ⟨entries.map canonicalEntry, ?_, (sortEntries_map_perm entries).symm⟩
      rw [List.forall₂_map_right_iff]
      exact List.forall₂_same.2 ih
  | object o => exact .object (Objects.bytes_canonical o).symm
  | _ => exact .refl _

/-! ## Keys in canonical form -/

@[simp] theorem isScalar_canonical (v : Value ο) : v.canonical.isScalar = v.isScalar := by
  cases v with
  | list items => rw [canonical_list]; rfl
  | map entries => rw [canonical_map]; rfl
  | _ => rfl

theorem toInt?_of_isNaN {x : Binary64} (h : x.isNaN = true) : x.toInt? = none := by
  simp only [Binary64.isNaN, Bool.and_eq_true] at h
  simp [Binary64.toInt?, h.1]

theorem isZero_of_isNaN {x : Binary64} (h : x.isNaN = true) : x.isZero = false := by
  simp only [Binary64.isNaN, Bool.and_eq_true, beq_iff_eq] at h
  simp [Binary64.isZero, h.1]

/-- Nothing is the same key as a NaN, from either side. -/
theorem sameKey_of_isNaN {x : Binary64} (h : x.isNaN = true) {a : Value ο} (ha : a.isScalar = true) :
    sameKey (.float x) a = false ∧ sameKey a (.float x) = false := by
  refine ⟨by simp [sameKey, h], ?_⟩
  cases a with
  | float y =>
      cases hy : y.isNaN with
      | true => simp [sameKey, hy]
      | false =>
          have hne : y ≠ x := by
            rintro rfl
            rw [h] at hy
            cases hy
          simp [sameKey, same, sameNumber, Binary64.same, hne, isZero_of_isNaN h]
  | bool b => simp [sameKey, same, sameNumber, integral?, toInt?_of_isNaN h]
  | int n => simp [sameKey, same, sameNumber, integral?, toInt?_of_isNaN h]
  | list items => cases ha
  | map entries => cases ha
  | object o => cases ha
  | _ => rfl

/-- A scalar other than a NaN is its own canonical form. -/
theorem canonical_eq_self_or_isNaN {v : Value ο} (h : v.isScalar = true) :
    v.canonical = v ∨ ∃ x, v = .float x ∧ x.isNaN = true := by
  cases v with
  | float x =>
      cases hx : x.isNaN with
      | true => exact .inr ⟨x, rfl, hx⟩
      | false => exact .inl (canonical_float_of_not_isNaN hx)
  | list items => cases h
  | map entries => cases h
  | object o => cases h
  | _ => exact .inl rfl

theorem sameKey_canonical {a b : Value ο} (ha : a.isScalar = true) (hb : b.isScalar = true) :
    sameKey a.canonical b.canonical = sameKey a b := by
  -- No key is the same as a NaN, neither before nor after it has become the one NaN.
  rcases canonical_eq_self_or_isNaN ha with ha' | ⟨x, rfl, hx⟩
  · rcases canonical_eq_self_or_isNaN hb with hb' | ⟨y, rfl, hy⟩
    · rw [ha', hb']
    · have hnan : sameKey a (.float .nan) = false := (sameKey_of_isNaN (by decide) ha).2
      rw [ha', canonical_float_of_isNaN hy, hnan, (sameKey_of_isNaN hy ha).2]
  · have hb' : b.canonical.isScalar = true := by rw [isScalar_canonical, hb]
    have hnan : sameKey (.float .nan) b.canonical = false := (sameKey_of_isNaN (by decide) hb').1
    rw [canonical_float_of_isNaN hx, hnan, (sameKey_of_isNaN hx hb).1]

theorem apart_canonicalEntry {a b : Value ο × Value ο} (ha : a.1.isScalar = true)
    (hb : b.1.isScalar = true) : apart (canonicalEntry a) (canonicalEntry b) = apart a b := by
  simp [apart, canonicalEntry, sameKey_canonical, ha, hb]

mutual

/-- Whether the keys of every map inside a value differ, also with all NaNs as one. -/
def hasDistinctKeys : Value ο → Bool
  | .list items => itemsHaveDistinctKeys items
  | .map entries => allApart (entries.map canonicalEntry) && entriesHaveDistinctKeys entries
  | _ => true

/-- Whether the keys of every map inside items differ. -/
def itemsHaveDistinctKeys : List (Value ο) → Bool
  | [] => true
  | x :: xs => hasDistinctKeys x && itemsHaveDistinctKeys xs

/-- Whether the keys of every map inside keys and values differ. -/
def entriesHaveDistinctKeys : List (Value ο × Value ο) → Bool
  | [] => true
  | (k, v) :: rest => hasDistinctKeys k && hasDistinctKeys v && entriesHaveDistinctKeys rest

end

theorem hasDistinctKeys_list {items : List (Value ο)} :
    (Value.list items).hasDistinctKeys = true ↔ ∀ x ∈ items, x.hasDistinctKeys = true := by
  rw [hasDistinctKeys]
  induction items with
  | nil => simp [itemsHaveDistinctKeys]
  | cons x xs ih => simp [itemsHaveDistinctKeys, ih]

theorem hasDistinctKeys_map {entries : List (Value ο × Value ο)} :
    (Value.map entries).hasDistinctKeys = true ↔
      (entries.map canonicalEntry).Pairwise (fun a b => apart a b = true) ∧
        ∀ e ∈ entries, e.1.hasDistinctKeys = true ∧ e.2.hasDistinctKeys = true := by
  have hentries : entriesHaveDistinctKeys entries = true ↔
      ∀ e ∈ entries, e.1.hasDistinctKeys = true ∧ e.2.hasDistinctKeys = true := by
    induction entries with
    | nil => simp [entriesHaveDistinctKeys]
    | cons e rest ih => simp [entriesHaveDistinctKeys, ih]
  rw [hasDistinctKeys, Bool.and_eq_true, allApart_iff, hentries]

/-- The keys of a well keyed map differ in canonical form too, because they are scalars. -/
theorem hasDistinctKeys_of_wellKeyed {v : Value ο} (h : v.wellKeyed = true) :
    v.hasDistinctKeys = true := by
  induction v using structural with
  | list items ih =>
      exact hasDistinctKeys_list.2 fun x hx => ih x hx (wellKeyed_list.1 h x hx)
  | map entries ih =>
      obtain ⟨hapart, hentries⟩ := wellKeyed_map.1 h
      have hscalar : ∀ k : Value ο, k.isScalar = true → k.hasDistinctKeys = true := by
        intro k hk
        cases k <;> first | rfl | cases hk
      refine hasDistinctKeys_map.2 ⟨?_, fun e he =>
        ⟨hscalar _ (hentries e he).1, (ih e he).2 (hentries e he).2⟩⟩
      rw [List.pairwise_map]
      refine hapart.imp_of_mem fun {a b} ha hb hab => ?_
      rw [apart_canonicalEntry (hentries a ha).1 (hentries b hb).1]
      exact hab
  | _ => rfl

/-! ## Decoding -/

/-- Where keys differ, a value is read back in canonical form: no entry of a map replaces another. -/
theorem readBack_of_hasDistinctKeys {v : Value ο} (h : v.hasDistinctKeys = true) :
    Cbor.readBack ofEntries v = v.canonical := by
  induction v using structural with
  | list items ih =>
      rw [Cbor.readBack_list, canonical_list]
      have hitems := hasDistinctKeys_list.1 h
      exact congrArg Value.list (List.map_congr_left fun x hx => ih x hx (hitems x hx))
  | map entries ih =>
      obtain ⟨hapart, hentries⟩ := hasDistinctKeys_map.1 h
      have hback : (Cbor.sortEntries entries).map (Cbor.readBackEntry ofEntries) =
          (Cbor.sortEntries entries).map canonicalEntry := by
        refine List.map_congr_left fun e he => ?_
        rw [Cbor.mem_sortEntries] at he
        obtain ⟨hk, hv⟩ := hentries e he
        exact Prod.ext ((ih e he).1 hk) ((ih e he).2 hv)
      have hsorted : ((Cbor.sortEntries entries).map canonicalEntry).Pairwise
          fun a b => apart a b = true :=
        ((sortEntries_map_perm entries).pairwise_iff fun {a b} hab => by rwa [apart_comm]).2 hapart
      rw [Cbor.readBack_map, canonical_map, hback]
      exact ofEntries_of_apart hsorted
  | _ => rfl

/-- The canonical bytes of a value whose keys differ are decoded to its canonical form. -/
theorem decode?_encode_of_hasDistinctKeys [Cbor.Library ο] [Cbor.Library.Lawful ο] {v : Value ο}
    (hkeys : v.hasDistinctKeys = true)
    (hdepth : v.depth ≤ Cbor.maxDepth) (hsize : (Cbor.encode v).length < 2 ^ 64) :
    Cbor.decode? (Cbor.encode v) = .ok v.canonical := by
  rw [Cbor.decode?_encode hdepth hsize, readBack_of_hasDistinctKeys hkeys]

/-! ## Named fields -/

section Record

variable {fields : List (String × Value ο)} (hnames : (fields.map (·.1)).Nodup)

include hnames in
/-- A name finds the canonical form of the field. -/
theorem field?_canonical_record (key : String) :
    (record fields).canonical.field? key = (fields.lookup key).map canonical := by
  have hentries : (fields.map fun f => (Value.text f.1, f.2)).map canonicalEntry =
      fields.map fun f => (.text f.1, f.2.canonical) := by
    simp [canonicalEntry, Function.comp_def]
  have hpairwise : (fields.map fun f => ((.text f.1, f.2.canonical) : Value ο × Value ο)).Pairwise
      fun a b => a.1 ≠ b.1 := by
    rw [List.pairwise_map]
    exact (List.pairwise_map.1 hnames).imp fun hne h => hne (Value.text.inj h)
  have hperm := sortEntries_map_perm (fields.map fun f => (Value.text f.1, f.2))
  rw [hentries] at hperm
  rw [record, canonical_map, field?, ← lookup_perm key hperm.symm hpairwise, lookup_map_text]

include hnames in
theorem getD_canonical_record (key : String) (default : Value ο) :
    (record fields).canonical.getD key default =
      .ok (((fields.lookup key).map canonical).getD default) := by
  have h := field?_canonical_record hnames key
  rw [record, canonical_map] at h ⊢
  rw [field?] at h
  rw [getD, h]

include hnames in
theorem get_canonical_record (key : String) :
    (record fields).canonical.get key = .ok (((fields.lookup key).map canonical).getD .null) :=
  getD_canonical_record hnames key .null

include hnames in
theorem require_canonical_record (key : String) :
    (record fields).canonical.require key =
      match fields.lookup key with
      | some v => .ok v.canonical
      | none => .error (.missing key) := by
  have h := field?_canonical_record hnames key
  rw [record, canonical_map] at h ⊢
  rw [field?] at h
  rw [require, h]
  cases fields.lookup key <;> rfl

end Record

/-- The keys inside a record differ when those inside its fields do. -/
theorem hasDistinctKeys_record {fields : List (String × Value ο)} (hnames : (fields.map (·.1)).Nodup) :
    (record fields).hasDistinctKeys = true ↔ ∀ f ∈ fields, f.2.hasDistinctKeys = true := by
  have hentries : (fields.map fun f => (Value.text f.1, f.2)).map canonicalEntry =
      fields.map fun f => (.text f.1, f.2.canonical) := by
    simp [canonicalEntry, Function.comp_def]
  have hapart := pairwise_apart_of_names hnames canonical
  rw [record, hasDistinctKeys_map, hentries, and_iff_right hapart, List.forall_mem_map]
  exact forall₂_congr fun f _ => and_iff_right rfl

/-- A record with fields counts as present. -/
theorem isTruthy_canonical_record {fields : List (String × Value ο)} (h : fields ≠ []) :
    (record fields).canonical.isTruthy = true := by
  rw [record, canonical_map, isTruthy]
  have hlength : 0 < fields.length := List.length_pos_iff.2 h
  have hne : (Cbor.sortEntries (fields.map fun f => (Value.text f.1, f.2))).map canonicalEntry ≠ [] :=
    List.length_pos_iff.1 (by simpa using hlength)
  simpa using hne

end Value
end LedgerFlow
