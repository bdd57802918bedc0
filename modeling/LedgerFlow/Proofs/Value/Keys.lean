import LedgerFlow.Proofs.Value.Agreement
import Mathlib.Data.List.Nodup

/-!
# Keys of maps

A map is well keyed when its keys are scalars and no two of them are the same key, and a value is
well keyed when all maps inside it are.  Inserting the entries of such a map one by one builds that
very map, whatever their order (`ofEntries_of_apart`).

A name that a map has only once finds its value wherever the entry stands (`lookup_perm`).

What an object gives away of itself is well keyed too; this is a law of objects (`Objects.Lawful`).
-/

namespace LedgerFlow
namespace Value

variable {ο : Type}

/-- Whether a value has no parts. -/
def isScalar : Value ο → Bool
  | .list _ | .map _ | .object _ => false
  | _ => true

section Keyed

variable [Objects ο]

/-- Whether two entries have different keys. -/
def apart (a b : Value ο × Value ο) : Bool := !sameKey a.1 b.1 && !sameKey b.1 a.1

/-- Whether the keys of all entries differ. -/
def allApart : List (Value ο × Value ο) → Bool
  | [] => true
  | e :: rest => rest.all (apart e) && allApart rest

mutual

/-- Whether every map inside a value has scalar keys, no two of them the same. -/
def wellKeyed : Value ο → Bool
  | .list items => wellKeyedItems items
  | .map entries => allApart entries && wellKeyedEntries entries
  | .object o => Objects.hasScalarKeys o
  | _ => true

/-- Whether all items are well keyed. -/
def wellKeyedItems : List (Value ο) → Bool
  | [] => true
  | x :: xs => wellKeyed x && wellKeyedItems xs

/-- Whether all keys are scalars and all values well keyed. -/
def wellKeyedEntries : List (Value ο × Value ο) → Bool
  | [] => true
  | (k, v) :: rest => isScalar k && wellKeyed v && wellKeyedEntries rest

end

theorem apart_comm (a b : Value ο × Value ο) : apart a b = apart b a := Bool.and_comm _ _

theorem allApart_iff {entries : List (Value ο × Value ο)} :
    allApart entries = true ↔ entries.Pairwise fun a b => apart a b = true := by
  induction entries with
  | nil => simp [allApart]
  | cons e rest ih => simp [allApart, ih]

theorem wellKeyed_list {items : List (Value ο)} :
    (Value.list items).wellKeyed = true ↔ ∀ x ∈ items, x.wellKeyed = true := by
  rw [wellKeyed]
  induction items with
  | nil => simp [wellKeyedItems]
  | cons x xs ih => simp [wellKeyedItems, ih]

theorem wellKeyed_map {entries : List (Value ο × Value ο)} :
    (Value.map entries).wellKeyed = true ↔
      entries.Pairwise (fun a b => apart a b = true) ∧
        ∀ e ∈ entries, e.1.isScalar = true ∧ e.2.wellKeyed = true := by
  have hentries : wellKeyedEntries entries = true ↔
      ∀ e ∈ entries, e.1.isScalar = true ∧ e.2.wellKeyed = true := by
    induction entries with
    | nil => simp [wellKeyedEntries]
    | cons e rest ih => simp [wellKeyedEntries, ih]
  rw [wellKeyed, Bool.and_eq_true, allApart_iff, hentries]

/-- Named fields are apart when their names differ, whatever their values are. -/
theorem pairwise_apart_of_names {fields : List (String × Value ο)} (hnames : (fields.map (·.1)).Nodup)
    (f : Value ο → Value ο) :
    (fields.map fun e => (Value.text e.1, f e.2)).Pairwise fun a b => apart a b = true := by
  rw [List.pairwise_map]
  refine (List.pairwise_map.1 hnames).imp fun {a b} hne => ?_
  simp [apart, sameKey, same, hne, hne.symm]

/-! ## Scalar keys -/

mutual

/-- Whether every map inside a value has scalar keys only. -/
def hasScalarKeys : Value ο → Bool
  | .list items => itemsHaveScalarKeys items
  | .map entries => entriesHaveScalarKeys entries
  | .object o => Objects.hasScalarKeys o
  | _ => true

/-- Whether the maps inside items have scalar keys only. -/
def itemsHaveScalarKeys : List (Value ο) → Bool
  | [] => true
  | x :: xs => hasScalarKeys x && itemsHaveScalarKeys xs

/-- Whether all keys are scalars, and those of the maps inside values too. -/
def entriesHaveScalarKeys : List (Value ο × Value ο) → Bool
  | [] => true
  | (k, v) :: rest => isScalar k && hasScalarKeys v && entriesHaveScalarKeys rest

end

theorem hasScalarKeys_list {items : List (Value ο)} :
    (Value.list items).hasScalarKeys = true ↔ ∀ x ∈ items, x.hasScalarKeys = true := by
  rw [hasScalarKeys]
  induction items with
  | nil => simp [itemsHaveScalarKeys]
  | cons x xs ih => simp [itemsHaveScalarKeys, ih]

theorem hasScalarKeys_map {entries : List (Value ο × Value ο)} :
    (Value.map entries).hasScalarKeys = true ↔
      ∀ e ∈ entries, e.1.isScalar = true ∧ e.2.hasScalarKeys = true := by
  rw [hasScalarKeys]
  induction entries with
  | nil => simp [entriesHaveScalarKeys]
  | cons e rest ih => simp [entriesHaveScalarKeys, ih]

/-! ## Inserting entries -/

/-- An entry whose key is not there goes to the end. -/
theorem insertEntry_of_apart {entries : List (Value ο × Value ο)} {e : Value ο × Value ο}
    (h : ∀ other ∈ entries, apart other e = true) :
    insertEntry entries e.1 e.2 = entries ++ [e] := by
  have hnone : (entries.any fun other => sameKey other.1 e.1) = false := by
    rw [List.any_eq_false]
    intro other hother hsame
    have := h other hother
    simp [apart, hsame] at this
  simp [insertEntry, hnone]

theorem foldl_insertEntry_of_apart {front entries : List (Value ο × Value ο)}
    (h : (front ++ entries).Pairwise fun a b => apart a b = true) :
    entries.foldl (fun acc e => insertEntry acc e.1 e.2) front = front ++ entries := by
  induction entries generalizing front with
  | nil => simp
  | cons e rest ih =>
      have hfront : ∀ other ∈ front, apart other e = true := fun other hother =>
        (List.pairwise_append.1 h).2.2 other hother e List.mem_cons_self
      rw [List.foldl_cons, insertEntry_of_apart hfront, ih (by simpa using h)]
      simp

/-- Entries whose keys differ make up a map as they are. -/
theorem ofEntries_of_apart {entries : List (Value ο × Value ο)}
    (h : entries.Pairwise fun a b => apart a b = true) : ofEntries entries = .map entries := by
  rw [ofEntries, foldl_insertEntry_of_apart (by simpa using h), List.nil_append]

end Keyed

/-! ## Looking up a name -/

/-- With every key only once, looking up a name finds exactly the entry with that name. -/
theorem lookup_eq_some_iff {entries : List (Value ο × Value ο)} {key : String} {v : Value ο}
    (h : entries.Pairwise fun a b => a.1 ≠ b.1) :
    lookup key entries = some v ↔ (.text key, v) ∈ entries := by
  induction entries with
  | nil => simp [lookup]
  | cons e rest ih =>
      obtain ⟨k, w⟩ := e
      obtain ⟨hk, hrest⟩ := List.pairwise_cons.1 h
      by_cases hkey : k = .text key
      · subst hkey
        have hnot : (Value.text key, v) ∉ rest := fun hmem => hk _ hmem rfl
        simp [lookup, hnot, eq_comm]
      · -- A key that is no text, or another text, is passed over.
        have hlookup : lookup key ((k, w) :: rest) = lookup key rest := by
          cases k with
          | text s =>
              have hs : s ≠ key := fun hs => hkey (by rw [hs])
              simp [lookup, hs]
          | _ => rfl
        have hhead : (Value.text key, v) ≠ (k, w) := fun heq => hkey (Prod.mk.inj heq).1.symm
        rw [hlookup, ih hrest, List.mem_cons]
        simp [hhead]

theorem lookup_perm {xs ys : List (Value ο × Value ο)} (key : String) (hperm : xs.Perm ys)
    (h : xs.Pairwise fun a b => a.1 ≠ b.1) : lookup key xs = lookup key ys := by
  have hys : ys.Pairwise fun a b => a.1 ≠ b.1 := (hperm.pairwise_iff fun h => h.symm).1 h
  apply Option.ext
  intro v
  rw [lookup_eq_some_iff h, lookup_eq_some_iff hys, hperm.mem_iff]

/-- A name among named entries. -/
theorem lookup_map_text (key : String) (fields : List (String × Value ο)) (f : Value ο → Value ο) :
    lookup key (fields.map fun e => (.text e.1, f e.2)) = (fields.lookup key).map f := by
  induction fields with
  | nil => rfl
  | cons e rest ih =>
      obtain ⟨name, v⟩ := e
      by_cases hname : name = key
      · simp [lookup, hname]
      · have hbeq : (key == name) = false := by simpa using fun h : key = name => hname h.symm
        simp [lookup, List.lookup_cons, hname, hbeq, ih]

/-! ## Agreement of named fields -/

/-- Entries in another order with the same keys in the same order are the same entries. -/
theorem eq_of_perm_of_keys_eq {xs ys : List (Value ο × Value ο)} (hperm : xs.Perm ys)
    (hkeys : xs.map (·.1) = ys.map (·.1)) (hnodup : (ys.map (·.1)).Nodup) : xs = ys := by
  induction xs generalizing ys with
  | nil => exact hperm.nil_eq
  | cons x xs ih =>
      cases ys with
      | nil => exact absurd hperm.length_eq (by simp)
      | cons y ys =>
          rw [List.map_cons, List.map_cons, List.cons_eq_cons] at hkeys
          rw [List.map_cons, List.nodup_cons] at hnodup
          -- The first entry of one list is in the other, where its key belongs to the first entry.
          have hxy : x = y := by
            rcases List.mem_cons.1 (hperm.mem_iff.1 List.mem_cons_self) with hx | hx
            · exact hx
            · rw [← hkeys.1] at hnodup
              exact absurd (List.mem_map_of_mem hx) hnodup.1
          subst hxy
          rw [ih hperm.cons_inv hkeys.2 hnodup.2]

/-- Only a text agrees with a text. -/
theorem eq_text_of_agree [Objects ο] {s : String} {v : Value ο} (h : Agree (.text s) v) : v = .text s := by
  cases h
  rfl

theorem keys_of_fields (fields : List (String × Value ο)) :
    (fields.map fun f => ((.text f.1, f.2) : Value ο × Value ο)).map (·.1) =
      (fields.map (·.1)).map .text := by
  rw [List.map_map, List.map_map]
  rfl

theorem values_of_fields (fields : List (String × Value ο)) :
    (fields.map fun f => ((.text f.1, f.2) : Value ο × Value ο)).map (·.2) = fields.map (·.2) := by
  rw [List.map_map]
  rfl

/-- Records with the same names agree when their fields do, one by one. -/
theorem agree_record_iff [Objects ο] {fs gs : List (String × Value ο)}
    (hnames : fs.map (·.1) = gs.map (·.1)) (hnodup : (gs.map (·.1)).Nodup) :
    (record fs).Agree (record gs) ↔ List.Forall₂ Agree (fs.map (·.2)) (gs.map (·.2)) := by
  rw [record, record, agree_map_iff]
  constructor
  · rintro ⟨ys, hys, hperm⟩
    obtain ⟨hks, hvs⟩ := agreeEntry_iff.1 hys
    rw [keys_of_fields, hnames] at hks
    -- Names agree only with themselves, so the entries of the second map stand in their own order.
    have hkeys : ys.map (·.1) = (gs.map (·.1)).map .text := by
      have htext := map_eq_map_of_forall₂ (f := id) (g := id) ?_ hks
      · simpa using htext.symm
      · intro x hx y hxy
        obtain ⟨name, -, rfl⟩ := List.mem_map.1 hx
        exact (eq_text_of_agree hxy).symm
    have hys : ys = gs.map fun f => ((.text f.1, f.2) : Value ο × Value ο) := by
      refine eq_of_perm_of_keys_eq hperm ?_ ?_
      · rw [hkeys, keys_of_fields]
      · rw [keys_of_fields]
        exact List.Nodup.map (fun a b h => Value.text.inj h) hnodup
    rwa [hys, values_of_fields, values_of_fields] at hvs
  · intro h
    refine ⟨_, agreeEntry_iff.2 ⟨?_, ?_⟩, List.Perm.refl _⟩
    · rw [keys_of_fields, keys_of_fields, hnames]
      exact List.forall₂_same.2 fun k _ => .refl k
    · rwa [values_of_fields, values_of_fields]

end Value

/-! ## Objects -/

/-- What is relied on of objects: maps in their parts have no key twice, as far as keys are scalars. -/
class Objects.Lawful (ο : Type) [Objects ο] : Prop where
  wellKeyed_of_field? {o : ο} {key : String} {v : Value ο} :
    Objects.hasScalarKeys o = true → Objects.field? o key = some v → v.wellKeyed = true
  wellKeyed_of_getD {o : ο} {key : String} {default v : Value ο} :
    Objects.hasScalarKeys o = true → default.wellKeyed = true →
      Objects.getD o key default = .ok v → v.wellKeyed = true
  wellKeyed_of_require {o : ο} {key : String} {v : Value ο} :
    Objects.hasScalarKeys o = true → Objects.require o key = .ok v → v.wellKeyed = true
  wellKeyed_of_toItems {o : ο} {items : List (Value ο)} :
    Objects.hasScalarKeys o = true → Objects.toItems o = .ok items → ∀ x ∈ items, x.wellKeyed = true

/-- Where there are no objects, nothing is relied on. -/
instance : Objects.Lawful Empty where
  wellKeyed_of_field? {o} := nomatch o
  wellKeyed_of_getD {o} := nomatch o
  wellKeyed_of_require {o} := nomatch o
  wellKeyed_of_toItems {o} := nomatch o

end LedgerFlow
