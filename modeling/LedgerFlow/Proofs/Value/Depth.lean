import LedgerFlow.Value

/-!
# Nesting depth

The parts of a value nest less deep than the value: the items of a list, the keys and values of a
map, and what a name of a map finds.
-/

namespace LedgerFlow
namespace Value

variable {ο : Type} [Objects ο]

theorem depth_le_of_mem_items {items : List (Value ο)} {x : Value ο} (h : x ∈ items) :
    x.depth ≤ itemsDepth items := by
  induction items with
  | nil => cases h
  | cons y ys ih =>
      rw [itemsDepth]
      cases h with
      | head => omega
      | tail _ h =>
          have := ih h
          omega

theorem depth_le_of_mem_entries {entries : List (Value ο × Value ο)} {e : Value ο × Value ο}
    (h : e ∈ entries) : e.1.depth ≤ entriesDepth entries ∧ e.2.depth ≤ entriesDepth entries := by
  induction entries with
  | nil => cases h
  | cons f rest ih =>
      rw [entriesDepth]
      cases h with
      | head => omega
      | tail _ h =>
          have := ih h
          omega

/-- Some item nests as deep as the deepest of them. -/
theorem exists_lt_depth_of_lt_itemsDepth {items : List (Value ο)} {d : Nat} (h : d < itemsDepth items) :
    ∃ x ∈ items, d < x.depth := by
  induction items with
  | nil => cases h
  | cons x xs ih =>
      rw [itemsDepth] at h
      by_cases hx : d < x.depth
      · exact ⟨x, List.mem_cons_self, hx⟩
      · obtain ⟨y, hy, hdepth⟩ := ih (by omega)
        exact ⟨y, List.mem_cons_of_mem x hy, hdepth⟩

theorem exists_lt_depth_of_lt_entriesDepth {entries : List (Value ο × Value ο)} {d : Nat}
    (h : d < entriesDepth entries) : ∃ e ∈ entries, d < e.1.depth ∨ d < e.2.depth := by
  induction entries with
  | nil => cases h
  | cons e rest ih =>
      obtain ⟨k, v⟩ := e
      rw [entriesDepth] at h
      by_cases he : d < k.depth ∨ d < v.depth
      · exact ⟨(k, v), List.mem_cons_self, he⟩
      · obtain ⟨f, hf, hdepth⟩ := ih (by omega)
        exact ⟨f, List.mem_cons_of_mem _ hf, hdepth⟩

/-- Items that are among others nest no deeper than these. -/
theorem depth_list_le_of_subset {xs ys : List (Value ο)} (h : xs ⊆ ys) :
    (Value.list xs).depth ≤ (Value.list ys).depth := by
  have hitems : itemsDepth xs ≤ itemsDepth ys := by
    induction xs with
    | nil => exact Nat.zero_le _
    | cons x xs ih =>
        have hx := depth_le_of_mem_items (h List.mem_cons_self)
        have hxs := ih fun y hy => h (List.mem_cons_of_mem x hy)
        rw [itemsDepth]
        omega
  rw [depth, depth]
  omega

theorem depth_lt_of_mem_list {items : List (Value ο)} {x : Value ο} (h : x ∈ items) :
    x.depth < (Value.list items).depth := by
  have := depth_le_of_mem_items h
  rw [depth]
  omega

omit [Objects ο] in
/-- What a name finds stands under that name. -/
theorem mem_of_lookup {key : String} {entries : List (Value ο × Value ο)} {v : Value ο}
    (h : lookup key entries = some v) : (.text key, v) ∈ entries := by
  fun_induction lookup key entries with
  | case1 => cases h
  | case2 k w rest hkey =>
      cases h
      rw [← eq_of_beq hkey]
      exact List.mem_cons_self
  | case3 k w rest hkey ih => exact List.mem_cons_of_mem _ (ih h)
  | case4 e rest _ ih => exact List.mem_cons_of_mem _ (ih h)

theorem depth_lt_of_lookup {x : Value ο} {key : String} {entries : List (Value ο × Value ο)}
    (h : lookup key entries = some x) : x.depth < (Value.map entries).depth := by
  have : x.depth ≤ entriesDepth entries := (depth_le_of_mem_entries (mem_of_lookup h)).2
  rw [depth]
  omega

end Value
end LedgerFlow
