import LedgerFlow.Codec.Cbor.Encoder
import Mathlib.Data.List.Nodup

/-!
# The canonical order of entries

Entries are ordered by the length of their encoded keys and then by the bytes of these.  The order is
total, and two entries that may stand in either order have the same key.  The encoder puts one entry after
another in its place, which is a merge sort of all of them (`inOrder_eq_mergeSort`), and where no two keys
have the same bytes the order in which the entries came does not matter (`mergeSort_eq_of_perm`).
-/

namespace LedgerFlow
namespace Cbor

theorem bytesLe_total (a b : Bytes) : bytesLe a b = true ∨ bytesLe b a = true := by
  induction a generalizing b with
  | nil => exact .inl (by simp [bytesLe])
  | cons x xs ih =>
      cases b with
      | nil => exact .inr rfl
      | cons y ys =>
          simp only [bytesLe, Bool.or_eq_true, Bool.and_eq_true, decide_eq_true_eq, beq_iff_eq]
          by_cases hxy : x = y
          · rcases ih ys with h | h
            · exact .inl (.inr ⟨hxy, h⟩)
            · exact .inr (.inr ⟨hxy.symm, h⟩)
          · rcases UInt8.lt_or_lt_of_ne hxy with hlt | hlt
            · exact .inl (.inl hlt)
            · exact .inr (.inl hlt)

theorem bytesLe_trans {a b c : Bytes} (hab : bytesLe a b = true) (hbc : bytesLe b c = true) :
    bytesLe a c = true := by
  induction a generalizing b c with
  | nil => simp [bytesLe]
  | cons x xs ih =>
      cases b with
      | nil => cases hab
      | cons y ys =>
          cases c with
          | nil => cases hbc
          | cons z zs =>
              simp only [bytesLe, Bool.or_eq_true, Bool.and_eq_true, decide_eq_true_eq,
                beq_iff_eq] at hab hbc ⊢
              rcases hab with hxy | ⟨rfl, hxy⟩
              · rcases hbc with hyz | ⟨rfl, -⟩
                · exact .inl (UInt8.lt_trans hxy hyz)
                · exact .inl hxy
              · rcases hbc with hyz | ⟨rfl, hyz⟩
                · exact .inl hyz
                · exact .inr ⟨rfl, ih hxy hyz⟩

theorem bytesLe_antisymm {a b : Bytes} (hab : bytesLe a b = true) (hba : bytesLe b a = true) :
    a = b := by
  induction a generalizing b with
  | nil =>
      cases b with
      | nil => rfl
      | cons y ys => cases hba
  | cons x xs ih =>
      cases b with
      | nil => cases hab
      | cons y ys =>
          simp only [bytesLe, Bool.or_eq_true, Bool.and_eq_true, decide_eq_true_eq, beq_iff_eq]
            at hab hba
          rcases hab with hlt | ⟨rfl, hab⟩
          · rcases hba with hgt | ⟨rfl, -⟩
            · exact absurd hgt (UInt8.lt_asymm hlt)
            · exact absurd hlt (UInt8.lt_irrefl _)
          · rcases hba with hlt | ⟨-, hba⟩
            · exact absurd hlt (UInt8.lt_irrefl _)
            · rw [ih hab hba]

theorem keyLe_total (a b : Bytes × Bytes) : (keyLe a b || keyLe b a) = true := by
  simp only [keyLe, Bool.or_eq_true, Bool.and_eq_true, decide_eq_true_eq, beq_iff_eq]
  rcases Nat.lt_trichotomy a.1.length b.1.length with hlt | heq | hlt
  · exact .inl (.inl hlt)
  · rcases bytesLe_total a.1 b.1 with h | h
    · exact .inl (.inr ⟨heq, h⟩)
    · exact .inr (.inr ⟨heq.symm, h⟩)
  · exact .inr (.inl hlt)

theorem keyLe_trans (a b c : Bytes × Bytes) (hab : keyLe a b = true) (hbc : keyLe b c = true) :
    keyLe a c = true := by
  simp only [keyLe, Bool.or_eq_true, Bool.and_eq_true, decide_eq_true_eq, beq_iff_eq]
    at hab hbc ⊢
  rcases hab with hab | ⟨hab, hab'⟩
  · rcases hbc with hbc | ⟨hbc, -⟩ <;> exact .inl (by omega)
  · rcases hbc with hbc | ⟨hbc, hbc'⟩
    · exact .inl (by omega)
    · exact .inr ⟨by omega, bytesLe_trans hab' hbc'⟩

theorem key_eq_of_keyLe {a b : Bytes × Bytes} (hab : keyLe a b = true) (hba : keyLe b a = true) :
    a.1 = b.1 := by
  simp only [keyLe, Bool.or_eq_true, Bool.and_eq_true, decide_eq_true_eq, beq_iff_eq] at hab hba
  rcases hab with hab | ⟨hab, hab'⟩
  · rcases hba with hba | ⟨hba, -⟩ <;> omega
  · rcases hba with hba | ⟨-, hba'⟩
    · omega
    · exact bytesLe_antisymm hab' hba'

/-- An entry takes its place behind those that come before it. -/
theorem place_append {e : Bytes × Bytes} {front back : List (Bytes × Bytes)}
    (hfront : ∀ other ∈ front, (!keyLe e other) = true)
    (hback : ∀ other ∈ back, keyLe e other = true) :
    place e (front ++ back) = front ++ e :: back := by
  induction front with
  | nil =>
      cases back with
      | nil => rfl
      | cons other rest => exact if_pos (hback other List.mem_cons_self)
  | cons other rest ih =>
      have hother : keyLe e other = false := by simpa using hfront other List.mem_cons_self
      have hrest := ih fun x hx => hfront x (List.mem_cons_of_mem other hx)
      rw [List.cons_append, place, hother, if_neg Bool.false_ne_true, hrest, List.cons_append]

/-- Entries are put in order one after another, which is the merge sort of them all: both keep entries
of equal keys as they stand. -/
theorem inOrder_eq_mergeSort (entries : List (Bytes × Bytes)) :
    inOrder entries = entries.mergeSort keyLe := by
  induction entries with
  | nil => rw [List.mergeSort_nil, inOrder, List.foldr_nil]
  | cons e rest ih =>
      obtain ⟨front, back, hsort, hrest, hfront⟩ :=
        List.mergeSort_cons keyLe_trans keyLe_total e rest
      have hsorted := List.pairwise_mergeSort keyLe_trans keyLe_total (e :: rest)
      have hback : ∀ other ∈ back, keyLe e other = true := by
        rw [hsort] at hsorted
        exact (List.pairwise_cons.1 (List.pairwise_append.1 hsorted).2.1).1
      rw [inOrder, List.foldr_cons, ← inOrder, ih, hrest, hsort]
      exact place_append hfront hback

/-- Entries whose keys have different bytes have one canonical order. -/
theorem mergeSort_eq_of_perm {xs ys : List (Bytes × Bytes)} (hperm : xs.Perm ys)
    (hkeys : (xs.map (·.1)).Nodup) : xs.mergeSort keyLe = ys.mergeSort keyLe := by
  have hpairwise : ∀ zs : List (Bytes × Bytes), (zs.mergeSort keyLe).Pairwise fun a b => keyLe a b = true :=
    List.pairwise_mergeSort keyLe_trans keyLe_total
  have hsorted : (xs.mergeSort keyLe).Perm (ys.mergeSort keyLe) :=
    ((List.mergeSort_perm xs keyLe).trans hperm).trans (List.mergeSort_perm ys keyLe).symm
  -- Two entries that may stand in either order have the same key, so they are one entry.
  refine List.Perm.eq_of_pairwise ?_ (hpairwise xs) (hpairwise ys) hsorted
  intro a b ha hb hab hba
  have hxa : a ∈ xs := List.mem_mergeSort.1 ha
  have hxb : b ∈ xs := hperm.mem_iff.2 (List.mem_mergeSort.1 hb)
  exact List.inj_on_of_nodup_map hkeys hxa hxb (key_eq_of_keyLe hab hba)

end Cbor
end LedgerFlow
