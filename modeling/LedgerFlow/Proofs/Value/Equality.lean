import LedgerFlow.Transaction
import Mathlib.Data.List.Forall2
import Mathlib.Data.List.Nodup

/-!
# Equality of values

Equality of values is reflexive, and a NaN is no exception.  Records with the same names are equal field
by field.  Equal values are null together, and equal authorization entries are resolved together: what an
entry still needs can be read off any entry that is equal to it.
-/

namespace LedgerFlow
namespace Value

theorem sameItems_refl {items : List Value} (h : ∀ x ∈ items, x.same x = true) :
    sameItems items items = true := by
  induction items with
  | nil => rfl
  | cons x xs ih =>
      have hx : x.same x = true := h x List.mem_cons_self
      have hxs : sameItems xs xs = true := ih fun y hy => h y (List.mem_cons_of_mem x hy)
      simp [sameItems, hx, hxs]

theorem sameEntries_iff {xs ys : List (Value × Value)} :
    sameEntries xs ys = true ↔
      ∀ e ∈ xs, ∃ other ∈ ys, e.1.same other.1 = true ∧ e.2.same other.2 = true := by
  induction xs with
  | nil => simp [sameEntries]
  | cons e rest ih =>
      obtain ⟨k, v⟩ := e
      simp [sameEntries, ih]

theorem same_refl (v : Value) : v.same v = true := by
  induction v using structural with
  | null => rfl
  | bool b => simp [same, sameNumber, integral?]
  | int n => simp [same, sameNumber, integral?]
  | float x => simp [same, sameNumber, Binary64.same_refl]
  | text s => simp [same]
  | bytes b => simp [same]
  | list items ih => simp [same, sameItems_refl ih]
  | map entries ih =>
      have hall : sameEntries entries entries = true :=
        sameEntries_iff.2 fun e he => ⟨e, he, ih e he⟩
      simp [same, hall]
  | object o => cases o

/-- Nothing but null is equal to null. -/
theorem isNull_eq_of_same {v w : Value} (h : v.same w = true) : v.isNull = w.isNull := by
  cases v <;> cases w <;> first | rfl | contradiction | simp [same, sameNumber, integral?] at h

theorem same_int_iff {m n : Int} : (Value.int m).same (.int n) = true ↔ m = n := by
  simp [same, sameNumber, integral?]

theorem same_bytes_iff {a b : Bytes} : (Value.bytes a).same (.bytes b) = true ↔ a = b := by
  simp [same]

/-- Records with the same names are equal when their fields are, one by one. -/
theorem same_record_iff {fs gs : List (String × Value)} (hnames : fs.map (·.1) = gs.map (·.1))
    (hnodup : (gs.map (·.1)).Nodup) : (record fs).same (record gs) = true ↔
      List.Forall₂ (fun v w => v.same w = true) (fs.map (·.2)) (gs.map (·.2)) := by
  have hlength : fs.length = gs.length := by simpa using congrArg List.length hnames
  have hmaps : (record fs).same (record gs) = true ↔
      ∀ f ∈ fs, ∃ g ∈ gs, f.1 = g.1 ∧ f.2.same g.2 = true := by
    have htext : ∀ s t : String, (Value.text s).same (.text t) = true ↔ s = t := by simp [same]
    rw [record, record, same, List.length_map, List.length_map, hlength, beq_self_eq_true,
      Bool.true_and, sameEntries_iff, List.forall_mem_map]
    simp only [List.mem_map, exists_exists_and_eq_and, htext]
  rw [hmaps]
  -- Both lists are run through together, while names are looked up in the whole second one.
  have hpart : ∀ xs ys : List (String × Value), xs.map (·.1) = ys.map (·.1) → ys ⊆ gs →
      ((∀ f ∈ xs, ∃ g ∈ gs, f.1 = g.1 ∧ f.2.same g.2 = true) ↔
        List.Forall₂ (fun v w => v.same w = true) (xs.map (·.2)) (ys.map (·.2))) := by
    intro xs
    induction xs with
    | nil =>
        intro ys hxys _
        rw [List.map_eq_nil_iff.1 hxys.symm]
        simp
    | cons x xs ih =>
        intro ys hxys hys
        cases ys with
        | nil => simp at hxys
        | cons y ys =>
            rw [List.map_cons, List.map_cons, List.cons_eq_cons] at hxys
            rw [List.cons_subset] at hys
            have hhead : (∃ g ∈ gs, x.1 = g.1 ∧ x.2.same g.2 = true) ↔ x.2.same y.2 = true := by
              constructor
              · rintro ⟨g, hg, hname, hsame⟩
                rwa [List.inj_on_of_nodup_map hnodup hg hys.1 (hname.symm.trans hxys.1)] at hsame
              · exact fun hsame => ⟨y, hys.1, hxys.1, hsame⟩
            rw [List.forall_mem_cons, hhead, ih ys hxys.2 hys.2, List.map_cons, List.map_cons,
              List.forall₂_cons]
  exact hpart fs gs hnames (List.Subset.refl gs)

end Value

namespace Operation

theorem same_refl (op : Operation) : op.same op = true := Value.same_refl _

end Operation

namespace AuthSignature
theorem same_toValue_iff {s t : AuthSignature} : s.toValue.same t.toValue = true ↔ s = t := by
  obtain ⟨key, bytes⟩ := s
  obtain ⟨key', bytes'⟩ := t
  rw [toValue, toValue, Value.same_record_iff (by rfl) (by simp)]
  simp [Value.same_bytes_iff]
end AuthSignature

namespace AuthEntry

/-- Equal entries are both signed or both not: the field is there or it is not. -/
theorem isSome_signature_eq_of_same {a b : AuthEntry} (h : a.same b = true) :
    a.signature.isSome = b.signature.isSome := by
  obtain ⟨call, address, nonce, limit, signature⟩ := a
  obtain ⟨call', address', nonce', limit', signature'⟩ := b
  cases signature <;> cases signature' <;>
    first | rfl | simp [same, toValue, Value.record, Value.same] at h

/-- Entries are equal when their parts are. -/
theorem same_iff {a b : AuthEntry} : a.same b = true ↔
    a.invocation.toValue.same b.invocation.toValue = true ∧ a.address.same b.address = true ∧
      a.nonce = b.nonce ∧ a.expiration = b.expiration ∧ a.signature = b.signature := by
  have hsigned : a.same b = true → a.signature.isSome = b.signature.isSome :=
    isSome_signature_eq_of_same
  obtain ⟨call, address, nonce, limit, signature⟩ := a
  obtain ⟨call', address', nonce', limit', signature'⟩ := b
  cases signature with
  | none =>
      cases signature' with
      | none =>
          rw [same, toValue, toValue, Value.same_record_iff (by rfl) (by simp)]
          simp [Value.same_int_iff]
      | some t =>
          refine iff_of_false (fun h => ?_) (by simp)
          cases hsigned h
  | some s =>
      cases signature' with
      | none =>
          refine iff_of_false (fun h => ?_) (by simp)
          cases hsigned h
      | some t =>
          rw [same, toValue, toValue, Value.same_record_iff (by rfl) (by simp)]
          simp [Value.same_int_iff, AuthSignature.same_toValue_iff]

theorem isNull_address_eq_of_same {a b : AuthEntry} (h : a.same b = true) :
    a.address.isNull = b.address.isNull :=
  Value.isNull_eq_of_same (same_iff.1 h).2.1

/-- What an entry still needs can be read off any equal entry. -/
theorem isResolved_eq_of_same {a b : AuthEntry} (h : a.same b = true) :
    a.isResolved = b.isResolved := by
  rw [isResolved, isResolved, isNull_address_eq_of_same h, isSome_signature_eq_of_same h]

theorem sameAll_iff {as bs : List AuthEntry} :
    sameAll as bs = true ↔ List.Forall₂ (fun a b => a.same b = true) as bs := by
  induction as generalizing bs with
  | nil => cases bs <;> simp [sameAll]
  | cons a as ih => cases bs <;> simp [sameAll, ih]

end AuthEntry
end LedgerFlow
