import LedgerFlow.Proofs.Codec.Cbor.Canonical

/-!
# Keys of decoded maps

A payload may repeat a key of a map, and the reader keeps one entry for it.  So whatever is read has no
key twice, as far as its keys are scalars (`wellKeyed_of_decode?`).

Scalars are the same key both ways (`sameKey_comm`), which is why it is enough that the reader compares
a new key with those it has.
-/

namespace LedgerFlow
namespace Value

variable {ο : Type} [Objects ο]

theorem wellKeyed_of_isScalar {v : Value ο} (h : v.isScalar = true) : v.wellKeyed = true := by
  cases v <;> first | rfl | cases h

/-! ## Comparing keys -/

omit [Objects ο] in
theorem sameNumber_comm (a b : Value ο) : sameNumber a b = sameNumber b a := by
  have hfloat : ∀ x y : Binary64, x.same y = y.same x := fun x y => by
    rw [Binary64.same, Binary64.same, Bool.beq_comm, Bool.and_comm]
  cases a <;> cases b <;> grind [sameNumber, integral?]

theorem same_comm_of_isScalar {a b : Value ο} (ha : a.isScalar = true) (hb : b.isScalar = true) :
    a.same b = b.same a := by
  cases a <;> cases b <;> grind [same, isScalar, sameNumber_comm, sameNumber, integral?]

/-- Two scalars are the same key both ways. -/
theorem sameKey_comm {a b : Value ο} (ha : a.isScalar = true) (hb : b.isScalar = true) :
    sameKey a b = sameKey b a := by
  have hsame : ∀ v w : Value ο, (∀ x, v = .float x → x.isNaN = false) → sameKey v w = v.same w := by
    intro v w hv
    cases v with
    | float x => simp [sameKey, hv x rfl]
    | _ => rfl
  have hnan : ∀ v : Value ο,
      (∀ x, v = .float x → x.isNaN = false) ∨ ∃ x, v = .float x ∧ x.isNaN = true := by
    intro v
    by_cases h : ∃ x, v = .float x ∧ x.isNaN = true
    · exact .inr h
    · exact .inl fun x hx => Bool.eq_false_iff.2 fun hnan => h ⟨x, hx, hnan⟩
  rcases hnan a with hna | ⟨x, rfl, hx⟩
  · rcases hnan b with hnb | ⟨y, rfl, hy⟩
    · rw [hsame a b hna, hsame b a hnb, same_comm_of_isScalar ha hb]
    · rw [(sameKey_of_isNaN hy ha).1, (sameKey_of_isNaN hy ha).2]
  · rw [(sameKey_of_isNaN hx hb).1, (sameKey_of_isNaN hx hb).2]

/-! ## Inserting entries -/

/-- `kept` is what a map may have become of `entries`: no key is there again further on, and every key
and every value is one of those. -/
structure Kept (entries kept : List (Value ο × Value ο)) : Prop where
  fresh : kept.Pairwise fun a b => sameKey a.1 b.1 = false
  from_entries : ∀ e ∈ kept, e.1 ∈ entries.map (·.1) ∧ e.2 ∈ entries.map (·.2)

theorem Kept.insertEntry {entries kept : List (Value ο × Value ο)} (h : Kept entries kept)
    {e : Value ο × Value ο} (he : e ∈ entries) : Kept entries (Value.insertEntry kept e.1 e.2) := by
  have hkey : e.1 ∈ entries.map (·.1) := List.mem_map_of_mem he
  have hvalue : e.2 ∈ entries.map (·.2) := List.mem_map_of_mem he
  unfold Value.insertEntry
  split
  · constructor
    -- Only values are replaced, so the keys still differ.
    · rw [List.pairwise_map]
      refine h.fresh.imp fun {a b} hab => ?_
      split <;> split <;> exact hab
    · intro other hother
      obtain ⟨old, hold, rfl⟩ := List.mem_map.1 hother
      obtain ⟨holdkey, holdvalue⟩ := h.from_entries old hold
      split
      · exact ⟨holdkey, hvalue⟩
      · exact ⟨holdkey, holdvalue⟩
  · next hnone =>
      rw [Bool.not_eq_true, List.any_eq_false] at hnone
      constructor
      · refine List.pairwise_append.2 ⟨h.fresh, List.pairwise_singleton _ _, ?_⟩
        intro a ha b hb
        obtain rfl := List.mem_singleton.1 hb
        exact Bool.eq_false_iff.2 (hnone a ha)
      · intro other hother
        rcases List.mem_append.1 hother with hold | hnew
        · exact h.from_entries other hold
        · obtain rfl := List.mem_singleton.1 hnew
          exact ⟨hkey, hvalue⟩

theorem exists_kept_of_ofEntries (entries : List (Value ο × Value ο)) :
    ∃ kept, ofEntries entries = .map kept ∧ Kept entries kept := by
  have hfold : ∀ (later kept : List (Value ο × Value ο)), (∀ e ∈ later, e ∈ entries) →
      Kept entries kept → Kept entries (later.foldl (fun acc e => Value.insertEntry acc e.1 e.2) kept) := by
    intro later
    induction later with
    | nil => exact fun _ _ hkept => hkept
    | cons e later ih =>
        intro kept hmem hkept
        exact ih _ (fun f hf => hmem f (List.mem_cons_of_mem e hf))
          (hkept.insertEntry (hmem e List.mem_cons_self))
  exact ⟨_, rfl, hfold entries [] (fun _ h => h) ⟨List.Pairwise.nil, List.forall_mem_nil _⟩⟩

/-- A map of well keyed values is well keyed once its keys are scalars. -/
theorem wellKeyed_ofEntries {entries : List (Value ο × Value ο)}
    (hvalues : ∀ e ∈ entries, e.2.hasScalarKeys = true → e.2.wellKeyed = true)
    (hscalar : (ofEntries entries).hasScalarKeys = true) : (ofEntries entries).wellKeyed = true := by
  obtain ⟨kept, hofEntries, hkept⟩ := exists_kept_of_ofEntries entries
  rw [hofEntries, hasScalarKeys_map] at hscalar
  rw [hofEntries, wellKeyed_map]
  constructor
  · refine hkept.fresh.imp_of_mem fun {a b} ha hb hab => ?_
    have hba : sameKey b.1 a.1 = false := by
      rw [sameKey_comm (hscalar b hb).1 (hscalar a ha).1, hab]
    simp [apart, hab, hba]
  · intro e he
    obtain ⟨e', he', hsame⟩ := List.mem_map.1 (hkept.from_entries e he).2
    refine ⟨(hscalar e he).1, ?_⟩
    rw [← hsame]
    exact hvalues e' he' (hsame ▸ (hscalar e he).2)

end Value

namespace Cbor

/-! ## What readers yield -/

variable {ο α : Type}

/-- Everything that a reader reads has a property. -/
def Yields (read : Bytes → Read (α × Bytes)) (P : α → Prop) : Prop :=
  ∀ bs x rest, read bs = .ok (x, rest) → P x

namespace Yields

variable {read : Bytes → Read (α × Bytes)} {P : α → Prop}

theorem times (h : Yields read P) (n : Nat) : Yields (times read n) fun xs => ∀ x ∈ xs, P x := by
  induction n with
  | zero =>
      intro bs xs rest hread
      cases hread
      exact List.forall_mem_nil _
  | succ n ih =>
      intro bs xs rest hread
      obtain ⟨⟨x, front⟩, hx, hread⟩ := exists_of_bind_eq_ok hread
      obtain ⟨⟨ys, back⟩, hys, hread⟩ := exists_of_bind_eq_ok hread
      cases hread
      exact List.forall_mem_cons.2 ⟨h _ _ _ hx, ih _ _ _ hys⟩

theorem untilBreak (h : Yields read P) (fuel : Nat) :
    Yields (untilBreak read fuel) fun xs => ∀ x ∈ xs, P x := by
  induction fuel with
  | zero =>
      intro bs xs rest hread
      cases hread
  | succ fuel ih =>
      intro bs xs rest hread
      cases bs with
      | nil => cases hread
      | cons b tail =>
          unfold Cbor.untilBreak at hread
          dsimp only at hread
          split at hread
          · cases hread
            exact List.forall_mem_nil _
          · obtain ⟨⟨x, front⟩, hx, hread⟩ := exists_of_bind_eq_ok hread
            obtain ⟨⟨ys, back⟩, hys, hread⟩ := exists_of_bind_eq_ok hread
            cases hread
            exact List.forall_mem_cons.2 ⟨h _ _ _ hx, ih _ _ _ hys⟩

theorem sequence (h : Yields read P) (a : Argument) :
    Yields (sequence read a) fun xs => ∀ x ∈ xs, P x := by
  cases a with
  | number n => exact h.times n
  | indefinite => exact fun bs => h.untilBreak (bs.length + 1) bs

theorem association {read : Bytes → Read (Value ο × Bytes)} {P : Value ο → Prop} (h : Yields read P) :
    Yields (association? read) fun e => P e.1 ∧ P e.2 := by
  intro bs e rest hread
  obtain ⟨⟨k, front⟩, hk, hread⟩ := exists_of_bind_eq_ok hread
  obtain ⟨⟨v, back⟩, hv, hread⟩ := exists_of_bind_eq_ok hread
  cases hread
  exact ⟨h _ _ _ hk, h _ _ _ hv⟩

end Yields

theorem isScalar_of_simple? {low : Nat} {bs rest : Bytes} {v : Value ο}
    (h : simple? low bs = .ok (v, rest)) : v.isScalar = true := by
  unfold simple? at h
  repeat' split at h
  all_goals
    first
      | cases h; done
      | cases h; rfl
      | obtain ⟨⟨w, front⟩, -, h⟩ := exists_of_bind_eq_ok h
        cases h
        rfl

/-- An item that is read is a scalar, a list of items that are read, made of entries that are, or an
object. -/
theorem item?_cases {r : Reader ο} {depth : Nat} {bs rest : Bytes} {v : Value ο}
    (h : item? r depth bs = .ok (v, rest)) :
    v.isScalar = true ∨ r.foreign depth bs = .ok (v, rest) ∨
      ∃ d a front, depth = d + 1 ∧
        ((∃ items, sequence (item? r d) a front = .ok (items, rest) ∧ v = .list items) ∨
          ∃ entries, sequence (association? (item? r d)) a front = .ok (entries, rest) ∧
            v = r.ofEntries entries) := by
  unfold item? at h
  split at h
  · cases h
  · dsimp only at h
    -- The cases stand in the order of the major types.
    split at h
    case h_1 =>
      obtain ⟨⟨n, back⟩, -, h⟩ := exists_of_bind_eq_ok h
      cases h
      exact .inl rfl
    case h_2 =>
      obtain ⟨⟨n, back⟩, -, h⟩ := exists_of_bind_eq_ok h
      cases h
      exact .inl rfl
    case h_3 =>
      obtain ⟨⟨a, front⟩, -, h⟩ := exists_of_bind_eq_ok h
      obtain ⟨⟨text, back⟩, -, h⟩ := exists_of_bind_eq_ok h
      cases h
      exact .inl rfl
    case h_4 =>
      obtain ⟨⟨a, front⟩, -, h⟩ := exists_of_bind_eq_ok h
      obtain ⟨⟨text, back⟩, -, h⟩ := exists_of_bind_eq_ok h
      cases h
      exact .inl rfl
    case h_5 =>
      split at h
      · cases h
      · next d =>
          obtain ⟨⟨a, front⟩, -, h⟩ := exists_of_bind_eq_ok h
          obtain ⟨⟨items, back⟩, hitems, h⟩ := exists_of_bind_eq_ok h
          cases h
          exact .inr (.inr ⟨d, a, front, rfl, .inl ⟨items, hitems, rfl⟩⟩)
    case h_6 =>
      split at h
      · cases h
      · next d =>
          obtain ⟨⟨a, front⟩, -, h⟩ := exists_of_bind_eq_ok h
          obtain ⟨⟨entries, back⟩, hentries, h⟩ := exists_of_bind_eq_ok h
          cases h
          exact .inr (.inr ⟨d, a, front, rfl, .inr ⟨entries, hentries, rfl⟩⟩)
    case h_7 =>
      obtain ⟨⟨tag, content⟩, -, h⟩ := exists_of_bind_eq_ok h
      dsimp only at h
      split at h
      · obtain ⟨⟨n, back⟩, -, h⟩ := exists_of_bind_eq_ok h
        cases h
        exact .inl rfl
      split at h
      · obtain ⟨⟨n, back⟩, -, h⟩ := exists_of_bind_eq_ok h
        cases h
        exact .inl rfl
      · exact .inr (.inl h)
    case h_8 =>
      split at h
      · exact .inr (.inl h)
      · exact .inl (isScalar_of_simple? h)

/-- Whatever nesting is allowed, an item that is read is well keyed once its keys are scalars. -/
theorem yields_item? [Objects ο] [Library ο] [Library.Lawful ο] (payload : Bytes) (depth : Nat) :
    Yields (item? (reader payload) depth) fun v : Value ο =>
      v.hasScalarKeys = true → v.wellKeyed = true := by
  induction depth with
  | zero =>
      intro bs v rest hread hscalar
      rcases item?_cases hread with hv | hv | ⟨d, a, front, hd, -⟩
      · exact Value.wellKeyed_of_isScalar hv
      · exact Library.Lawful.wellKeyed_of_read hv hscalar
      · cases hd
  | succ depth ih =>
      intro bs v rest hread hscalar
      rcases item?_cases hread with
        hv | hv | ⟨d, a, front, hd, ⟨items, hitems, rfl⟩ | ⟨entries, hentries, rfl⟩⟩
      · exact Value.wellKeyed_of_isScalar hv
      · exact Library.Lawful.wellKeyed_of_read hv hscalar
      · cases hd
        rw [Value.hasScalarKeys_list] at hscalar
        exact Value.wellKeyed_list.2 fun x hx => ih.sequence a _ _ _ hitems x hx (hscalar x hx)
      · cases hd
        exact Value.wellKeyed_ofEntries
          (fun e he => (ih.association.sequence a _ _ _ hentries e he).2) hscalar

/-- **No key twice.**  A decoded value whose maps have scalar keys is well keyed. -/
theorem wellKeyed_of_decode? [Objects ο] [Library ο] [Library.Lawful ο] {bs : Bytes} {v : Value ο}
    (h : decode? bs = .ok v) (hscalar : v.hasScalarKeys = true) : v.wellKeyed = true := by
  obtain ⟨⟨w, rest⟩, hitem, rfl⟩ := exists_of_map_eq_ok h
  exact yields_item? bs maxDepth _ _ _ hitem hscalar

end Cbor
end LedgerFlow
