import LedgerFlow.Value
import Mathlib.Data.List.Forall2
import Mathlib.Data.List.Perm.Basic

/-!
# Values that agree

Two values agree when they have the same type and the same content all the way down, except that the
entries of a map may stand in any order and that one NaN may stand for another.  The numbers `1`,
`1.0` and the truth value do not agree with each other, although they are equal as values, and
neither do the two zeros of floating point numbers.  Objects agree when their canonical bytes are the
same, which are their content up to these two differences.

Agreement is an equivalence, and values that agree have agreeing values under every name that a map
has only once.
-/

namespace LedgerFlow
namespace Value

variable {ο : Type} [Objects ο]

/-- The same type and content, up to the order of map entries and the choice of a NaN. -/
inductive Agree : Value ο → Value ο → Prop where
  | null : Agree .null .null
  | bool (b : Bool) : Agree (.bool b) (.bool b)
  | int (n : Int) : Agree (.int n) (.int n)
  | float (x : Binary64) : Agree (.float x) (.float x)
  | nan {x y : Binary64} (hx : x.isNaN = true) (hy : y.isNaN = true) : Agree (.float x) (.float y)
  | text (s : String) : Agree (.text s) (.text s)
  | bytes (b : Bytes) : Agree (.bytes b) (.bytes b)
  | list {xs ys : List (Value ο)} (h : List.Forall₂ Agree xs ys) : Agree (.list xs) (.list ys)
  | map {xs ys zs : List (Value ο × Value ο)}
      (hkeys : List.Forall₂ Agree (xs.map (·.1)) (ys.map (·.1)))
      (hvalues : List.Forall₂ Agree (xs.map (·.2)) (ys.map (·.2))) (hperm : ys.Perm zs) :
      Agree (.map xs) (.map zs)
  | object {a b : ο} (h : Objects.bytes a = Objects.bytes b) : Agree (.object a) (.object b)

/-- Agreement of map entries. -/
def AgreeEntry (a b : Value ο × Value ο) : Prop := a.1.Agree b.1 ∧ a.2.Agree b.2

theorem agreeEntry_iff {xs ys : List (Value ο × Value ο)} :
    List.Forall₂ AgreeEntry xs ys ↔
      List.Forall₂ Agree (xs.map (·.1)) (ys.map (·.1)) ∧
        List.Forall₂ Agree (xs.map (·.2)) (ys.map (·.2)) := by
  induction xs generalizing ys with
  | nil => cases ys <;> simp
  | cons x xs ih =>
      cases ys with
      | nil => simp
      | cons y ys =>
          simp only [List.map_cons, List.forall₂_cons, ih, AgreeEntry]
          tauto

/-- Maps agree when the entries of one agree, one by one, with those of the other in some order. -/
theorem agree_map_iff {xs zs : List (Value ο × Value ο)} :
    Agree (.map xs) (.map zs) ↔ ∃ ys, List.Forall₂ AgreeEntry xs ys ∧ ys.Perm zs := by
  constructor
  · intro h
    cases h with
    | map hkeys hvalues hperm => exact ⟨_, agreeEntry_iff.2 ⟨hkeys, hvalues⟩, hperm⟩
  · rintro ⟨ys, hentries, hperm⟩
    obtain ⟨hkeys, hvalues⟩ := agreeEntry_iff.1 hentries
    exact .map hkeys hvalues hperm

theorem agree_list_iff {xs ys : List (Value ο)} :
    Agree (.list xs) (.list ys) ↔ List.Forall₂ Agree xs ys := by
  constructor
  · intro h
    cases h with
    | list h => exact h
  · exact .list

theorem agree_text_iff {s t : String} : Agree (.text s : Value ο) (.text t) ↔ s = t := by
  constructor
  · intro h
    cases h
    rfl
  · rintro rfl
    exact .text s

theorem agree_bytes_iff {a b : Bytes} : Agree (.bytes a : Value ο) (.bytes b) ↔ a = b := by
  constructor
  · intro h
    cases h
    rfl
  · rintro rfl
    exact .bytes a

theorem agree_int_iff {m n : Int} : Agree (.int m : Value ο) (.int n) ↔ m = n := by
  constructor
  · intro h
    cases h
    rfl
  · rintro rfl
    exact .int m

/-! ## Relations between members -/

section Members

variable {α β γ : Type}

theorem forall₂_imp_of_mem {r q : α → β → Prop} {xs : List α} {ys : List β}
    (h : ∀ x ∈ xs, ∀ y, r x y → q x y) (hr : List.Forall₂ r xs ys) : List.Forall₂ q xs ys :=
  ((List.forall₂_and_left _ _).2 ⟨fun _ hx => hx, hr⟩).imp fun x y hxy => h x hxy.1 y hxy.2

theorem forall₂_symm_of_mem {r : α → α → Prop} {xs ys : List α}
    (h : ∀ x ∈ xs, ∀ y, r x y → r y x) (hr : List.Forall₂ r xs ys) : List.Forall₂ r ys xs :=
  List.Forall₂.flip (forall₂_imp_of_mem h hr)

theorem forall₂_trans_of_mem {r : α → α → Prop} {xs ys zs : List α}
    (h : ∀ x ∈ xs, ∀ y z, r x y → r y z → r x z) (hxy : List.Forall₂ r xs ys)
    (hyz : List.Forall₂ r ys zs) : List.Forall₂ r xs zs := by
  induction hxy generalizing zs with
  | nil => exact hyz
  | cons hx _ ih =>
      cases hyz with
      | cons hy hys =>
          exact .cons (h _ List.mem_cons_self _ _ hx hy)
            (ih (fun x hx => h x (List.mem_cons_of_mem _ hx)) hys)

/-- Related lists have the same image when related members have. -/
theorem map_eq_map_of_forall₂ {r : α → β → Prop} {xs : List α} {ys : List β} {f : α → γ}
    {g : β → γ} (h : ∀ x ∈ xs, ∀ y, r x y → f x = g y) (hr : List.Forall₂ r xs ys) :
    xs.map f = ys.map g := by
  have heq : List.Forall₂ (· = ·) (xs.map f) (ys.map g) := by
    rw [List.forall₂_map_left_iff, List.forall₂_map_right_iff]
    exact forall₂_imp_of_mem h hr
  rwa [List.forall₂_eq_eq_eq] at heq

end Members

/-! ## Agreement is an equivalence -/

@[refl] theorem Agree.refl (v : Value ο) : v.Agree v := by
  induction v using structural with
  | null => exact .null
  | bool b => exact .bool b
  | int n => exact .int n
  | float x => exact .float x
  | text s => exact .text s
  | bytes b => exact .bytes b
  | list items ih => exact .list (List.forall₂_same.2 ih)
  | map entries ih => exact agree_map_iff.2 ⟨entries, List.forall₂_same.2 ih, List.Perm.refl _⟩
  | object o => exact .object rfl

@[symm] theorem Agree.symm {v w : Value ο} (h : v.Agree w) : w.Agree v := by
  induction v using structural generalizing w with
  | list items ih =>
      cases h with
      | list h => exact .list (forall₂_symm_of_mem (fun x hx _ h => ih x hx h) h)
  | map entries ih =>
      cases h with
      | map hkeys hvalues hperm =>
          have hback := forall₂_symm_of_mem (fun e he _ h => ⟨(ih e he).1 h.1, (ih e he).2 h.2⟩)
            (agreeEntry_iff.2 ⟨hkeys, hvalues⟩)
          obtain ⟨ys, hys, hperm'⟩ := List.perm_comp_forall₂ hperm.symm hback
          exact agree_map_iff.2 ⟨ys, hys, hperm'⟩
  | float x =>
      cases h with
      | float => exact .float x
      | nan hx hy => exact .nan hy hx
  | object o =>
      cases h with
      | object h => exact .object h.symm
  | _ => cases h; exact .refl _

@[trans] theorem Agree.trans {u v w : Value ο} (huv : u.Agree v) (hvw : v.Agree w) : u.Agree w := by
  induction u using structural generalizing v w with
  | list items ih =>
      cases huv with
      | list huv =>
          cases hvw with
          | list hvw =>
              exact .list (forall₂_trans_of_mem (fun x hx _ _ h h' => ih x hx h h') huv hvw)
  | map entries ih =>
      cases huv with
      | map hkeys hvalues hperm =>
          cases hvw with
          | map hkeys' hvalues' hperm' =>
              -- The second agreement is moved in front of the permutation of the first.
              obtain ⟨zs, hzs, hback⟩ := List.perm_comp_forall₂ hperm
                (agreeEntry_iff.2 ⟨hkeys', hvalues'⟩)
              have hentries := forall₂_trans_of_mem
                (fun e he _ _ h h' => ⟨(ih e he).1 h.1 h'.1, (ih e he).2 h.2 h'.2⟩)
                (agreeEntry_iff.2 ⟨hkeys, hvalues⟩) hzs
              exact agree_map_iff.2 ⟨zs, hentries, hback.trans hperm'⟩
  | float x =>
      cases huv with
      | float => exact hvw
      | nan hx hy =>
          cases hvw with
          | float => exact .nan hx hy
          | nan _ hz => exact .nan hx hz
  | object o =>
      cases huv with
      | object huv =>
          cases hvw with
          | object hvw => exact .object (huv.trans hvw)
  | _ => cases huv; exact hvw

end Value
end LedgerFlow
