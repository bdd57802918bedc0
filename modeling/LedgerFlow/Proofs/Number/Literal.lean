import Mathlib.Data.List.DropRight
import Mathlib.Data.List.TakeDrop
import LedgerFlow.Number.Literal

/-!
# Two ways to read a whole number

A literal that `integer?` reads has no point, so `integral?` reads the same number in it.
-/

namespace LedgerFlow

/-- Nothing is left to be removed at the ends of a list. -/
theorem Text.trimList_trimList (p : Char → Bool) (cs : List Char) :
    trimList p (trimList p cs) = trimList p cs := by
  have hpre : trimList p cs <+: cs.dropWhile p := List.rdropWhile_prefix p _
  have hstart : (trimList p cs).dropWhile p = trimList p cs := by
    refine List.dropWhile_eq_self_iff.2 fun hlength => ?_
    have hfirst := List.dropWhile_get_zero_not p cs (Nat.lt_of_lt_of_le hlength hpre.length_le)
    rw [List.get_eq_getElem, ← hpre.getElem hlength] at hfirst
    exact hfirst
  show List.rdropWhile p ((trimList p cs).dropWhile p) = _
  rw [hstart]
  exact List.rdropWhile_idempotent p _

namespace Number

theorem not_mem_of_groupedDigits? {afterDigit : Bool} {cs : List Char} {ds : List Nat}
    (h : groupedDigits? afterDigit cs = some ds) : '.' ∉ cs := by
  fun_induction groupedDigits? afterDigit cs generalizing ds with
  | case1 => exact List.not_mem_nil
  | case2 => cases h
  | case3 rest ih => exact List.not_mem_cons_of_ne_of_not_mem (by decide) (ih h)
  | case4 => cases h
  | case5 afterDigit c rest hc ih =>
      obtain ⟨d, hd, h⟩ := Option.bind_eq_some_iff.1 h
      obtain ⟨ds, hds, -⟩ := Option.bind_eq_some_iff.1 h
      refine List.not_mem_cons_of_ne_of_not_mem (fun hpoint => ?_) (ih hds)
      have hnone : Text.asciiDigit? '.' = none := by decide
      rw [← hpoint, hnone] at hd
      cases hd

theorem not_mem_of_splitSign {cs : List Char} (h : '.' ∉ (splitSign cs).2) : '.' ∉ cs := by
  unfold splitSign at h
  split at h
  · exact List.not_mem_cons_of_ne_of_not_mem (by decide) h
  · exact List.not_mem_cons_of_ne_of_not_mem (by decide) h
  · exact h

theorem not_mem_of_plainInteger? {cs : List Char} {n : Int} (h : plainInteger? cs = some n) :
    '.' ∉ Text.trimList Text.isAsciiBlank cs := by
  obtain ⟨ds, hds, -⟩ := Option.bind_eq_some_iff.1 h
  exact not_mem_of_splitSign (not_mem_of_groupedDigits? hds)

/-- What is read as a whole number is read as the same number when a fraction is allowed. -/
theorem integral?_of_integer? {cs : List Char} {n : Int} (h : integer? cs = some n) :
    integral? cs = some n := by
  obtain ⟨plain, hplain, h⟩ := Option.bind_eq_some_iff.1 h
  have hspan : (Text.trimList Text.isAsciiBlank plain).span (· != '.') =
      (Text.trimList Text.isAsciiBlank plain, []) := by
    have hall : ∀ c ∈ Text.trimList Text.isAsciiBlank plain, (c != '.') = true := fun c hc =>
      bne_iff_ne.2 fun heq => not_mem_of_plainInteger? h (heq ▸ hc)
    rw [List.span_eq_takeWhile_dropWhile, List.takeWhile_eq_self_iff.2 hall,
      List.dropWhile_eq_nil_iff.2 hall]
  unfold integral?
  rw [hplain]
  dsimp only [Option.bind_eq_bind, Option.bind_some]
  rw [hspan]
  show plainInteger? (Text.trimList Text.isAsciiBlank plain) = _
  unfold plainInteger?
  rw [Text.trimList_trimList]
  exact h

end Number
end LedgerFlow
