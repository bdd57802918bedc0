import LedgerFlow.Submission.Poll
import Mathlib.Algebra.Order.Ring.Rat
import Mathlib.Tactic.Linarith

/-!
# Laws of time and cancellation

A timeout that is bounded by a cancellation is the given one or the time that remains, and is not more
than either.  These laws need no more of a clock than a linear order.  On exact fractions a bounded
timeout moreover ends before the deadline, and is positive while the cancellation has not fired.

Counterexamples about double precision stand on `Limited`, fractions with its limits, whose numbers the
kernel can compute with.

`Surroundings.callerCancellation` makes them laws of all surroundings: a caller without a cancellation
has one that never fires.
-/

namespace LedgerFlow

/-- A timeline whose order is linear. -/
class Timeline.Linear (τ : Type) [Timeline τ] : Prop where
  le_refl (x : τ) : x ≤ x
  le_trans {x y z : τ} : x ≤ y → y ≤ z → x ≤ z
  le_of_lt {x y : τ} : x < y → x ≤ y
  le_of_not_lt {x y : τ} : ¬ x < y → y ≤ x

instance : Timeline.Linear Rat where
  le_refl _ := Rat.le_refl
  le_trans h h' := Rat.le_trans h h'
  le_of_lt h := Rat.le_of_lt h
  le_of_not_lt h := Rat.not_lt.1 h

/-- Fractions with the limits of double precision: whole numbers and powers may be too large. -/
structure Limited where
  value : Rat

instance : Timeline Limited where
  zero := ⟨0⟩
  one := ⟨1⟩
  add x y := ⟨x.value + y.value⟩
  sub x y := ⟨x.value - y.value⟩
  mul x y := ⟨x.value * y.value⟩
  lt x y := x.value < y.value
  le x y := x.value ≤ y.value
  ofInt n := ⟨n⟩
  isInRange n := (Binary64.ofInt? n).isSome
  power? x n := if 2 ^ 1024 ≤ |x.value ^ n| then none else some ⟨x.value ^ n⟩
  decidableLT x y := inferInstanceAs (Decidable (x.value < y.value))
  decidableLE x y := inferInstanceAs (Decidable (x.value ≤ y.value))

namespace Timeline.Linear

variable {τ : Type} [Timeline τ] [Timeline.Linear τ]

theorem shorter_le_left (a b : τ) : (if a < b then a else b) ≤ a := by
  split
  · exact le_refl a
  · next h => exact le_of_not_lt h

theorem shorter_le_right (a b : τ) : (if a < b then a else b) ≤ b := by
  split
  · next h => exact le_of_lt h
  · exact le_refl b

end Timeline.Linear

namespace Cancellation

section Order

variable {τ : Type} [Timeline τ] {c : Cancellation τ} {now now' left t u : τ} {timeout : Option τ}

/-- A timeout bounded by the time that remains is the shorter of the two. -/
theorem bounded_of_remaining (h : c.remaining now = some left) :
    c.bounded now timeout = some (timeout.elim left fun t => if left < t then left else t) := by
  unfold bounded
  rw [h]
  cases timeout with
  | none => rfl
  | some t => exact (apply_ite some _ _ _).symm

/-- Without a bound a timeout stays as it is. -/
theorem bounded_of_unbounded (h : c.remaining now = none) : c.bounded now timeout = timeout := by
  unfold bounded
  rw [h]

/-- A bounded timeout is the time that remains or the given timeout. -/
theorem bounded_cases (h : c.bounded now timeout = some u) :
    c.remaining now = some u ∨ timeout = some u := by
  cases hleft : c.remaining now with
  | none => exact .inr ((bounded_of_unbounded hleft).symm.trans h)
  | some left =>
      have hu := Option.some.inj ((bounded_of_remaining hleft).symm.trans h)
      cases timeout with
      | none => exact .inl (congrArg some hu)
      | some t =>
          by_cases hlt : left < t
          · exact .inl (congrArg some ((if_pos hlt).symm.trans hu))
          · exact .inr (congrArg some ((if_neg hlt).symm.trans hu))

/-- A timeout that is there still is when it is bounded. -/
theorem exists_bounded (c : Cancellation τ) (now t : τ) : ∃ u, c.bounded now (some t) = some u := by
  cases hleft : c.remaining now with
  | none => exact ⟨t, bounded_of_unbounded hleft⟩
  | some left => exact ⟨_, bounded_of_remaining hleft⟩

/-- A bounded timeout is the time that remains, or that is not less.  More cannot be said of a timeout that is
no number. -/
theorem bounded_eq_or_not_lt (hleft : c.remaining now = some left) (h : c.bounded now timeout = some u) :
    u = left ∨ ¬ left < u := by
  obtain rfl := Option.some.inj ((bounded_of_remaining hleft).symm.trans h)
  cases timeout with
  | none => exact .inl rfl
  | some t =>
      by_cases hlt : left < t
      · exact .inl (if_pos hlt)
      · exact .inr (by rwa [Option.elim_some, if_neg hlt])

variable [Timeline.Linear τ]

theorem bounded_le_remaining (hleft : c.remaining now = some left)
    (h : c.bounded now timeout = some u) : u ≤ left := by
  obtain rfl := Option.some.inj ((bounded_of_remaining hleft).symm.trans h)
  cases timeout with
  | none => exact Timeline.Linear.le_refl left
  | some t => exact Timeline.Linear.shorter_le_left left t

theorem bounded_le_timeout (h : c.bounded now (some t) = some u) : u ≤ t := by
  cases hleft : c.remaining now with
  | none =>
      obtain rfl := Option.some.inj ((bounded_of_unbounded hleft).symm.trans h)
      exact Timeline.Linear.le_refl t
  | some left =>
      obtain rfl := Option.some.inj ((bounded_of_remaining hleft).symm.trans h)
      exact Timeline.Linear.shorter_le_right left t

/-- A cancellation that has fired stays fired while time moves forward, the deadline stays and a
request is not taken back. -/
theorem hasFired_mono {c' : Cancellation τ} (hnow : now ≤ now') (hdeadline : c'.deadline = c.deadline)
    (hrequested : c.requested = true → c'.requested = true) (h : c.hasFired now = true) :
    c'.hasFired now' = true := by
  rcases Bool.or_eq_true_iff.1 h with hfired | hreached
  · exact Bool.or_eq_true_iff.2 (.inl (hrequested hfired))
  · refine Bool.or_eq_true_iff.2 (.inr ?_)
    rw [hdeadline]
    cases hd : c.deadline with
    | none =>
        rw [hd] at hreached
        cases hreached
    | some d =>
        rw [hd] at hreached
        exact decide_eq_true (Timeline.Linear.le_trans (of_decide_eq_true hreached) hnow)

end Order

/-! ## Exact fractions -/

section Exact

variable {c : Cancellation Rat} {now left d u : Rat} {timeout : Option Rat}

theorem clampToZero_nonneg (x : Rat) : 0 ≤ clampToZero x := by
  unfold clampToZero
  split
  · next h => exact Rat.le_of_lt h
  · exact Rat.le_refl

/-- A duration that is left fits before the deadline. -/
theorem add_le_of_le_clampToZero (hpos : 0 < u) (h : u ≤ clampToZero (d - now)) : now + u ≤ d := by
  unfold clampToZero at h
  split at h
  · linarith
  · exact absurd hpos (Rat.not_lt.2 h)

theorem remaining_nonneg (h : c.remaining now = some left) : 0 ≤ left := by
  unfold remaining at h
  split at h
  · obtain rfl := Option.some.inj h
    exact Rat.le_refl
  · obtain ⟨d, -, rfl⟩ := Option.map_eq_some_iff.1 h
    exact clampToZero_nonneg _

/-- While a cancellation has not fired there is time left. -/
theorem remaining_pos (hstart : c.hasFired now = false) (h : c.remaining now = some left) :
    0 < left := by
  obtain ⟨hrequested, hdeadline⟩ := Bool.or_eq_false_iff.1 hstart
  unfold remaining at h
  rw [hrequested, if_neg Bool.false_ne_true] at h
  obtain ⟨d, hd, rfl⟩ := Option.map_eq_some_iff.1 h
  rw [hd] at hdeadline
  have hlt : now < d := Rat.not_le.1 (of_decide_eq_false hdeadline)
  have hpos : 0 < d - now := by linarith
  unfold clampToZero
  rw [if_pos hpos]
  exact hpos

/-- A bounded timeout that is positive ends before the deadline. -/
theorem add_le_deadline (hd : c.deadline = some d) (hpos : 0 < u) (h : c.bounded now timeout = some u) :
    now + u ≤ d := by
  cases hrequested : c.requested with
  | true =>
      have hleft : c.remaining now = some 0 := if_pos hrequested
      exact absurd hpos (Rat.not_lt.2 (bounded_le_remaining hleft h))
  | false =>
      have hleft : c.remaining now = some (clampToZero (d - now)) := by
        unfold remaining
        rw [hrequested, hd]
        rfl
      exact add_le_of_le_clampToZero hpos (bounded_le_remaining hleft h)

end Exact
end Cancellation

/-! ## The caller's cancellation -/

namespace Surroundings

variable {ω τ : Type} [Timeline τ] (env : Surroundings ω τ) (w : ω)

/-- The cancellation of the caller; without one, one that never fires. -/
def callerCancellation : Cancellation τ := (env.cancellation w).getD .never

theorem hasFired_eq : env.hasFired w = (env.callerCancellation w).hasFired (env.now w) := by
  unfold hasFired callerCancellation
  cases env.cancellation w <;> rfl

theorem bounded_eq (timeout : Option τ) :
    env.bounded w timeout = (env.callerCancellation w).bounded (env.now w) timeout := by
  unfold bounded callerCancellation
  cases env.cancellation w <;> rfl

end Surroundings

/-- A poll bounds by its budget first and by the caller's cancellation then. -/
theorem Poll.bounded_eq {ω τ : Type} [Timeline τ] (env : Surroundings ω τ) (budget : Cancellation τ)
    (w : ω) (timeout : Option τ) : Poll.bounded env budget w timeout =
      (env.callerCancellation w).bounded (env.now w) (budget.bounded (env.now w) timeout) :=
  env.bounded_eq w _

end LedgerFlow
