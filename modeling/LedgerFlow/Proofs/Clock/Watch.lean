import LedgerFlow.Proofs.Clock
import Mathlib.Data.NNRat.Defs
import Mathlib.Order.WithBot

/-!
# A cancellation in the course of time

A cancellation is watched on a clock of exact fractions that never goes back: time passes, and at any
moment somebody may request it.  What is seen of it at one moment fits together (`Watch.Coherent`), and
from one moment to a later one it only gets closer to its end (`Watch.Steady`).

A missing duration stands for an unlimited one.  Read so (`limit`), bounding a timeout takes the
shorter of it and the time that remains (`limit_bounded`), and the laws of bounding are those of a
minimum.

The main statement is `Watch.coherent_and_steady`, for any two moments of any run.
-/

namespace LedgerFlow
namespace Cancellation

/-! ## Durations without a limit -/

/-- A duration as an upper limit; a missing one does not limit anything. -/
def limit : Option Rat → WithTop Rat
  | none => ⊤
  | some x => x

theorem limit_injective {a b : Option Rat} (h : limit a = limit b) : a = b := by
  cases a with
  | none =>
      cases b with
      | none => rfl
      | some y => exact absurd h (WithTop.top_ne_coe)
  | some x =>
      cases b with
      | none => exact absurd h (WithTop.coe_ne_top)
      | some y => exact congrArg some (WithTop.coe_injective h)

variable {c : Cancellation Rat} {now left : Rat} {timeout : Option Rat}

/-- A bounded timeout is the shorter of the timeout and the time that remains. -/
theorem limit_bounded (c : Cancellation Rat) (now : Rat) (timeout : Option Rat) :
    limit (c.bounded now timeout) = min (limit (c.remaining now)) (limit timeout) := by
  cases hleft : c.remaining now with
  | none =>
      rw [bounded_of_unbounded hleft]
      exact (top_inf_eq _).symm
  | some left =>
      rw [bounded_of_remaining hleft]
      cases timeout with
      | none => exact (inf_top_eq _).symm
      | some t =>
          show ((if left < t then left else t : Rat) : WithTop Rat) = min (left : WithTop Rat) t
          rw [← WithTop.coe_min]
          split
          · next hlt => rw [min_eq_left hlt.le]
          · next hlt => rw [min_eq_right (not_lt.1 hlt)]

theorem clampToZero_mono {x y : Rat} (h : x ≤ y) : clampToZero x ≤ clampToZero y := by
  unfold clampToZero
  split
  · next hx => rw [if_pos (lt_of_lt_of_le hx h)]; exact h
  · exact clampToZero_nonneg y

theorem clampToZero_eq_zero {x : Rat} (h : x ≤ 0) : clampToZero x = 0 :=
  if_neg (not_lt.2 h)

/-- The time that remains is never negative. -/
theorem limit_zero_le_remaining (c : Cancellation Rat) (now : Rat) :
    limit (some 0) ≤ limit (c.remaining now) := by
  cases hleft : c.remaining now with
  | none => exact le_top
  | some left => exact WithTop.coe_le_coe.2 (remaining_nonneg hleft)

/-- A cancellation has fired exactly when no time remains. -/
theorem hasFired_iff_remaining : c.hasFired now = true ↔ c.remaining now = some 0 := by
  constructor
  · intro h
    unfold remaining
    rcases Bool.or_eq_true_iff.1 h with hrequested | hreached
    · rw [hrequested]
      rfl
    · cases hd : c.deadline with
      | none =>
          rw [hd] at hreached
          cases hreached
      | some d =>
          rw [hd] at hreached
          have hle : d ≤ now := of_decide_eq_true hreached
          have hzero : clampToZero (d - now) = 0 := clampToZero_eq_zero (sub_nonpos.2 hle)
          rw [Option.map_some, hzero, ite_self]
  · intro h
    by_contra hrunning
    exact lt_irrefl 0 (remaining_pos (Bool.eq_false_iff.2 hrunning) h)

end Cancellation

/-! ## Moments -/

/-- A cancellation and the reading of the clock. -/
structure Watch where
  cancellation : Cancellation Rat
  now : Rat

namespace Watch

open Cancellation (limit limit_injective)

/-- What happens between two looks at a cancellation. -/
inductive Change where
  | passes (elapsed : NNRat)
  | requested

variable (m : Watch)

def hasFired : Bool := m.cancellation.hasFired m.now

def remaining : Option Rat := m.cancellation.remaining m.now

def bounded (timeout : Option Rat) : Option Rat := m.cancellation.bounded m.now timeout

/-- The next moment. -/
def next : Change → Watch
  | .passes elapsed => { m with now := m.now + elapsed }
  | .requested => { m with cancellation := m.cancellation.request }

/-- The moment after a run of changes. -/
def after (changes : List Change) : Watch := changes.foldl next m

theorem after_append (earlier later : List Change) :
    m.after (earlier ++ later) = (m.after earlier).after later :=
  List.foldl_append

/-- What is seen of a cancellation at one moment fits together, with each timeout and with any other
cancellation, on whatever clock that is. -/
structure Coherent : Prop where
  hasFired_iff : m.hasFired = true ↔ m.remaining = some 0
  bounded_or : ∀ timeout, m.bounded timeout = timeout ∨ m.bounded timeout = m.remaining
  bounded_le_timeout : ∀ timeout, limit (m.bounded timeout) ≤ limit timeout
  bounded_le_remaining : ∀ timeout, limit (m.bounded timeout) ≤ limit m.remaining
  /-- The timeout is not negative, or there is none. -/
  bounded_of_hasFired : m.hasFired = true → ∀ timeout, limit (some 0) ≤ limit timeout →
    m.bounded timeout = some 0
  bounded_comm : ∀ (other : Watch) timeout,
    m.bounded (other.bounded timeout) = other.bounded (m.bounded timeout)

/-- From one moment to a later one a cancellation only gets closer to its end. -/
structure Steady (m m' : Watch) : Prop where
  hasFired_stays : m.hasFired = true → m'.hasFired = true
  remaining_le : limit m'.remaining ≤ limit m.remaining
  bounded_le : ∀ timeout, limit (m'.bounded timeout) ≤ limit (m.bounded timeout)

variable {m}

theorem limit_bounded (m : Watch) (timeout : Option Rat) :
    limit (m.bounded timeout) = min (limit m.remaining) (limit timeout) :=
  Cancellation.limit_bounded _ _ _

theorem coherent (m : Watch) : m.Coherent where
  hasFired_iff := Cancellation.hasFired_iff_remaining
  bounded_or timeout := by
    rcases min_choice (limit m.remaining) (limit timeout) with h | h
    · exact .inr (limit_injective ((limit_bounded m timeout).trans h))
    · exact .inl (limit_injective ((limit_bounded m timeout).trans h))
  bounded_le_timeout timeout := by
    rw [limit_bounded]
    exact min_le_right _ _
  bounded_le_remaining timeout := by
    rw [limit_bounded]
    exact min_le_left _ _
  bounded_of_hasFired hfired timeout hnonneg := by
    have hzero : m.remaining = some 0 := Cancellation.hasFired_iff_remaining.1 hfired
    apply limit_injective
    rw [limit_bounded, hzero]
    exact min_eq_left hnonneg
  bounded_comm other timeout := by
    apply limit_injective
    rw [limit_bounded, limit_bounded, limit_bounded, limit_bounded]
    exact min_left_comm _ _ _

/-! ## Runs -/

/-- What a change may do: the deadline stays, the clock does not go back, and a request is not taken
back. -/
structure Precedes (m m' : Watch) : Prop where
  deadline_eq : m'.cancellation.deadline = m.cancellation.deadline
  now_le : m.now ≤ m'.now
  requested_stays : m.cancellation.requested = true → m'.cancellation.requested = true

theorem Precedes.refl (m : Watch) : m.Precedes m := ⟨rfl, le_rfl, id⟩

theorem Precedes.trans {m m' m'' : Watch} (h : m.Precedes m') (h' : m'.Precedes m'') :
    m.Precedes m'' :=
  ⟨h'.deadline_eq.trans h.deadline_eq, h.now_le.trans h'.now_le,
    fun hrequested => h'.requested_stays (h.requested_stays hrequested)⟩

theorem precedes_next (m : Watch) (change : Change) : m.Precedes (m.next change) := by
  cases change with
  | passes elapsed => exact ⟨rfl, le_add_of_nonneg_right elapsed.2, id⟩
  | requested => exact ⟨rfl, le_rfl, fun _ => rfl⟩

theorem precedes_after (m : Watch) (changes : List Change) : m.Precedes (m.after changes) := by
  induction changes generalizing m with
  | nil => exact .refl m
  | cons change changes ih => exact (precedes_next m change).trans (ih _)

theorem Precedes.remaining_le {m m' : Watch} (h : m.Precedes m') :
    limit m'.remaining ≤ limit m.remaining := by
  cases hlater : m'.cancellation.requested with
  | true =>
      have hzero : m'.remaining = some 0 := if_pos hlater
      rw [hzero]
      exact Cancellation.limit_zero_le_remaining _ _
  | false =>
      have hearlier : m.cancellation.requested = false := by
        rw [Bool.eq_false_iff]
        intro hrequested
        rw [h.requested_stays hrequested] at hlater
        cases hlater
      have hleft : m.remaining = m.cancellation.deadline.map fun d =>
          Cancellation.clampToZero (d - m.now) := if_neg (by simp [hearlier])
      have hleft' : m'.remaining = m.cancellation.deadline.map fun d =>
          Cancellation.clampToZero (d - m'.now) := by
        rw [← h.deadline_eq]
        exact if_neg (by simp [hlater])
      rw [hleft, hleft']
      cases m.cancellation.deadline with
      | none => exact le_rfl
      | some d =>
          exact WithTop.coe_le_coe.2 (Cancellation.clampToZero_mono (sub_le_sub_left h.now_le d))

theorem Precedes.steady {m m' : Watch} (h : m.Precedes m') : m.Steady m' where
  hasFired_stays := Cancellation.hasFired_mono h.now_le h.deadline_eq h.requested_stays
  remaining_le := h.remaining_le
  bounded_le timeout := by
    rw [limit_bounded, limit_bounded]
    exact min_le_min_right _ h.remaining_le

/-- **Cancellations are consistent and monotone.**  At every moment of every run, what is seen of a
cancellation fits together; and from there to any later moment a cancellation that has fired stays
fired, and neither the time that remains nor any bounded timeout grows. -/
theorem coherent_and_steady (start : Watch) (earlier later : List Change) :
    (start.after earlier).Coherent ∧
      (start.after earlier).Steady (start.after (earlier ++ later)) := by
  refine ⟨coherent _, ?_⟩
  rw [after_append]
  exact (precedes_after _ later).steady

/-- Three of five seconds have passed, and then somebody requests the cancellation. -/
example :
    let m : Watch := Watch.after ⟨.after 0 5, 0⟩ [.passes 3]
    m.bounded (some 30) = some 2 ∧ m.bounded none = some 2 ∧
      (m.next .requested).bounded (some 30) = some 0 := by
  decide +kernel

end Watch
end LedgerFlow
