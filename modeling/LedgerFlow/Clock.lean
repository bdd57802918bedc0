import LedgerFlow.Binary64

/-!
# Time and cancellation

Times are readings of a clock in some ordered arithmetic, a `Timeline`; the library runs on floating
point numbers and can be reasoned about on exact fractions.  Floating point numbers have a range: a whole
number beyond it is none of them, and computing with one fails.

A `Cancellation` combines an optional deadline with a request.  It has fired once it was requested
or the clock has reached the deadline, and it bounds every timeout by the time that remains.
-/

namespace LedgerFlow

/-- What clock readings and durations can do. -/
class Timeline (τ : Type) extends Zero τ, One τ, Add τ, Sub τ, Mul τ, LT τ, LE τ where
  /-- A whole number of seconds, or an infinite one if it is out of range. -/
  ofInt : Int → τ
  /-- Whether a whole number is in the range of the arithmetic. -/
  isInRange : Int → Bool
  /-- A natural power, unless it is too large for the arithmetic. -/
  power? : τ → Nat → Option τ
  decidableLT : DecidableLT τ
  decidableLE : DecidableLE τ

instance decidableLTOfTimeline (τ : Type) [Timeline τ] : DecidableLT τ := Timeline.decidableLT

instance decidableLEOfTimeline (τ : Type) [Timeline τ] : DecidableLE τ := Timeline.decidableLE

/-- The word of a floating point number. -/
def Binary64.ofFloat (x : Float) : Binary64 := .ofBits x.toBits

/-- The floating point number of a word. -/
def Binary64.toFloat (x : Binary64) : Float := Float.ofBits x.bits

instance : Timeline Float where
  zero := 0.0
  one := 1.0
  ofInt n := ((Binary64.ofInt? n).getD (.infinity (n < 0))).toFloat
  isInRange n := (Binary64.ofInt? n).isSome
  power? x n :=
    let p := Float.pow x n.toFloat
    if p.isInf && x.isFinite then none else some p
  decidableLT := inferInstance
  decidableLE := inferInstance

instance : Timeline Rat where
  zero := Rat.ofInt 0
  one := Rat.ofInt 1
  ofInt := fun n => n
  isInRange := fun _ => true
  power? := fun x n => some (x ^ n)
  decidableLT := inferInstance
  decidableLE := inferInstance

variable {τ : Type} [Timeline τ]

/-- An optional deadline, and whether cancelling was requested. -/
structure Cancellation (τ : Type) where
  deadline : Option τ := none
  requested : Bool := false
  deriving Inhabited

namespace Cancellation

/-- A cancellation that fires some time from now. -/
def after (now seconds : τ) : Cancellation τ := { deadline := some (now + seconds) }

/-- A cancellation without a deadline. -/
def never : Cancellation τ := {}

/-- The same cancellation, requested. -/
def request (c : Cancellation τ) : Cancellation τ := { c with requested := true }

/-- Whether the cancellation has fired at a time. -/
def hasFired (c : Cancellation τ) (now : τ) : Bool :=
  c.requested || c.deadline.any fun d => decide (d ≤ now)

/-- A duration that is not negative. -/
def clampToZero (x : τ) : τ := if 0 < x then x else 0

/-- The time left at a time; nothing when there is no bound. -/
def remaining (c : Cancellation τ) (now : τ) : Option τ :=
  if c.requested then some 0 else c.deadline.map fun d => clampToZero (d - now)

/-- A timeout that does not outlive the cancellation. -/
def bounded (c : Cancellation τ) (now : τ) (timeout : Option τ) : Option τ :=
  match c.remaining now, timeout with
  | none, timeout => timeout
  | some left, none => some left
  | some left, some t => if left < t then some left else some t

end Cancellation
end LedgerFlow
