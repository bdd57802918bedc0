/-!
# Binary floating point words

A `Binary64` is a 64-bit floating point word: a sign, eleven exponent bits and 52 fraction bits.
It is read as an exact magnitude `m * 2 ^ q`, so that every question about its value is a question
about integers.  All NaNs are one word; `ofBits` makes that choice.
-/

namespace LedgerFlow

/-- A power with a natural exponent is the one that comes with the type, whatever other algebra a module
imports. -/
@[default_instance 20000]
instance (priority := 20000) naturalPower {α : Type} [NatPow α] : Pow α Nat := instPowNat

/-- A floating point number as its 64-bit word. -/
structure Binary64 where
  bits : UInt64
  deriving DecidableEq, Inhabited, Repr

namespace Binary64

/-- The word that stands for every NaN. -/
def nan : Binary64 := ⟨0x7FF8000000000000⟩

/-- The number with the given sign, exponent field and fraction field. -/
def compose (negative : Bool) (exponent fraction : Nat) : Binary64 :=
  ⟨UInt64.ofNat ((if negative then 2 ^ 63 else 0) + exponent * 2 ^ 52 + fraction)⟩

/-- Positive or negative infinity. -/
def infinity (negative : Bool) : Binary64 := compose negative 2047 0

/-- Positive or negative zero. -/
def zero (negative : Bool) : Binary64 := compose negative 0 0

/-- The sign bit. -/
def isNegative (x : Binary64) : Bool := 2 ^ 63 ≤ x.bits.toNat

/-- The eleven exponent bits. -/
def exponentField (x : Binary64) : Nat := x.bits.toNat / 2 ^ 52 % 2 ^ 11

/-- The 52 fraction bits. -/
def fractionField (x : Binary64) : Nat := x.bits.toNat % 2 ^ 52

def isNaN (x : Binary64) : Bool := x.exponentField == 2047 && x.fractionField != 0

def isInfinite (x : Binary64) : Bool := x.exponentField == 2047 && x.fractionField == 0

def isZero (x : Binary64) : Bool := x.exponentField == 0 && x.fractionField == 0

/-- The number of a word; all NaN words give the same NaN. -/
def ofBits (w : UInt64) : Binary64 :=
  let x : Binary64 := ⟨w⟩
  if x.isNaN then nan else x

/-- The absolute value of a finite number is `m * 2 ^ q` for the pair `(m, q)`. -/
def magnitude (x : Binary64) : Nat × Int :=
  if x.exponentField == 0 then (x.fractionField, -1074)
  else (2 ^ 52 + x.fractionField, (x.exponentField : Int) - 1075)

/-- `m * 2 ^ q` as a fraction of natural numbers. -/
def ratio (m : Nat) (q : Int) : Nat × Nat :=
  if 0 ≤ q then (m * 2 ^ q.toNat, 1) else (m, 2 ^ (-q).toNat)

/-- The nearest integer to `num / den`, halves to the even neighbour. -/
def roundDiv (num den : Nat) : Nat :=
  let floor := num / den
  let rest := 2 * (num % den)
  if rest < den then floor
  else if den < rest then floor + 1
  else if floor % 2 == 0 then floor else floor + 1

/-- The word of `m * 2 ^ q` where `m` has at most 53 bits, or is `2 ^ 53`. -/
def assemble (negative : Bool) (m : Nat) (q : Int) : Binary64 :=
  let (m, q) := if m == 2 ^ 53 then (2 ^ 52, q + 1) else (m, q)
  if m < 2 ^ 52 then compose negative 0 m
  else if 971 < q then infinity negative
  else compose negative (q + 1075).toNat (m - 2 ^ 52)

/-- The number nearest to `num / den`, halves to the even neighbour. -/
def ofRatio (negative : Bool) (num den : Nat) : Binary64 :=
  if num == 0 then zero negative
  else
    let lead : Int := (num.log2 : Int) - den.log2
    let at_ := fun q : Int =>
      if 0 ≤ q then (num, den * 2 ^ q.toNat) else (num * 2 ^ (-q).toNat, den)
    let q := max (lead - 53) (-1074)
    let (n, d) := at_ q
    let q := if n / d < 2 ^ 53 then q else q + 1
    let (n, d) := at_ q
    assemble negative (roundDiv n d) q

/-- The number nearest to an integer; `none` when it is beyond the largest finite number. -/
def ofInt? (n : Int) : Option Binary64 :=
  let x := ofRatio (n < 0) n.natAbs 1
  if x.isInfinite then none else some x

/-- The integer part of a finite number, its fraction cut off. -/
def truncate (x : Binary64) : Int :=
  let (m, q) := x.magnitude
  let (n, d) := ratio m q
  if x.isNegative then -((n / d : Nat) : Int) else ((n / d : Nat) : Int)

/-- The integer that the number is exactly, if it is one. -/
def toInt? (x : Binary64) : Option Int :=
  if x.exponentField == 2047 then none
  else
    let (m, q) := x.magnitude
    let (n, d) := ratio m q
    if n % d == 0 then some x.truncate else none

/-- Equality of value: the two zeros are equal, and a NaN is equal to itself. -/
def same (x y : Binary64) : Bool := x == y || (x.isZero && y.isZero)

theorem same_refl (x : Binary64) : x.same x = true := by simp [same]

end Binary64
end LedgerFlow
