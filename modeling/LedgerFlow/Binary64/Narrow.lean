import LedgerFlow.Binary64

/-!
# Narrow floating point formats

Half and single precision words beside the 64-bit word.  `widen` is exact.  `narrow?` answers with
the narrow word whose widening gives the number back, and only when there is one.
-/

namespace LedgerFlow
namespace Binary64

/-- The field widths of a binary floating point format. -/
structure Format where
  exponentBits : Nat
  fractionBits : Nat
  deriving DecidableEq, Repr

def half : Format := ⟨5, 10⟩

def single : Format := ⟨8, 23⟩

/-- The exponent offset of a format. -/
def Format.bias (f : Format) : Nat := 2 ^ (f.exponentBits - 1) - 1

/-- The number of a nonzero `m * 2 ^ q` with at most 53 bits, in the normal range. -/
def normal (negative : Bool) (m : Nat) (q : Int) : Binary64 :=
  let lead := m.log2
  compose negative ((lead : Int) + q + 1023).toNat ((m - 2 ^ lead) * 2 ^ (52 - lead))

/-- The number of a word of a narrow format. -/
def widen (f : Format) (word : Nat) : Binary64 :=
  let negative := word / 2 ^ (f.exponentBits + f.fractionBits) % 2 == 1
  let exponent := word / 2 ^ f.fractionBits % 2 ^ f.exponentBits
  let fraction := word % 2 ^ f.fractionBits
  if exponent == 2 ^ f.exponentBits - 1 then
    if fraction == 0 then infinity negative else nan
  else if exponent == 0 then
    if fraction == 0 then zero negative
    else normal negative fraction (1 - (f.bias : Int) - f.fractionBits)
  else
    normal negative (2 ^ f.fractionBits + fraction)
      ((exponent : Int) - f.bias - f.fractionBits)

/-- The word of a narrow format that comes closest from below in magnitude. -/
def narrowCandidate (f : Format) (x : Binary64) : Nat :=
  let sign := if x.isNegative then 2 ^ (f.exponentBits + f.fractionBits) else 0
  if x.exponentField == 2047 then sign + (2 ^ f.exponentBits - 1) * 2 ^ f.fractionBits
  else
    let (m, q) := x.magnitude
    let exponent : Int := (m.log2 : Int) + q + f.bias
    let shift := fun k : Int => if 0 ≤ k then m * 2 ^ k.toNat else m / 2 ^ (-k).toNat
    if 1 ≤ exponent then
      sign + exponent.toNat * 2 ^ f.fractionBits
        + shift ((f.fractionBits : Int) - m.log2) % 2 ^ f.fractionBits
    else
      sign + shift (q + f.bias + f.fractionBits - 1)

/-- The word of a narrow format that stands for exactly this number. -/
def narrow? (f : Format) (x : Binary64) : Option Nat :=
  let word := narrowCandidate f x
  if word < 2 ^ (1 + f.exponentBits + f.fractionBits) ∧ widen f word = x then some word else none

theorem widen_of_narrow? {f : Format} {x : Binary64} {w : Nat} (h : narrow? f x = some w) :
    widen f w = x := by
  simp only [narrow?] at h
  split at h
  · next hc => cases h; exact hc.2
  · cases h

theorem lt_of_narrow? {f : Format} {x : Binary64} {w : Nat} (h : narrow? f x = some w) :
    w < 2 ^ (1 + f.exponentBits + f.fractionBits) := by
  simp only [narrow?] at h
  split at h
  · next hc => cases h; exact hc.1
  · cases h

end Binary64
end LedgerFlow
