/-!
# Ranges of code points

Tables of Unicode properties list the ranges of code points that have the property.
-/

namespace LedgerFlow
namespace Text

/-- Whether a code point is in one of the ranges, their ends included. -/
def within (ranges : List (Nat × Nat)) (n : Nat) : Bool :=
  ranges.any fun r => r.1 ≤ n && n ≤ r.2

/-- The code points `first, first + stride, ...` up to `last`. -/
structure Progression where
  first : Nat
  last : Nat
  stride : Nat

/-- Whether a code point is in a progression. -/
def Progression.contains (p : Progression) (n : Nat) : Bool :=
  p.first ≤ n && n ≤ p.last && (n - p.first) % p.stride == 0

end Text
end LedgerFlow
