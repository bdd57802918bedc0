/-!
# Bits of byte sequences

A byte sequence as bits, most significant first, and back.  The text codecs regroup these bits:
five for a base-32 digit, six for a base-64 digit.
-/

namespace LedgerFlow
namespace Bits

/-- The number that bits spell, most significant first. -/
def toNat (bits : List Bool) : Nat :=
  bits.foldl (fun n b => 2 * n + b.toNat) 0

/-- The last `width` bits of a number. -/
def ofNat : Nat → Nat → List Bool
  | 0, _ => []
  | width + 1, n => ofNat width (n / 2) ++ [n % 2 == 1]

/-- The bits of bytes. -/
def ofBytes (bs : List UInt8) : List Bool :=
  bs.flatMap fun b => ofNat 8 b.toNat

/-- The complete bytes of a sequence of bits; fewer than eight bits at the end are dropped. -/
def toBytes : List Bool → List UInt8
  | a :: b :: c :: d :: e :: f :: g :: h :: rest =>
    UInt8.ofNat (toNat [a, b, c, d, e, f, g, h]) :: toBytes rest
  | _ => []

/-- A group of bits filled up with zeros at its end. -/
def fill (width : Nat) (bits : List Bool) : List Bool :=
  bits ++ List.replicate (width - bits.length) false

/-- Groups of five bits, the last one filled up. -/
def quintets : List Bool → List Nat
  | a :: b :: c :: d :: e :: rest => toNat [a, b, c, d, e] :: quintets rest
  | [] => []
  | short => [toNat (fill 5 short)]

/-- Groups of six bits, the last one filled up. -/
def sextets : List Bool → List Nat
  | a :: b :: c :: d :: e :: f :: rest => toNat [a, b, c, d, e, f] :: sextets rest
  | [] => []
  | short => [toNat (fill 6 short)]

@[simp]
theorem length_ofNat (width n : Nat) : (ofNat width n).length = width := by
  induction width generalizing n with
  | zero => rfl
  | succ w ih => simp [ofNat, ih]

end Bits
end LedgerFlow
