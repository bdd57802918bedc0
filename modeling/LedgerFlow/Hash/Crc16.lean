import LedgerFlow.Value

/-!
# Sixteen-bit checksum

A cyclic redundancy check with the generator `x ^ 16 + x ^ 12 + x ^ 5 + 1`: bits most significant
first, the remainder starting at zero.  One shift of the remainder is linear in exclusive or.
-/

namespace LedgerFlow
namespace Crc16

/-- The generator without its leading term. -/
def generator : BitVec 16 := 0x1021

/-- One shift of the remainder, reduced by the generator. -/
def shift (c : BitVec 16) : BitVec 16 :=
  if c.msb then (c <<< 1) ^^^ generator else c <<< 1

/-- Several shifts of the remainder. -/
def shifts : Nat → BitVec 16 → BitVec 16
  | 0, c => c
  | n + 1, c => shifts n (shift c)

/-- The remainder after one more byte. -/
def step (c : BitVec 16) (b : UInt8) : BitVec 16 :=
  shifts 8 (c ^^^ (b.toBitVec.setWidth 16 <<< 8))

/-- The remainder of a byte sequence. -/
def remainder (bs : Bytes) : BitVec 16 := bs.foldl step 0

/-- The checksum as a number. -/
def checksum (bs : Bytes) : Nat := (remainder bs).toNat

/-- The checksum as two bytes, the low one first. -/
def littleEndian (bs : Bytes) : Bytes :=
  let c := checksum bs
  [UInt8.ofNat (c % 256), UInt8.ofNat (c / 256)]

theorem checksum_lt (bs : Bytes) : checksum bs < 2 ^ 16 := (remainder bs).isLt

end Crc16
end LedgerFlow
