import LedgerFlow.Value
import LedgerFlow.Codec.Bits

/-!
# Base-32 text

Upper-case letters and the digits two to seven, five bits each, without padding.
-/

namespace LedgerFlow
namespace Base32

/-- The digit for a number below thirty-two. -/
def symbol (n : Nat) : Char :=
  if n < 26 then Char.ofNat (65 + n) else Char.ofNat (24 + n)

/-- The number of a digit. -/
def value? (c : Char) : Option Nat :=
  if 'A' ≤ c ∧ c ≤ 'Z' then some (c.toNat - 65)
  else if '2' ≤ c ∧ c ≤ '7' then some (c.toNat - 24)
  else none

/-- The digits of bytes. -/
def encode (bs : Bytes) : List Char :=
  (Bits.quintets (Bits.ofBytes bs)).map symbol

/-- The padding marks that complete a group of eight digits, where the group can be an end. -/
def isPadding (n : Nat) : Bool := n == 0 || n == 1 || n == 3 || n == 4 || n == 6

/-- The padding marks that a text of the given length lacks. -/
def lacking (length : Nat) : Nat := (8 - length % 8) % 8

/-- The bytes of digits.  Padding marks at the end count towards the length; bits beyond the last
complete byte are dropped. -/
def decode? (cs : List Char) : Option Bytes := do
  let digits := (cs.reverse.dropWhile (· == '=')).reverse
  let padding := cs.length + lacking cs.length - digits.length
  let values ← digits.mapM value?
  if isPadding padding then
    pure (Bits.toBytes (values.flatMap (Bits.ofNat 5)))
  else none

theorem value?_symbol : ∀ n < 32, value? (symbol n) = some n := by decide

end Base32
end LedgerFlow
