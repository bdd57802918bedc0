import LedgerFlow.Text.Quoted
import LedgerFlow.Value

/-!
# Hexadecimal text

Two lower-case digits for each byte.
-/

namespace LedgerFlow
namespace Hex

/-- The text of bytes. -/
def encode (bs : Bytes) : String :=
  String.ofList (bs.flatMap fun b => Text.hexDigits 2 b.toNat)

/-- The value of a digit of either case. -/
def digit? (c : Char) : Option Nat :=
  if '0' ≤ c ∧ c ≤ '9' then some (c.toNat - 48)
  else if 'a' ≤ c ∧ c ≤ 'f' then some (c.toNat - 87)
  else if 'A' ≤ c ∧ c ≤ 'F' then some (c.toNat - 55)
  else none

/-- The number that digits spell. -/
def number? (cs : List Char) : Option Nat :=
  cs.foldlM (fun n c => (digit? c).map (16 * n + ·)) 0

/-- The bytes of pairs of digits. -/
def decodeList? : List Char → Option Bytes
  | [] => some []
  | a :: b :: rest => do
    let hi ← digit? a
    let lo ← digit? b
    let bs ← decodeList? rest
    pure (UInt8.ofNat (16 * hi + lo) :: bs)
  | _ => none

/-- The bytes of a text. -/
def decode? (s : String) : Option Bytes := decodeList? s.toList

end Hex
end LedgerFlow
