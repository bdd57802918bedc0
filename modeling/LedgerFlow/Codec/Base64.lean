import LedgerFlow.Value
import LedgerFlow.Codec.Bits

/-!
# Base-64 text

The standard alphabet, six bits each, in groups of four with padding.  Reading is strict: nothing
but digits, and padding to complete the last group.  Padding after a last group that is complete
without it is free, and so are unused low bits of the last digit.
-/

namespace LedgerFlow
namespace Base64

/-- The digit for a number below sixty-four. -/
def symbol (n : Nat) : Char :=
  if n < 26 then Char.ofNat (65 + n)
  else if n < 52 then Char.ofNat (71 + n)
  else if n < 62 then Char.ofNat (n - 4)
  else if n == 62 then '+' else '/'

/-- The number of a digit. -/
def value? (c : Char) : Option Nat :=
  if 'A' ≤ c ∧ c ≤ 'Z' then some (c.toNat - 65)
  else if 'a' ≤ c ∧ c ≤ 'z' then some (c.toNat - 71)
  else if '0' ≤ c ∧ c ≤ '9' then some (c.toNat + 4)
  else if c == '+' then some 62
  else if c == '/' then some 63
  else none

/-- The padding after so many digits. -/
def padding (digits : Nat) : List Char :=
  List.replicate ((4 - digits % 4) % 4) '='

/-- The text of bytes, as characters. -/
def encodeList (bs : Bytes) : List Char :=
  let digits := (Bits.sextets (Bits.ofBytes bs)).map symbol
  digits ++ padding digits.length

/-- The text of bytes. -/
def encode (bs : Bytes) : String := String.ofList (encodeList bs)

/-- The bits of digits, with the padding of the last group, or after it if it needs none. -/
def bits? : List Char → Option (List Bool)
  | [] => some []
  | [a, b, '=', '='] => do
    let x ← value? a
    let y ← value? b
    pure (Bits.ofNat 6 x ++ (Bits.ofNat 6 y).take 2)
  | [a, b, c, '='] => do
    let x ← value? a
    let y ← value? b
    let z ← value? c
    pure (Bits.ofNat 6 x ++ Bits.ofNat 6 y ++ (Bits.ofNat 6 z).take 4)
  | a :: b :: c :: d :: rest => do
    let x ← value? a
    let y ← value? b
    let z ← value? c
    let w ← value? d
    let more ← if rest.all (· == '=') then some [] else bits? rest
    pure (Bits.ofNat 6 x ++ Bits.ofNat 6 y ++ Bits.ofNat 6 z ++ Bits.ofNat 6 w ++ more)
  | _ => none

/-- The bytes of a text given as characters. -/
def decodeList? (cs : List Char) : Option Bytes := (bits? cs).map Bits.toBytes

/-- The bytes of a text. -/
def decode? (s : String) : Option Bytes := decodeList? s.toList

theorem value?_symbol : ∀ n < 64, value? (symbol n) = some n := by decide

end Base64
end LedgerFlow
