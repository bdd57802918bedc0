import LedgerFlow.Binary64.Narrow
import LedgerFlow.Codec.Utf8

/-!
# Canonical binary payloads

The canonical form of a value in the concise binary object representation: the shortest head for
every integer and length, big integers beyond 64 bits, floating point numbers in the shortest format
that keeps the value, one NaN, definite lengths, and map entries ordered by the length of the
encoded key and then by its bytes.  Equal values give equal bytes.
-/

namespace LedgerFlow
namespace Cbor

/-- The last `width` bytes of a number, most significant first. -/
def bigEndian : Nat → Nat → Bytes
  | 0, _ => []
  | width + 1, n => bigEndian width (n / 256) ++ [UInt8.ofNat (n % 256)]

/-- How many bytes a number needs. -/
def byteLength (n : Nat) : Nat := if n == 0 then 0 else n.log2 / 8 + 1

/-- The bytes of a number without leading zeros. -/
def minimalBytes (n : Nat) : Bytes := bigEndian (byteLength n) n

/-- A head: three bits of type, and a number below `2 ^ 64` in as few bytes as possible. -/
def head (major n : Nat) : Bytes :=
  let lead := fun low : Nat => UInt8.ofNat (32 * major + low)
  if n < 24 then [lead n]
  else if n < 2 ^ 8 then lead 24 :: bigEndian 1 n
  else if n < 2 ^ 16 then lead 25 :: bigEndian 2 n
  else if n < 2 ^ 32 then lead 26 :: bigEndian 4 n
  else lead 27 :: bigEndian 8 n

/-- A byte string. -/
def byteString (bs : Bytes) : Bytes := head 2 bs.length ++ bs

/-- A text string. -/
def textString (s : String) : Bytes :=
  let bs := Utf8.encode s
  head 3 bs.length ++ bs

/-- An integer of any size: a magnitude beyond 64 bits stands as bytes after a tag. -/
def integer (n : Int) : Bytes :=
  if 0 ≤ n then
    let m := n.toNat
    if m < 2 ^ 64 then head 0 m else head 6 2 ++ byteString (minimalBytes m)
  else
    let m := (-1 - n).toNat
    if m < 2 ^ 64 then head 1 m else head 6 3 ++ byteString (minimalBytes m)

/-- A floating point number in the shortest format that keeps it. -/
def real (x : Binary64) : Bytes :=
  if x.isNaN then [0xF9, 0x7E, 0x00]
  else match Binary64.narrow? Binary64.half x with
    | some w => 0xF9 :: bigEndian 2 w
    | none =>
      match Binary64.narrow? Binary64.single x with
      | some w => 0xFA :: bigEndian 4 w
      | none => 0xFB :: bigEndian 8 x.bits.toNat

/-- The order of byte sequences, position by position. -/
def bytesLe : Bytes → Bytes → Bool
  | [], _ => true
  | _ :: _, [] => false
  | a :: as, b :: bs => a < b || (a == b && bytesLe as bs)

/-- The canonical order of map entries, given by their encoded keys. -/
def keyLe (a b : Bytes × Bytes) : Bool :=
  a.1.length < b.1.length || (a.1.length == b.1.length && bytesLe a.1 b.1)

/-- Puts an entry before the first one whose key does not come before its own. -/
def place (e : Bytes × Bytes) : List (Bytes × Bytes) → List (Bytes × Bytes)
  | [] => [e]
  | other :: rest => if keyLe e other then e :: other :: rest else other :: place e rest

/-- Entries in canonical order. -/
@[irreducible]
def inOrder (entries : List (Bytes × Bytes)) : List (Bytes × Bytes) := entries.foldr place []

variable {ο : Type} [Objects ο]

mutual

/-- The canonical bytes of a value. -/
def encode : Value ο → Bytes
  | .null => [0xF6]
  | .bool b => [if b then 0xF5 else 0xF4]
  | .int n => integer n
  | .float x => real x
  | .text s => textString s
  | .bytes b => byteString b
  | .list items => head 4 items.length ++ encodeItems items
  | .map entries =>
    head 5 entries.length
      ++ (inOrder (encodeEntries entries)).flatMap fun e => e.1 ++ e.2
  | .object o => Objects.bytes o

/-- The bytes of items one after another. -/
def encodeItems : List (Value ο) → Bytes
  | [] => []
  | x :: xs => encode x ++ encodeItems xs

/-- The bytes of keys and values. -/
def encodeEntries : List (Value ο × Value ο) → List (Bytes × Bytes)
  | [] => []
  | (k, v) :: rest => (encode k, encode v) :: encodeEntries rest

end

end Cbor
end LedgerFlow
