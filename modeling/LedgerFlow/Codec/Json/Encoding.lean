import LedgerFlow.Codec.Json.Reader
import LedgerFlow.Codec.Utf8

/-!
# Encodings of JSON texts

A JSON text may travel in any of the three encoding forms of Unicode, with either order of bytes.
It starts with ASCII characters, so the zeros among its first four bytes tell which one it is.  A
surrogate without its partner is read as the replacement character.
-/

namespace LedgerFlow
namespace Json

/-- How the characters of a text are bytes. -/
inductive Encoding where
  | bytes
  /-- Units of two bytes, the high one first or last. -/
  | pairs ( highFirst : Bool)
  /-- Units of four bytes, the high one first or last. -/
  | fours ( highFirst : Bool)
  deriving DecidableEq, Repr

/-- The encoding of a JSON text. -/
def Encoding.ofText : Bytes → Encoding
  | [a, b] => if a == 0 then .pairs true else if b == 0 then .pairs false else .bytes
  | a :: b :: c :: d :: _ =>
    if a == 0 then (if b == 0 then .fours true else .pairs true)
    else if b == 0 then (if c == 0 && d == 0 then .fours false else .pairs false)
    else .bytes
  | _ => .bytes

/-- A number of two bytes. -/
def pairNumber ( highFirst : Bool) (a b : UInt8) : Nat :=
  if highFirst then 256 * a.toNat + b.toNat else 256 * b.toNat + a.toNat

/-- The units of bytes that come in pairs. -/
def pairs? ( highFirst : Bool) : Bytes → Option (List Nat)
  | [] => some []
  | a :: b :: rest => (pairs? highFirst rest).map (pairNumber highFirst a b :: ·)
  | [_] => none

/-- The units of bytes that come in fours. -/
def fours? ( highFirst : Bool) : Bytes → Option (List Nat)
  | [] => some []
  | a :: b :: c :: d :: rest =>
    let first := pairNumber highFirst a b
    let second := pairNumber highFirst c d
    let n := if highFirst then 65536 * first + second else 65536 * second + first
    (fours? highFirst rest).map (n :: ·)
  | _ => none

/-- A character by its number; a surrogate becomes the replacement character. -/
def replaced (n : Nat) : Char := if 0xD800 ≤ n && n < 0xE000 then Char.ofNat 0xFFFD else Char.ofNat n

/-- The characters of units of two bytes; two surrogates that belong together are one character. -/
def charsOfPairs : List Nat → List Char
  | [] => []
  | [n] => [replaced n]
  | n :: m :: rest =>
    if 0xD800 ≤ n && n < 0xDC00 && 0xDC00 ≤ m && m < 0xE000 then
      Char.ofNat (0x10000 + (n - 0xD800) * 0x400 + (m - 0xDC00)) :: charsOfPairs rest
    else replaced n :: charsOfPairs (m :: rest)

/-- The text of bytes in an encoding. -/
def Encoding.decode? : Encoding → Bytes → Option String
  | .bytes, bs => Utf8.decode? bs
  | .pairs order, bs => (pairs? order bs).map fun ns => String.ofList (charsOfPairs ns)
  | .fours order, bs => do
    let ns ← fours? order bs
    if ns.all (· ≤ 0x10FFFF) then pure (String.ofList (ns.map replaced)) else none

/-- A text without a mark of its encoding. -/
def withoutMark (s : String) : String :=
  match s.toList with
  | '\ufeff' :: rest => String.ofList rest
  | _ => s

/-- The value of a JSON text in any encoding. -/
def parseBytes (bs : Bytes) : Except Refusal Value :=
  match (Encoding.ofText bs).decode? bs with
  | some s => parse (if Encoding.ofText bs = .bytes then withoutMark s else s)
  | none => .error .illFormed

end Json
end LedgerFlow
