import LedgerFlow.Hash.Sha2

/-!
# Signatures over the twisted Edwards curve

Deterministic signatures over the curve `-x ^ 2 + y ^ 2 = 1 + d * x ^ 2 * y ^ 2` modulo
`2 ^ 255 - 19`.  A seed hashes to a scalar and a nonce key; a signature is a point and a scalar.
Verification refuses scalars that are not reduced and keys that are not on the curve; the
coordinate of a key may be written unreduced, and the sign of a zero is free.
-/

namespace LedgerFlow
namespace Ed25519

/-- The prime of the field. -/
def p : Nat := 2 ^ 255 - 19

/-- The order of the base point. -/
def order : Nat := 2 ^ 252 + 27742317777372353535851937790883648493

/-- A power modulo the prime of the field; the first argument bounds the bits of the exponent. -/
def powMod : Nat → Nat → Nat → Nat
  | 0, _, _ => 1
  | bits + 1, base, e =>
    let rest := powMod bits (base * base % p) (e / 2)
    if e % 2 == 1 then base * rest % p else rest

/-- The inverse of a nonzero field element. -/
def inverse (x : Nat) : Nat := powMod 255 x (p - 2)

/-- Difference of field elements. -/
def sub (x y : Nat) : Nat := (x + p - y) % p

/-- The constant of the curve. -/
def d : Nat := sub 0 (121665 * inverse 121666 % p)

/-- Twice the constant of the curve. -/
def twiceD : Nat := 16295367250680780974490674513165176452449235426866156013048779062215315747161

/-- A square root of minus one. -/
def rootOfMinusOne : Nat :=
  19681161376707505956807079304988542015446066515923890162744021073123829784752

/-- A point in extended coordinates: `x = X / Z`, `y = Y / Z`, `x * y = T / Z`. -/
structure Point where
  X : Nat
  Y : Nat
  Z : Nat
  T : Nat
  deriving Repr

/-- The neutral point. -/
def neutral : Point := ⟨0, 1, 1, 0⟩

/-- The base point. -/
def base : Point :=
  let x := 15112221349535400772501151409588531511454012693041857206046113283949847762202
  let y := 46316835694926478169428394003475163141307993866256225615783033603165251855960
  ⟨x, y, 1, x * y % p⟩

/-- Sum of points. -/
def add (P Q : Point) : Point :=
  let A := sub P.Y P.X * sub Q.Y Q.X % p
  let B := (P.Y + P.X) * (Q.Y + Q.X) % p
  let C := P.T * twiceD % p * Q.T % p
  let D := 2 * P.Z * Q.Z % p
  let E := sub B A
  let F := sub D C
  let G := (D + C) % p
  let H := (B + A) % p
  ⟨E * F % p, G * H % p, F * G % p, E * H % p⟩

/-- Twice a point. -/
def double (P : Point) : Point :=
  let A := P.X * P.X % p
  let B := P.Y * P.Y % p
  let C := 2 * P.Z * P.Z % p
  let H := (A + B) % p
  let s := P.X + P.Y
  let E := sub H (s * s % p)
  let G := sub A B
  let F := (C + G) % p
  ⟨E * F % p, G * H % p, F * G % p, E * H % p⟩

/-- A multiple of a point; the first argument bounds the bits of the factor. -/
def multiply : Nat → Nat → Point → Point
  | 0, _, _ => neutral
  | bits + 1, n, P =>
    let rest := multiply bits (n / 2) (double P)
    if n % 2 == 1 then add P rest else rest

/-- The bytes of a number, least significant first. -/
def littleEndian : Nat → Nat → Bytes
  | 0, _ => []
  | width + 1, n => UInt8.ofNat (n % 256) :: littleEndian width (n / 256)

@[simp]
theorem length_littleEndian (width n : Nat) : (littleEndian width n).length = width := by
  induction width generalizing n with
  | zero => rfl
  | succ width ih => rw [littleEndian, List.length_cons, ih]

/-- The number that bytes spell, least significant first. -/
def ofLittleEndian (bs : Bytes) : Nat :=
  bs.foldr (fun b n => b.toNat + 256 * n) 0

/-- A point as 32 bytes: its second coordinate, and the parity of the first in the top bit. -/
def compress (P : Point) : Bytes :=
  let z := inverse P.Z
  let x := P.X * z % p
  let y := P.Y * z % p
  littleEndian 32 (y + (if x % 2 == 1 then 2 ^ 255 else 0))

/-- The first coordinate of a point with the given second coordinate and parity. -/
def recoverX? (y : Nat) (odd : Bool) : Option Nat :=
  let u := sub (y * y % p) 1
  let v := (d * (y * y % p) + 1) % p
  let v3 := v * v % p * v % p
  let candidate := u * v3 % p * powMod 252 (u * (v3 * v3 % p * v % p) % p) ((p - 5) / 8) % p
  let square := v * (candidate * candidate % p) % p
  let root :=
    if square == u then some candidate
    else if square == sub 0 u then some (candidate * rootOfMinusOne % p)
    else none
  root.map fun x => if (x % 2 == 1) == odd then x else sub 0 x

/-- The point of 32 bytes, if they stand for one. -/
def decompress? (bs : Bytes) : Option Point := do
  let n := ofLittleEndian bs
  let y := n % 2 ^ 255 % p
  if bs.length != 32 then none
  else do
    let x ← recoverX? y (decide (2 ^ 255 ≤ n))
    pure ⟨x, y, 1, x * y % p⟩

/-- The scalar and the nonce key of a seed. -/
def expand (seed : Bytes) : Nat × Bytes :=
  let h := sha512 seed
  let n := ofLittleEndian (h.take 32)
  (2 ^ 254 + n % 2 ^ 254 / 8 * 8, h.drop 32)

/-- The public key of a seed. -/
def publicKey (seed : Bytes) : Bytes :=
  compress (multiply 256 (expand seed).1 base)

@[simp]
theorem length_publicKey (seed : Bytes) : (publicKey seed).length = 32 := length_littleEndian 32 _

/-- A hash as a scalar. -/
def scalarOfHash (parts : List Bytes) : Nat :=
  ofLittleEndian (sha512 parts.flatten) % order

/-- The signature of a message under a seed. -/
def sign (seed message : Bytes) : Bytes :=
  let (a, nonceKey) := expand seed
  let key := compress (multiply 256 a base)
  let r := scalarOfHash [nonceKey, message]
  let R := compress (multiply 256 r base)
  let k := scalarOfHash [R, key, message]
  R ++ littleEndian 32 ((r + k * a) % order)

/-- Whether a signature of a message is one under a public key. -/
def verify (key message signature : Bytes) : Bool :=
  let R := signature.take 32
  let s := ofLittleEndian (signature.drop 32)
  if signature.length != 64 || order ≤ s then false
  else match decompress? key with
    | none => false
    | some A =>
      let k := scalarOfHash [R, key, message]
      let negA : Point := ⟨sub 0 A.X, A.Y, A.Z, sub 0 A.T⟩
      compress (add (multiply 256 s base) (multiply 256 k negA)) == R

end Ed25519
end LedgerFlow
