import LedgerFlow.Proofs.Hash.Crc16
import Mathlib.Algebra.CharP.Two
import Mathlib.Algebra.Field.ZMod
import Mathlib.Algebra.Polynomial.Div
import Mathlib.Tactic.ComputeDegree
import Mathlib.Tactic.LinearCombination

/-!
# The checksum as a remainder of polynomials

Bits spell a polynomial over the field of two elements, the most significant bit first
(`Bits.polynomial`).  Feeding one bit to a remainder multiplies its polynomial by `X`, adds the bit at
`X ^ 16`, and takes off the divisor if that place is then occupied (`residue_feed`).  A run of bits is
therefore long division: what was taken off is a multiple of the divisor, and what is left has a lower
degree (`residue_run`).

The main statement `checksum_divides` says which number the checksum of a byte sequence is, that it is
additive, and that a sequence followed by its own checksum leaves no remainder.
-/

namespace LedgerFlow

open Polynomial

/-! ## Polynomials of bits -/

namespace Bits

/-- A bit as an element of the field of two elements. -/
def coefficient (bit : Bool) : ZMod 2 := if bit then 1 else 0

theorem coefficient_xor (a b : Bool) : coefficient (a ^^ b) = coefficient a + coefficient b := by
  cases a <;> cases b <;> decide

theorem coefficient_injective : Function.Injective coefficient := by
  decide

/-- The polynomial that bits spell, most significant first. -/
noncomputable def polynomial (bits : List Bool) : (ZMod 2)[X] :=
  bits.foldl (fun p bit => p * X + C (coefficient bit)) 0

theorem polynomial_append_singleton (bits : List Bool) (bit : Bool) :
    polynomial (bits ++ [bit]) = polynomial bits * X + C (coefficient bit) := by
  simp [polynomial]

theorem polynomial_append (bits bits' : List Bool) :
    polynomial (bits ++ bits') = polynomial bits * X ^ bits'.length + polynomial bits' := by
  induction bits' using List.reverseRecOn with
  | nil => simp [polynomial]
  | append_singleton bits' bit ih =>
      rw [← List.append_assoc, polynomial_append_singleton, ih, polynomial_append_singleton,
        List.length_append, List.length_singleton]
      ring

/-- The coefficients of the polynomial of a number are its bits. -/
theorem coeff_polynomial_ofNat (width n i : Nat) :
    (polynomial (ofNat width n)).coeff i = coefficient (decide (i < width) && n.testBit i) := by
  induction width generalizing n i with
  | zero => simp [ofNat, polynomial, coefficient]
  | succ width ih =>
      have hlast : (n % 2 == 1) = n.testBit 0 := by
        simp [Nat.testBit_zero, beq_eq_decide]
      rw [ofNat, polynomial_append_singleton, coeff_add, hlast]
      cases i with
      | zero => simp
      | succ i => simp [coeff_mul_X, ih, coeff_C_succ, Nat.testBit_succ]

end Bits

namespace Crc16

open Bits

variable {c c' : BitVec 16}

/-! ## Remainders as polynomials -/

/-- The polynomial that is divided by. -/
noncomputable def divisor : (ZMod 2)[X] := X ^ 16 + X ^ 12 + X ^ 5 + 1

theorem divisor_monic : divisor.Monic := by
  unfold divisor
  monicity!

theorem degree_divisor : divisor.degree = 16 := by
  unfold divisor
  compute_degree!

/-- A remainder as a polynomial. -/
noncomputable def residue (c : BitVec 16) : (ZMod 2)[X] := polynomial (Bits.ofNat 16 c.toNat)

theorem coeff_residue (c : BitVec 16) (i : Nat) :
    (residue c).coeff i = coefficient (c.getLsbD i) := by
  rw [residue, coeff_polynomial_ofNat, BitVec.testBit_toNat]
  by_cases hi : i < 16
  · simp [hi]
  · simp [hi, BitVec.getLsbD_of_ge c i (Nat.le_of_not_lt hi)]

theorem residue_injective (h : residue c = residue c') : c = c' := by
  apply BitVec.eq_of_getLsbD_eq
  intro i _
  apply coefficient_injective
  rw [← coeff_residue, ← coeff_residue, h]

theorem degree_residue_lt (c : BitVec 16) : (residue c).degree < divisor.degree := by
  rw [degree_divisor]
  refine (degree_lt_iff_coeff_zero _ 16).2 fun i hi => ?_
  rw [coeff_residue, BitVec.getLsbD_of_ge c i hi]
  rfl

theorem residue_zero : residue 0 = 0 := by
  ext i
  rw [coeff_residue, coeff_zero]
  exact congrArg coefficient BitVec.getLsbD_zero

theorem residue_xor (c c' : BitVec 16) : residue (c ^^^ c') = residue c + residue c' := by
  ext i
  rw [coeff_add, coeff_residue, coeff_residue, coeff_residue, BitVec.getLsbD_xor, coefficient_xor]

/-- The highest bit on its own. -/
theorem residue_high (bit : Bool) :
    residue (if bit then 0x8000 else 0) = C (coefficient bit) * X ^ 15 := by
  cases bit with
  | false => exact residue_zero.trans (by simp [coefficient])
  | true =>
      have hbits : Bits.ofNat 16 0x8000 = true :: List.replicate 15 false := by decide
      show polynomial (Bits.ofNat 16 0x8000) = _
      rw [hbits]
      simp [polynomial, coefficient, List.replicate]
      ring

theorem residue_generator : residue generator + X ^ 16 = divisor := by
  have hbits : Bits.ofNat 16 generator.toNat =
      [false, false, false, true, false, false, false, false, false, false, true, false, false, false,
        false, true] := by
    decide
  rw [residue, hbits, divisor]
  simp [polynomial, coefficient]
  ring

/-! ## Division -/

/-- Moving a remainder up multiplies by `X`, but for the bit that falls out. -/
theorem residue_shiftLeft (c : BitVec 16) :
    residue (c <<< 1) + C (coefficient c.msb) * X ^ 16 = residue c * X := by
  ext i
  rw [coeff_add, coeff_residue, coeff_C_mul_X_pow, BitVec.getLsbD_shiftLeft]
  cases i with
  | zero => simp [coefficient]
  | succ i =>
      rw [coeff_mul_X, coeff_residue]
      rcases Nat.lt_trichotomy i 15 with hi | rfl | hi
      · have hlt : i + 1 < 16 := by omega
        have hne : i + 1 ≠ 16 := by omega
        simp [hlt, hne]
      · rw [BitVec.msb_eq_getLsbD_last]
        simp [coefficient]
      · have hge : ¬ i + 1 < 16 := by omega
        have hne : i + 1 ≠ 16 := by omega
        simp [hge, hne, BitVec.getLsbD_of_ge c i (by omega), coefficient]

/-- One shift multiplies by `X` and takes off the divisor if the highest bit falls out. -/
theorem residue_shift (c : BitVec 16) :
    residue (shift c) + divisor * C (coefficient c.msb) = residue c * X := by
  rw [← residue_shiftLeft, shift]
  cases c.msb with
  | false => simp [coefficient]
  | true =>
      rw [if_pos rfl, residue_xor, ← residue_generator]
      have hone : C (coefficient true) = (1 : (ZMod 2)[X]) := C_1
      have hcancel := CharTwo.add_self_eq_zero (residue generator)
      rw [hone, mul_one, one_mul]
      linear_combination hcancel

theorem residue_feed (c : BitVec 16) (bit : Bool) :
    ∃ quotient, residue (feed c bit) + divisor * quotient =
      residue c * X + C (coefficient bit) * X ^ 16 := by
  have hshift := residue_shift (c ^^^ if bit then 0x8000 else 0)
  rw [residue_xor, residue_high] at hshift
  refine ⟨C (coefficient (c ^^^ if bit then 0x8000 else 0).msb), ?_⟩
  rw [feed, hshift]
  ring

/-- **Long division.**  After a run of bits the remainder differs by a multiple of the divisor from what
it was, moved up by the length of the run, and the bits. -/
theorem residue_run (c : BitVec 16) (bits : List Bool) :
    ∃ quotient, residue (run c bits) + divisor * quotient =
      residue c * X ^ bits.length + polynomial bits * X ^ 16 := by
  induction bits using List.reverseRecOn with
  | nil => exact ⟨0, by simp [polynomial]⟩
  | append_singleton bits bit ih =>
      obtain ⟨quotient, hrun⟩ := ih
      obtain ⟨digit, hfeed⟩ := residue_feed (run c bits) bit
      refine ⟨quotient * X + digit, ?_⟩
      rw [run_append, run_cons, run_nil, polynomial_append_singleton, List.length_append,
        List.length_singleton]
      linear_combination hfeed + X * hrun

/-- A sequence of bits leaves the remainder of its polynomial. -/
theorem residue_run_zero (bits : List Bool) :
    residue (run 0 bits) = (polynomial bits * X ^ 16) %ₘ divisor := by
  obtain ⟨quotient, hrun⟩ := residue_run 0 bits
  rw [residue_zero, zero_mul, zero_add] at hrun
  rw [← hrun, add_modByMonic, self_mul_modByMonic divisor_monic, add_zero,
    (modByMonic_eq_self_iff divisor_monic).2 (degree_residue_lt _)]

theorem residue_remainder (bs : Bytes) :
    residue (remainder bs) = (polynomial (Bits.ofBytes bs) * X ^ 16) %ₘ divisor := by
  rw [remainder_eq_run, residue_run_zero]

/-! ## Sums -/

theorem step_xor (c c' : BitVec 16) (b b' : UInt8) :
    step (c ^^^ c') (b ^^^ b') = step c b ^^^ step c' b' := by
  rw [step, step, step, ← shifts_xor, UInt8.toBitVec_xor, BitVec.setWidth_xor,
    BitVec.shiftLeft_xor_distrib]
  ac_rfl

/-- Remainders of byte sequences of one length are linear in exclusive or. -/
theorem remainder_xor {bs bs' : Bytes} (hlength : bs.length = bs'.length) :
    remainder (bs.zipWith (· ^^^ ·) bs') = remainder bs ^^^ remainder bs' := by
  have hfold : ∀ c c', (bs.zipWith (· ^^^ ·) bs').foldl step (c ^^^ c') =
      bs.foldl step c ^^^ bs'.foldl step c' := by
    induction bs generalizing bs' with
    | nil =>
        cases bs' with
        | nil => exact fun _ _ => rfl
        | cons b' bs' => cases hlength
    | cons b bs ih =>
        cases bs' with
        | nil => cases hlength
        | cons b' bs' =>
            intro c c'
            rw [List.zipWith_cons_cons, List.foldl_cons, step_xor, ih (Nat.succ.inj hlength)]
            rfl
  exact hfold 0 0

/-! ## A sequence and its checksum -/

/-- The checksum as two bytes, the high one first. -/
def bigEndian (bs : Bytes) : Bytes := (littleEndian bs).reverse

theorem ofBytes_bigEndian (bs : Bytes) :
    Bits.ofBytes (bigEndian bs) = Bits.ofNat 16 (checksum bs) := by
  have hhigh : (UInt8.ofNat (checksum bs / 256)).toNat = checksum bs / 2 ^ 8 := by
    have hlt := checksum_lt bs
    simp
    omega
  have hlow : (UInt8.ofNat (checksum bs % 256)).toNat = checksum bs % 2 ^ 8 := by
    simp
  show Bits.ofBytes [UInt8.ofNat (checksum bs / 256), UInt8.ofNat (checksum bs % 256)] = _
  rw [Bits.ofBytes_cons, Bits.ofBytes_cons, Bits.ofBytes_nil, List.append_nil, hhigh, hlow,
    Bits.ofNat_mod, ← Bits.ofNat_add]

/-- The remainder differs from what is divided by a multiple of the divisor, and here a difference is a
sum. -/
theorem remainder_append_bigEndian (bs : Bytes) : remainder (bs ++ bigEndian bs) = 0 := by
  have hwhole : polynomial (Bits.ofBytes (bs ++ bigEndian bs)) =
      polynomial (Bits.ofBytes bs) * X ^ 16 + residue (remainder bs) := by
    rw [ofBytes_append, polynomial_append, ofBytes_bigEndian, length_ofNat, residue, checksum]
  have hdvd : divisor ∣ polynomial (Bits.ofBytes (bs ++ bigEndian bs)) := by
    rw [hwhole, residue_remainder, add_comm, ← CharTwo.sub_eq_add]
    exact dvd_modByMonic_sub _ _
  apply residue_injective
  rw [residue_remainder, residue_zero, modByMonic_eq_zero_iff_dvd divisor_monic]
  exact hdvd.mul_right _

/-- **The checksum is the remainder of a division.**  It is the one number below `2 ^ 16` whose bits
spell the remainder of the bytes, moved up by sixteen places, modulo the divisor.  Hence it is additive
for sequences of one length, and a sequence followed by its own checksum, the high byte first, has
checksum zero. -/
theorem checksum_divides (bs : Bytes) :
    (∀ n, checksum bs = n ↔ n < 2 ^ 16 ∧ polynomial (Bits.ofNat 16 n) =
      (polynomial (Bits.ofBytes bs) * X ^ 16) %ₘ (X ^ 16 + X ^ 12 + X ^ 5 + 1)) ∧
    (∀ bs' : Bytes, bs.length = bs'.length →
      checksum (bs.zipWith (· ^^^ ·) bs') = checksum bs ^^^ checksum bs') ∧
    checksum (bs ++ bigEndian bs) = 0 := by
  refine ⟨fun n => ?_, fun bs' hlength => ?_, ?_⟩
  · constructor
    · rintro rfl
      have hresidue := residue_remainder bs
      rw [residue, divisor] at hresidue
      exact ⟨checksum_lt bs, hresidue⟩
    · rintro ⟨hn, hbits⟩
      have hnumber : (BitVec.ofNat 16 n).toNat = n := by
        rw [BitVec.toNat_ofNat, Nat.mod_eq_of_lt hn]
      have hresidue : residue (remainder bs) = residue (BitVec.ofNat 16 n) := by
        rw [residue_remainder, residue, hnumber, hbits, divisor]
      rw [checksum, residue_injective hresidue, hnumber]
  · rw [checksum, remainder_xor hlength, BitVec.toNat_xor]
    rfl
  · rw [checksum, remainder_append_bigEndian]
    rfl

/-- The digits from one to nine, and the same ones backwards. -/
theorem checksum_divides_digits :
    let digits : Bytes := [0x31, 0x32, 0x33, 0x34, 0x35, 0x36, 0x37, 0x38, 0x39]
    digits.length = digits.reverse.length ∧ checksum digits = 0x31C3 ∧
      checksum (digits.zipWith (· ^^^ ·) digits.reverse) =
        checksum digits ^^^ checksum digits.reverse :=
  ⟨rfl, by decide +kernel, (checksum_divides _).2.1 _ rfl⟩

end Crc16
end LedgerFlow
