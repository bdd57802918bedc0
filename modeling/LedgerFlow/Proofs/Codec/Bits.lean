import LedgerFlow.Binary64
import LedgerFlow.Codec.Bits
import Mathlib.Data.List.Induction

/-!
# Bits of numbers and bytes

The bits of a number spell the number modulo a power of two, bits that spell a number are the bits
of that number, and so the bits of bytes are regrouped into the same bytes.
-/

namespace LedgerFlow
namespace Bits

theorem toNat_append_singleton (bits : List Bool) (b : Bool) :
    toNat (bits ++ [b]) = 2 * toNat bits + b.toNat := by
  simp [toNat]

theorem toNat_lt (bits : List Bool) : toNat bits < 2 ^ bits.length := by
  induction bits using List.reverseRecOn with
  | nil => decide
  | append_singleton bits b ih =>
      have hb : b.toNat ≤ 1 := Bool.toNat_le b
      rw [toNat_append_singleton, List.length_append, List.length_singleton, Nat.pow_succ]
      omega

/-- Bits that spell a number are the bits of that number. -/
theorem ofNat_toNat (bits : List Bool) : ofNat bits.length (toNat bits) = bits := by
  induction bits using List.reverseRecOn with
  | nil => rfl
  | append_singleton bits b ih =>
      have hdiv : (2 * toNat bits + b.toNat) / 2 = toNat bits := by
        have hb : b.toNat ≤ 1 := Bool.toNat_le b
        omega
      have hmod : ((2 * toNat bits + b.toNat) % 2 == 1) = b := by
        cases b <;> simp
      rw [toNat_append_singleton, List.length_append, List.length_singleton, ofNat, hdiv, hmod, ih]

theorem toNat_ofNat (width n : Nat) : toNat (ofNat width n) = n % 2 ^ width := by
  induction width generalizing n with
  | zero => simp [ofNat, toNat, Nat.mod_one]
  | succ width ih =>
      have hbit : (n % 2 == 1).toNat = n % 2 := by
        rcases Nat.mod_two_eq_zero_or_one n with h | h <;> simp [h]
      rw [ofNat, toNat_append_singleton, ih, hbit, Nat.pow_succ, Nat.mul_comm (2 ^ width) 2,
        Nat.mod_mul]
      omega

/-- The bits of a number from a place on down. -/
theorem ofNat_eq_map_testBit (width n : Nat) :
    ofNat width n = (List.range width).reverse.map n.testBit := by
  induction width generalizing n with
  | zero => rfl
  | succ width ih =>
      have hlast : (n % 2 == 1) = n.testBit 0 := by
        simp [Nat.testBit_zero, beq_eq_decide]
      have hrest : n.testBit ∘ Nat.succ = (n / 2).testBit := funext (Nat.testBit_succ n)
      rw [ofNat, ih, hlast, List.range_succ_eq_map, List.reverse_cons, List.map_append,
        ← List.map_reverse, List.map_map, hrest]
      rfl

/-- The bits of a number are those of its upper and those of its lower part. -/
theorem ofNat_add (upper lower n : Nat) :
    ofNat (upper + lower) n = ofNat upper (n / 2 ^ lower) ++ ofNat lower n := by
  induction lower generalizing n with
  | zero => simp [ofNat]
  | succ lower ih =>
      rw [← Nat.add_assoc, ofNat, ih, ofNat, Nat.div_div_eq_div_mul, Nat.pow_succ,
        Nat.mul_comm 2, List.append_assoc]

theorem ofNat_mod (width n : Nat) : ofNat width (n % 2 ^ width) = ofNat width n := by
  rw [← toNat_ofNat]
  have hbits := ofNat_toNat (ofNat width n)
  rwa [length_ofNat] at hbits

/-- The eight bits of a byte, in front of others, are regrouped into that byte. -/
theorem toBytes_ofNat_append (b : UInt8) (rest : List Bool) :
    toBytes (ofNat 8 b.toNat ++ rest) = b :: toBytes rest := by
  have hbyte : toNat (ofNat 8 b.toNat) = b.toNat := by
    rw [toNat_ofNat]
    exact Nat.mod_eq_of_lt b.toNat_lt
  have hlength : (ofNat 8 b.toNat).length = 8 := length_ofNat 8 _
  -- All that counts is that there are eight bits and which number they spell.
  generalize ofNat 8 b.toNat = bits at hbyte hlength
  match bits, hlength with
  | [_, _, _, _, _, _, _, _], _ => simp [toBytes, hbyte]

@[simp] theorem ofBytes_nil : ofBytes [] = [] := rfl

@[simp] theorem ofBytes_cons (b : UInt8) (bs : List UInt8) :
    ofBytes (b :: bs) = ofNat 8 b.toNat ++ ofBytes bs := rfl

theorem ofBytes_append (bs bs' : List UInt8) : ofBytes (bs ++ bs') = ofBytes bs ++ ofBytes bs' :=
  List.flatMap_append

/-- Bytes are regrouped from their bits; fewer than eight bits after them do not matter. -/
theorem toBytes_ofBytes_append (bs : List UInt8) {rest : List Bool} (h : toBytes rest = []) :
    toBytes (ofBytes bs ++ rest) = bs := by
  induction bs with
  | nil => exact h
  | cons b bs ih => rw [ofBytes_cons, List.append_assoc, toBytes_ofNat_append, ih]

end Bits
end LedgerFlow
