import LedgerFlow.Codec.Base32
import LedgerFlow.Proofs.Codec.Bits

/-!
# Base-32 text read back

The text of bytes is read back as the same bytes (`decode?_encode`), and has no padding marks in it.

Five bits are one digit, so the digits stand for the bits of the bytes with fewer than five zeros after
them (`flatMap_ofNat_quintets`), and those are no byte of their own.  How many digits there are, and so
which padding they lack, depends on the number of bytes modulo five.
-/

namespace LedgerFlow
namespace Bits

/-- A last group is short. -/
theorem length_lt_of_short {short : List Bool}
    (h : ∀ a b c d e rest, short = a :: b :: c :: d :: e :: rest → False) : short.length < 5 := by
  match short, h with
  | [], _ | [_], _ | [_, _], _ | [_, _, _], _ | [_, _, _, _], _ => simp
  | a :: b :: c :: d :: e :: rest, h => exact (h a b c d e rest rfl).elim

theorem length_fill {width : Nat} {bits : List Bool} (h : bits.length ≤ width) :
    (fill width bits).length = width := by
  rw [fill, List.length_append, List.length_replicate]
  omega

/-- Groups of five bits stand for the bits, and for the zeros that fill up the last group. -/
theorem flatMap_ofNat_quintets (bits : List Bool) :
    ∃ k < 5, (quintets bits).flatMap (ofNat 5) = bits ++ List.replicate k false := by
  fun_induction quintets bits with
  | case1 a b c d e rest ih =>
      obtain ⟨k, hk, hrest⟩ := ih
      have hgroup : ofNat 5 (toNat [a, b, c, d, e]) = [a, b, c, d, e] :=
        ofNat_toNat [a, b, c, d, e]
      refine ⟨k, hk, ?_⟩
      rw [List.flatMap_cons, hrest, hgroup]
      rfl
  | case2 => exact ⟨0, by decide, rfl⟩
  | case3 short hlong hnil =>
      have hshort := length_lt_of_short hlong
      have hpos : 0 < short.length := List.length_pos_iff.2 hnil
      have hgroup := ofNat_toNat (fill 5 short)
      rw [length_fill (by omega)] at hgroup
      refine ⟨5 - short.length, by omega, ?_⟩
      rw [List.flatMap_singleton, hgroup, fill]

theorem lt_of_mem_quintets {bits : List Bool} {n : Nat} (h : n ∈ quintets bits) : n < 32 := by
  fun_induction quintets bits with
  | case1 a b c d e rest ih =>
      rcases List.mem_cons.1 h with rfl | h
      · exact toNat_lt [a, b, c, d, e]
      · exact ih h
  | case2 => cases h
  | case3 short hlong hnil =>
      have hshort := length_lt_of_short hlong
      have hlt := toNat_lt (fill 5 short)
      rw [length_fill (by omega)] at hlt
      rw [List.mem_singleton.1 h]
      exact hlt

/-- There is a group for every five bits and one for what is left. -/
theorem length_quintets (bits : List Bool) : (quintets bits).length = (bits.length + 4) / 5 := by
  fun_induction quintets bits with
  | case1 a b c d e rest ih =>
      simp only [List.length_cons, ih]
      omega
  | case2 => rfl
  | case3 short hlong hnil =>
      have hshort := length_lt_of_short hlong
      have hpos : 0 < short.length := List.length_pos_iff.2 hnil
      rw [List.length_singleton]
      omega

theorem length_ofBytes (bs : List UInt8) : (ofBytes bs).length = 8 * bs.length := by
  induction bs with
  | nil => rfl
  | cons b bs ih =>
      rw [ofBytes_cons, List.length_append, length_ofNat, ih, List.length_cons]
      omega

/-- Fewer than eight bits are no byte. -/
theorem toBytes_replicate {k : Nat} (hk : k < 5) : toBytes (List.replicate k false) = [] := by
  match k, hk with
  | 0, _ | 1, _ | 2, _ | 3, _ | 4, _ => rfl

end Bits

namespace Base32

theorem symbol_ne_pad : ∀ n < 32, symbol n ≠ '=' := by decide

theorem mapM_value?_symbol {ns : List Nat} (h : ∀ n ∈ ns, n < 32) :
    (ns.map symbol).mapM value? = some ns := by
  induction ns with
  | nil => rfl
  | cons n ns ih =>
      rw [List.forall_mem_cons] at h
      simp [value?_symbol n h.1, ih h.2]

theorem length_encode (bs : Bytes) : (encode bs).length = (8 * bs.length + 4) / 5 := by
  rw [encode, List.length_map, Bits.length_quintets, Bits.length_ofBytes]

/-- Complete groups of eight digits lack nothing. -/
theorem lacking_mul_add (groups digits : Nat) : lacking (8 * groups + digits) = lacking digits := by
  rw [lacking, lacking, Nat.mul_add_mod]

/-- What the digits of bytes lack is padding that a group can end with. -/
theorem isPadding_lacking_encode (bs : Bytes) : isPadding (lacking (encode bs).length) = true := by
  -- Five bytes are eight digits, so only the bytes after the last five of them count.
  have hsplit : 8 * bs.length + 4 = 5 * (8 * (bs.length / 5)) + (8 * (bs.length % 5) + 4) := by
    omega
  have hrest : bs.length % 5 < 5 := Nat.mod_lt _ (by decide)
  rw [length_encode, hsplit, Nat.mul_add_div (by decide), lacking_mul_add]
  generalize bs.length % 5 = r at hrest
  match r, hrest with
  | 0, _ | 1, _ | 2, _ | 3, _ | 4, _ => rfl

theorem ne_pad_of_mem_encode {bs : Bytes} {c : Char} (h : c ∈ encode bs) : c ≠ '=' := by
  obtain ⟨n, hn, rfl⟩ := List.mem_map.1 h
  exact symbol_ne_pad n (Bits.lt_of_mem_quintets hn)

/-- No padding marks are taken off the text of bytes. -/
theorem dropWhile_pad_encode (bs : Bytes) :
    ((encode bs).reverse.dropWhile (· == '=')).reverse = encode bs := by
  have hlast : ∀ c ∈ (encode bs).reverse, (c == '=') = false := fun c hc =>
    beq_eq_false_iff_ne.2 (ne_pad_of_mem_encode (List.mem_reverse.1 hc))
  cases hdigits : (encode bs).reverse with
  | nil => rw [List.reverse_eq_nil_iff.1 hdigits]; rfl
  | cons c cs =>
      rw [hdigits] at hlast
      rw [List.dropWhile_cons_of_neg (by simp [hlast c List.mem_cons_self]), ← hdigits,
        List.reverse_reverse]

/-- The text of bytes is read back. -/
@[simp] theorem decode?_encode (bs : Bytes) : decode? (encode bs) = some bs := by
  have hvalues : (encode bs).mapM value? = some (Bits.quintets (Bits.ofBytes bs)) :=
    mapM_value?_symbol fun n hn => Bits.lt_of_mem_quintets hn
  have hpadding : (encode bs).length + lacking (encode bs).length - (encode bs).length =
      lacking (encode bs).length := Nat.add_sub_cancel_left _ _
  obtain ⟨k, hk, hbits⟩ := Bits.flatMap_ofNat_quintets (Bits.ofBytes bs)
  have hback : Bits.toBytes ((Bits.quintets (Bits.ofBytes bs)).flatMap (Bits.ofNat 5)) = bs := by
    rw [hbits]
    exact Bits.toBytes_ofBytes_append bs (Bits.toBytes_replicate hk)
  simp only [decode?, dropWhile_pad_encode, hvalues, hpadding, isPadding_lacking_encode, hback,
    Option.bind_eq_bind, Option.bind_some, if_true, pure]

end Base32
end LedgerFlow
