import LedgerFlow.Codec.Cbor.Decoder
import LedgerFlow.Proofs.Result

/-!
# Scalars read back from their canonical bytes

A head of fewer than `2 ^ 64` is read back whatever follows it (`exists_head_append`), and with it
every scalar: integers of any size, floating point numbers in each of the three widths, text and
bytes.  A NaN comes back as the one NaN; nothing else changes.

The only assumption is that a scalar takes fewer than `2 ^ 64` bytes, which is what a head can say.
-/

namespace LedgerFlow
namespace Cbor

variable {ο : Type}

/-! ## Numbers as bytes -/

@[simp] theorem length_bigEndian (width n : Nat) : (bigEndian width n).length = width := by
  induction width generalizing n with
  | zero => rfl
  | succ width ih => simp [bigEndian, ih]

theorem ofBigEndian_append_singleton (bs : Bytes) (b : UInt8) :
    ofBigEndian (bs ++ [b]) = 256 * ofBigEndian bs + b.toNat := by
  simp [ofBigEndian]

theorem ofBigEndian_bigEndian {width n : Nat} (h : n < 256 ^ width) :
    ofBigEndian (bigEndian width n) = n := by
  induction width generalizing n with
  | zero =>
      have hn : n = 0 := by simpa using h
      subst hn
      rfl
  | succ width ih =>
      have hdiv : n / 256 < 256 ^ width := by
        rw [Nat.pow_succ] at h
        exact Nat.div_lt_of_lt_mul (by omega)
      rw [bigEndian, ofBigEndian_append_singleton, ih hdiv]
      have hbyte : (UInt8.ofNat (n % 256)).toNat = n % 256 := by
        simp [Nat.mod_mod_of_dvd]
      rw [hbyte]
      omega

theorem lt_pow_byteLength (n : Nat) : n < 256 ^ byteLength n := by
  unfold byteLength
  by_cases hn : n = 0
  · simp [hn]
  · -- A number of `k` bits fits into `k / 8 + 1` bytes.
    have hlog : n < 2 ^ (n.log2 + 1) := Nat.lt_log2_self
    have hexp : n.log2 + 1 ≤ 8 * (n.log2 / 8 + 1) := by omega
    have hle : 2 ^ (n.log2 + 1) ≤ 2 ^ (8 * (n.log2 / 8 + 1)) :=
      Nat.pow_le_pow_right (by decide) hexp
    have h256 : (256 : Nat) ^ (n.log2 / 8 + 1) = 2 ^ (8 * (n.log2 / 8 + 1)) := by
      rw [Nat.pow_mul]
    simp only [beq_iff_eq, hn, if_false]
    omega

/-- The shortest bytes of a number spell it. -/
theorem ofBigEndian_minimalBytes (n : Nat) : ofBigEndian (minimalBytes n) = n :=
  ofBigEndian_bigEndian (lt_pow_byteLength n)

@[simp] theorem take?_append (bs rest : Bytes) : take? bs.length (bs ++ rest) = .ok (bs, rest) := by
  simp [take?]

theorem take?_bigEndian (width n : Nat) (rest : Bytes) :
    take? width (bigEndian width n ++ rest) = .ok (bigEndian width n, rest) := by
  have h := take?_append (bigEndian width n) rest
  rwa [length_bigEndian] at h

/-! ## Heads -/

theorem argument?_bigEndian {low width n : Nat} (rest : Bytes) (hlow : 24 ≤ low ∧ low < 28)
    (hwidth : 2 ^ (low - 24) = width) (hn : n < 256 ^ width) :
    argument? low (bigEndian width n ++ rest) = .ok (.number n, rest) := by
  unfold argument?
  rw [if_neg (by omega), if_pos hlow.2, hwidth, take?_bigEndian]
  simp [ofBigEndian_bigEndian hn]

theorem number?_of_argument? {low n : Nat} {bs rest : Bytes}
    (h : argument? low bs = .ok (.number n, rest)) : number? low bs = .ok (n, rest) := by
  rw [number?, h]
  rfl

/-- A head is one byte with the major type in its three high bits, and its low bits with the bytes
after it announce the number. -/
theorem exists_head_append (major : Nat) {n : Nat} (rest : Bytes) (hmajor : major < 8)
    (hn : n < 2 ^ 64) :
    ∃ (b : UInt8) (tail : Bytes), head major n ++ rest = b :: tail ∧ b.toNat / 32 = major ∧
      argument? (b.toNat % 32) tail = .ok (.number n, rest) := by
  have hlead : ∀ low < 32, (UInt8.ofNat (32 * major + low)).toNat = 32 * major + low := by
    intro low hlow
    rw [UInt8.toNat_ofNat']
    exact Nat.mod_eq_of_lt (by omega)
  -- The four longer heads differ in nothing but their width.
  have hlong : ∀ low width, 24 ≤ low ∧ low < 28 → 2 ^ (low - 24) = width → n < 256 ^ width →
      ∃ (b : UInt8) (tail : Bytes),
        UInt8.ofNat (32 * major + low) :: bigEndian width n ++ rest = b :: tail ∧
        b.toNat / 32 = major ∧ argument? (b.toNat % 32) tail = .ok (.number n, rest) := by
    intro low width hlow hwidth hlt
    refine ⟨_, _, rfl, ?_, ?_⟩
    · rw [hlead low (by omega)]
      omega
    · rw [hlead low (by omega), show (32 * major + low) % 32 = low by omega]
      exact argument?_bigEndian rest hlow hwidth hlt
  unfold head
  split
  · next hsmall =>
      refine ⟨_, rest, rfl, ?_, ?_⟩
      · rw [hlead n (by omega)]
        omega
      · rw [hlead n (by omega), show (32 * major + n) % 32 = n by omega, argument?, if_pos hsmall]
  split
  · next h => exact hlong 24 1 (by omega) rfl h
  split
  · next h => exact hlong 25 2 (by omega) rfl h
  split
  · next h => exact hlong 26 4 (by omega) rfl h
  · exact hlong 27 8 (by omega) rfl hn

theorem head_ne_nil (major n : Nat) : head major n ≠ [] := by
  unfold head
  repeat' split
  all_goals exact List.cons_ne_nil _ _

/-- A larger number takes no shorter head. -/
theorem length_head_le (major : Nat) {m n : Nat} (h : m ≤ n) :
    (head major m).length ≤ (head major n).length := by
  unfold head
  repeat' split
  all_goals
    simp only [List.length_cons, List.length_nil, length_bigEndian]
    omega

/-! ## Items -/

variable {r : Reader ο} {depth : Nat}

theorem item?_unsigned {n : Nat} (rest : Bytes) (hn : n < 2 ^ 64) :
    item? r depth (head 0 n ++ rest) = .ok (.int n, rest) := by
  obtain ⟨b, tail, happend, hmajor, harg⟩ := exists_head_append 0 rest (by decide) hn
  rw [happend]
  unfold item?
  simp [hmajor, number?_of_argument? harg]

theorem item?_negative {n : Nat} (rest : Bytes) (hn : n < 2 ^ 64) :
    item? r depth (head 1 n ++ rest) = .ok (.int (-1 - n), rest) := by
  obtain ⟨b, tail, happend, hmajor, harg⟩ := exists_head_append 1 rest (by decide) hn
  rw [happend]
  unfold item?
  simp [hmajor, number?_of_argument? harg]

theorem item?_byteString {bs : Bytes} (rest : Bytes) (hbs : bs.length < 2 ^ 64) :
    item? r depth (byteString bs ++ rest) = .ok (.bytes bs, rest) := by
  obtain ⟨b, tail, happend, hmajor, harg⟩ :=
    exists_head_append 2 (bs ++ rest) (by decide) hbs
  rw [byteString, List.append_assoc, happend]
  unfold item?
  simp [hmajor, harg, byteString?, ok_bind]

theorem item?_textString {s : String} (rest : Bytes) (hs : (Utf8.encode s).length < 2 ^ 64) :
    item? r depth (textString s ++ rest) = .ok (.text s, rest) := by
  obtain ⟨b, tail, happend, hmajor, harg⟩ :=
    exists_head_append 3 (Utf8.encode s ++ rest) (by decide) hs
  rw [textString, List.append_assoc, happend]
  unfold item?
  simp [hmajor, harg, textString?, text?, ok_bind]

theorem bigMagnitude?_byteString {read : Bytes → Read (Value ο × Bytes)} {bs : Bytes} (rest : Bytes)
    (hbs : bs.length < 2 ^ 64) :
    bigMagnitude? read (byteString bs ++ rest) = .ok (ofBigEndian bs, rest) := by
  obtain ⟨b, tail, happend, hmajor, harg⟩ :=
    exists_head_append 2 (bs ++ rest) (by decide) hbs
  rw [byteString, List.append_assoc, happend]
  simp [bigMagnitude?, hmajor, harg, byteString?, ok_bind]

theorem item?_positiveTag {bs : Bytes} (rest : Bytes) (hbs : bs.length < 2 ^ 64) :
    item? r depth (head 6 2 ++ byteString bs ++ rest) =
      .ok (.int (ofBigEndian bs), rest) := by
  obtain ⟨b, tail, happend, hmajor, harg⟩ :=
    exists_head_append 6 (byteString bs ++ rest) (by decide) (show 2 < 2 ^ 64 by decide)
  rw [List.append_assoc, happend]
  unfold item?
  simp [hmajor, number?_of_argument? harg, bigMagnitude?_byteString rest hbs, ok_bind]

theorem item?_negativeTag {bs : Bytes} (rest : Bytes) (hbs : bs.length < 2 ^ 64) :
    item? r depth (head 6 3 ++ byteString bs ++ rest) =
      .ok (.int (-1 - ofBigEndian bs), rest) := by
  obtain ⟨b, tail, happend, hmajor, harg⟩ :=
    exists_head_append 6 (byteString bs ++ rest) (by decide) (show 3 < 2 ^ 64 by decide)
  rw [List.append_assoc, happend]
  unfold item?
  simp [hmajor, number?_of_argument? harg, bigMagnitude?_byteString rest hbs, ok_bind]

/-- Integers of any size, by the sign and by whether 64 bits hold the magnitude. -/
theorem item?_integer {n : Int} (rest : Bytes) (hn : (integer n).length < 2 ^ 64) :
    item? r depth (integer n ++ rest) = .ok (.int n, rest) := by
  have hbytes : ∀ tag m, (head 6 tag ++ byteString (minimalBytes m)).length < 2 ^ 64 →
      (minimalBytes m).length < 2 ^ 64 := by
    intro tag m h
    simp only [byteString, List.length_append] at h
    omega
  unfold integer at hn ⊢
  by_cases hsign : 0 ≤ n
  · simp only [hsign, if_true] at hn ⊢
    by_cases hsmall : n.toNat < 2 ^ 64
    · rw [if_pos hsmall, item?_unsigned rest hsmall, Int.toNat_of_nonneg hsign]
    · rw [if_neg hsmall] at hn ⊢
      rw [item?_positiveTag rest (hbytes 2 _ hn), ofBigEndian_minimalBytes,
        Int.toNat_of_nonneg hsign]
  · have hback : (-1 : Int) - ((-1 - n).toNat : Int) = n := by omega
    simp only [hsign, if_false] at hn ⊢
    by_cases hsmall : (-1 - n).toNat < 2 ^ 64
    · rw [if_pos hsmall, item?_negative rest hsmall, hback]
    · rw [if_neg hsmall] at hn ⊢
      rw [item?_negativeTag rest (hbytes 3 _ hn), ofBigEndian_minimalBytes, hback]

/-- Items of the last major type are simple values and floating point numbers. -/
theorem item?_simple {b : UInt8} (rest : Bytes) (hb : b.toNat / 32 = 7)
    (hlow : isObject (b.toNat % 32) = false) :
    item? r depth (b :: rest) = simple? (b.toNat % 32) rest := by
  unfold item?
  simp [hb, hlow]

/-- Floating point numbers in the shortest format; a NaN comes back as the one NaN. -/
theorem item?_real (x : Binary64) (rest : Bytes) :
    item? r depth (real x ++ rest) = .ok (.float (.ofBits x.bits), rest) := by
  by_cases hnan : x.isNaN = true
  · have hx : Binary64.ofBits x.bits = .nan := by simp [Binary64.ofBits, hnan]
    have hword : [0x7E, 0x00] = bigEndian 2 0x7E00 := by decide
    have hwiden : Binary64.widen Binary64.half 0x7E00 = .nan := by decide
    rw [hx, real, if_pos hnan, hword, List.cons_append, item?_simple _ (by decide) (by decide)]
    have hlt : 0x7E00 < 256 ^ 2 := by decide
    simp [simple?, take?_bigEndian, ofBigEndian_bigEndian hlt, hwiden]
  · have hx : Binary64.ofBits x.bits = x := by simp [Binary64.ofBits, hnan]
    rw [hx, real, if_neg hnan]
    cases hhalf : Binary64.narrow? Binary64.half x with
    | some w =>
        have hlt : w < 256 ^ 2 := Binary64.lt_of_narrow? hhalf
        have hwiden : Binary64.widen Binary64.half w = x := Binary64.widen_of_narrow? hhalf
        rw [List.cons_append, item?_simple _ (by decide) (by decide)]
        simp [simple?, take?_bigEndian, ofBigEndian_bigEndian hlt, hwiden]
    | none =>
        cases hsingle : Binary64.narrow? Binary64.single x with
        | some w =>
            have hlt : w < 256 ^ 4 := Binary64.lt_of_narrow? hsingle
            have hwiden : Binary64.widen Binary64.single w = x := Binary64.widen_of_narrow? hsingle
            rw [List.cons_append, item?_simple _ (by decide) (by decide)]
            simp [simple?, take?_bigEndian, ofBigEndian_bigEndian hlt, hwiden]
        | none =>
            have hlt : x.bits.toNat < 256 ^ 8 := x.bits.toNat_lt
            rw [List.cons_append, item?_simple _ (by decide) (by decide)]
            simp [simple?, take?_bigEndian, ofBigEndian_bigEndian hlt, hx]

end Cbor
end LedgerFlow
