import LedgerFlow.Codec.Base64
import LedgerFlow.Proofs.Codec.Bits
import LedgerFlow.Text.Blank

/-!
# Base-64 text read back

The text of bytes is read back as the same bytes (`decode?_encode`).  It holds no blanks, so trimming
leaves it as it is, and it is empty for no bytes only.

The induction takes three bytes at a time, which are four digits; the last group of one or two bytes
is the only one with padding.
-/

namespace LedgerFlow
namespace Base64

theorem symbol_ne_pad : ∀ n < 64, symbol n ≠ '=' := by decide

theorem not_isBlank_symbol : ∀ n < 64, Text.isBlank (symbol n) = false := by decide

/-- The digit of a group of six bits. -/
def digit (bits : List Bool) : Char := symbol (Bits.toNat bits)

section Digit

variable {bits : List Bool} (h : bits.length = 6)

include h

theorem toNat_lt_of_length : Bits.toNat bits < 64 := by
  have hlt := Bits.toNat_lt bits
  rwa [h] at hlt

theorem value?_digit : value? (digit bits) = some (Bits.toNat bits) :=
  value?_symbol _ (toNat_lt_of_length h)

theorem digit_ne_pad : digit bits ≠ '=' := symbol_ne_pad _ (toNat_lt_of_length h)

theorem ofNat_toNat_of_length : Bits.ofNat 6 (Bits.toNat bits) = bits := by
  have hback := Bits.ofNat_toNat bits
  rwa [h] at hback

end Digit

/-- Four digits stand for twenty-four bits, and the digits after them for the bits after those. -/
theorem bits?_four {a b c d : List Bool} {rest : List Char} {more : List Bool}
    (ha : a.length = 6) (hb : b.length = 6) (hc : c.length = 6) (hd : d.length = 6)
    (hdigits : rest ≠ [] → rest.all (· == '=') = false) (hrest : bits? rest = some more) :
    bits? (digit a :: digit b :: digit c :: digit d :: rest) = some (a ++ b ++ c ++ d ++ more) := by
  have hpad := digit_ne_pad hd
  -- Four digits with nothing but padding after them would be a last group; here nothing follows.
  have hmore : (rest.all (· == '=') = true → more = []) := by
    intro hall
    by_cases hnil : rest = []
    · subst hnil
      exact (Option.some.inj hrest).symm
    · rw [hdigits hnil] at hall
      cases hall
  rw [bits?]
  · simp only [value?_digit ha, value?_digit hb, value?_digit hc, value?_digit hd,
      Option.bind_eq_bind, Option.bind_some, hrest, ofNat_toNat_of_length ha,
      ofNat_toNat_of_length hb, ofNat_toNat_of_length hc, ofNat_toNat_of_length hd]
    split
    · next hall => rw [hmore hall]; rfl
    · rfl
  · intro _ h
    exact absurd h hpad
  · intro h
    exact absurd h hpad

theorem bits?_two {a b : List Bool} (ha : a.length = 6) (hb : b.length = 6) :
    bits? [digit a, digit b, '=', '='] = some (a ++ b.take 2) := by
  simp [bits?, value?_digit, ofNat_toNat_of_length, ha, hb]

theorem bits?_three {a b c : List Bool} (ha : a.length = 6) (hb : b.length = 6)
    (hc : c.length = 6) :
    bits? [digit a, digit b, digit c, '='] = some (a ++ b ++ c.take 4) := by
  rw [bits?]
  · simp [value?_digit, ofNat_toNat_of_length, ha, hb, hc]
  · intro h
    exact absurd h (digit_ne_pad hc)

/-! ## Groups of three bytes -/

theorem encodeList_one {x : UInt8} {a b c d e f g h : Bool}
    (hx : Bits.ofNat 8 x.toNat = [a, b, c, d, e, f, g, h]) :
    encodeList [x] =
      [digit [a, b, c, d, e, f], digit [g, h, false, false, false, false], '=', '='] := by
  simp only [encodeList, Bits.ofBytes_cons, Bits.ofBytes_nil, hx]
  rfl

theorem encodeList_two {x y : UInt8} {a b c d e f g h i j k l m n o p : Bool}
    (hx : Bits.ofNat 8 x.toNat = [a, b, c, d, e, f, g, h])
    (hy : Bits.ofNat 8 y.toNat = [i, j, k, l, m, n, o, p]) :
    encodeList [x, y] =
      [digit [a, b, c, d, e, f], digit [g, h, i, j, k, l], digit [m, n, o, p, false, false],
        '='] := by
  simp only [encodeList, Bits.ofBytes_cons, Bits.ofBytes_nil, hx, hy]
  rfl

/-- Four more digits do not change how many are missing in the last group. -/
theorem padding_add_four (n : Nat) : padding (n + 4) = padding n := by
  rw [padding, padding, Nat.add_mod_right]

theorem encodeList_three {x y z : UInt8} {a b c d e f g h i j k l m n o p q r s t u v w w' : Bool}
    (rest : Bytes) (hx : Bits.ofNat 8 x.toNat = [a, b, c, d, e, f, g, h])
    (hy : Bits.ofNat 8 y.toNat = [i, j, k, l, m, n, o, p])
    (hz : Bits.ofNat 8 z.toNat = [q, r, s, t, u, v, w, w']) :
    encodeList (x :: y :: z :: rest) =
      digit [a, b, c, d, e, f] :: digit [g, h, i, j, k, l] :: digit [m, n, o, p, q, r]
        :: digit [s, t, u, v, w, w'] :: encodeList rest := by
  simp only [encodeList, Bits.ofBytes_cons, hx, hy, hz, List.cons_append, List.nil_append,
    Bits.sextets, List.map_cons, List.length_cons, padding_add_four]
  rfl

theorem exists_bits (x : UInt8) :
    ∃ a b c d e f g h, Bits.ofNat 8 x.toNat = [a, b, c, d, e, f, g, h] := by
  match Bits.ofNat 8 x.toNat, Bits.length_ofNat 8 x.toNat with
  | [a, b, c, d, e, f, g, h], _ => exact ⟨a, b, c, d, e, f, g, h, rfl⟩

/-- The text of any bytes starts with a digit. -/
theorem exists_digit_cons (x : UInt8) (bs : Bytes) :
    ∃ bits cs, bits.length = 6 ∧ encodeList (x :: bs) = digit bits :: cs := by
  obtain ⟨a, b, c, d, e, f, g, h, hx⟩ := exists_bits x
  rw [encodeList, Bits.ofBytes_cons, hx]
  exact ⟨[a, b, c, d, e, f], _, rfl, rfl⟩

theorem not_all_pad_encodeList {bs : Bytes} (h : encodeList bs ≠ []) :
    (encodeList bs).all (· == '=') = false := by
  cases bs with
  | nil => exact absurd rfl h
  | cons x bs =>
      obtain ⟨bits, cs, hbits, hcs⟩ := exists_digit_cons x bs
      simp [hcs, digit_ne_pad hbits]

/-- The digits and the padding of a text stand for exactly the bits of the bytes. -/
theorem bits?_encodeList : ∀ bs : Bytes, bits? (encodeList bs) = some (Bits.ofBytes bs)
  | [] => rfl
  | [x] => by
      obtain ⟨a, b, c, d, e, f, g, h, hx⟩ := exists_bits x
      rw [encodeList_one hx, bits?_two rfl rfl, Bits.ofBytes_cons, hx]
      rfl
  | [x, y] => by
      obtain ⟨a, b, c, d, e, f, g, h, hx⟩ := exists_bits x
      obtain ⟨i, j, k, l, m, n, o, p, hy⟩ := exists_bits y
      rw [encodeList_two hx hy, bits?_three rfl rfl rfl, Bits.ofBytes_cons, Bits.ofBytes_cons, hx, hy]
      rfl
  | x :: y :: z :: rest => by
      obtain ⟨a, b, c, d, e, f, g, h, hx⟩ := exists_bits x
      obtain ⟨i, j, k, l, m, n, o, p, hy⟩ := exists_bits y
      obtain ⟨q, r, s, t, u, v, w, w', hz⟩ := exists_bits z
      rw [encodeList_three rest hx hy hz,
        bits?_four rfl rfl rfl rfl not_all_pad_encodeList (bits?_encodeList rest)]
      simp [hx, hy, hz]

/-- The text of bytes is read back. -/
@[simp] theorem decode?_encode (bs : Bytes) : decode? (encode bs) = some bs := by
  have hback : Bits.toBytes (Bits.ofBytes bs) = bs := by
    have hnone : Bits.toBytes [] = [] := rfl
    simpa using Bits.toBytes_ofBytes_append bs hnone
  simp [decode?, encode, decodeList?, bits?_encodeList, hback]

/-! ## No blanks -/

theorem lt_of_mem_sextets {bits : List Bool} {n : Nat} (h : n ∈ Bits.sextets bits) : n < 64 := by
  fun_induction Bits.sextets bits with
  | case1 a b c d e f rest ih =>
      rcases List.mem_cons.1 h with rfl | h
      · exact Bits.toNat_lt [a, b, c, d, e, f]
      · exact ih h
  | case2 => cases h
  | case3 short hlong hnil =>
      have hshort : (Bits.fill 6 short).length = 6 := by
        match short, hlong with
        | [], _ | [_], _ | [_, _], _ | [_, _, _], _ | [_, _, _, _], _ | [_, _, _, _, _], _ => rfl
        | a :: b :: c :: d :: e :: f :: rest, hlong => exact (hlong a b c d e f rest rfl).elim
      rw [List.mem_singleton.1 h]
      exact toNat_lt_of_length hshort

theorem not_isBlank_of_mem_encodeList {bs : Bytes} {c : Char} (h : c ∈ encodeList bs) :
    Text.isBlank c = false := by
  rcases List.mem_append.1 h with hdigit | hpad
  · obtain ⟨n, hn, rfl⟩ := List.mem_map.1 hdigit
    exact not_isBlank_symbol n (lt_of_mem_sextets hn)
  · rw [List.eq_of_mem_replicate hpad]
    decide

@[simp] theorem trim_encode (bs : Bytes) : Text.trim (encode bs) = encode bs := by
  have hkeep : ∀ cs : List Char, (∀ c ∈ cs, Text.isBlank c = false) →
      cs.dropWhile Text.isBlank = cs := by
    intro cs hcs
    cases cs with
    | nil => rfl
    | cons c cs => simp [hcs c List.mem_cons_self]
  -- Trimming drops blanks from the front of the text and of the reversed text.
  have hback : ∀ c ∈ (encodeList bs).reverse, Text.isBlank c = false := fun c hc =>
    not_isBlank_of_mem_encodeList (List.mem_reverse.1 hc)
  simp [Text.trim, encode, Text.trimList, hkeep _ fun c => not_isBlank_of_mem_encodeList,
    hkeep _ hback]

theorem encode_ne_empty {bs : Bytes} (h : bs ≠ []) : (encode bs).isEmpty = false := by
  cases bs with
  | nil => exact absurd rfl h
  | cons x bs =>
      obtain ⟨bits, cs, _, hcs⟩ := exists_digit_cons x bs
      simp [encode, hcs]

end Base64
end LedgerFlow
