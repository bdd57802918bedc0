import LedgerFlow.Codec.Hex

/-!
# Hexadecimal text read back

The text of bytes is read back as the same bytes, so different bytes have different texts.
-/

namespace LedgerFlow
namespace Hex

theorem digit?_hexDigit : ∀ n < 16, digit? (Text.hexDigit n) = some n := by decide

theorem hexDigits_two (n : Nat) :
    Text.hexDigits 2 n = [Text.hexDigit (n / 16 % 16), Text.hexDigit (n % 16)] := rfl

theorem decodeList?_flatMap (bs : Bytes) :
    decodeList? (bs.flatMap fun b => Text.hexDigits 2 b.toNat) = some bs := by
  induction bs with
  | nil => rfl
  | cons b bs ih =>
      have hhigh := digit?_hexDigit (b.toNat / 16 % 16) (Nat.mod_lt _ (by decide))
      have hlow := digit?_hexDigit (b.toNat % 16) (Nat.mod_lt _ (by decide))
      have hbyte : 16 * (b.toNat / 16 % 16) + b.toNat % 16 = b.toNat := by
        have := b.toNat_lt
        omega
      rw [List.flatMap_cons, hexDigits_two, List.cons_append, List.cons_append, List.nil_append,
        decodeList?, hhigh, hlow, ih]
      simp only [Option.bind_eq_bind, Option.bind_some, hbyte, UInt8.ofNat_toNat, Option.pure_def]

@[simp] theorem decode?_encode (bs : Bytes) : decode? (encode bs) = some bs := by
  simp [decode?, encode, decodeList?_flatMap]

theorem encode_injective {a b : Bytes} (h : encode a = encode b) : a = b := by
  have hback := congrArg decode? h
  simpa using hback

end Hex
end LedgerFlow
