import LedgerFlow.Proofs.Hash.Crc16
import LedgerFlow.Proofs.Strkey.Grammar

/-!
# Typing errors in strkeys

A valid strkey stays no strkey of any kind when one of its characters is replaced, or when two adjacent
ones are swapped (`mistyped_refused`).

Both are changes of at most two adjacent characters, that is, of ten adjacent bits of what the text
stands for.  A changed text that is a strkey again is how another payload of the same length is spelled,
and the two bodies with their checksums would then differ in those bits only (`eq_of_spell_eq`).
Everything else that is wrong with a changed text, a character outside of the alphabet or an unused bit
that is set, shows in that it is not how anything is spelled.
-/

namespace LedgerFlow

namespace Bits

/-- Bytes with the same bits are the same. -/
theorem ofBytes_injective {bs cs : Bytes} (h : ofBytes bs = ofBytes cs) : bs = cs := by
  have hbytes : ∀ bs : Bytes, toBytes (ofBytes bs) = bs := by
    intro bs
    have hback : toBytes (ofBytes bs ++ []) = bs := toBytes_ofBytes_append bs rfl
    rwa [List.append_nil] at hback
  rw [← hbytes bs, h, hbytes]

end Bits

namespace Base32

/-- The five bits that a digit stands for. -/
def digitBits (c : Char) : List Bool := Bits.ofNat 5 ((value? c).getD 0)

theorem length_flatMap_digitBits (cs : List Char) :
    (cs.flatMap digitBits).length = 5 * cs.length := by
  induction cs with
  | nil => rfl
  | cons c cs ih =>
      rw [List.flatMap_cons, List.length_append, ih, digitBits, Bits.length_ofNat, List.length_cons]
      omega

/-- The digits of bytes stand for the bits of the bytes, and for zeros that fill up the last digit. -/
theorem flatMap_digitBits_encode (bs : Bytes) :
    ∃ k < 5, (encode bs).flatMap digitBits = Bits.ofBytes bs ++ List.replicate k false := by
  obtain ⟨k, hk, hbits⟩ := Bits.flatMap_ofNat_quintets (Bits.ofBytes bs)
  refine ⟨k, hk, ?_⟩
  have hdigits : ∀ n ∈ Bits.quintets (Bits.ofBytes bs), digitBits (symbol n) = Bits.ofNat 5 n := by
    intro n hn
    rw [digitBits, value?_symbol n (Bits.lt_of_mem_quintets hn), Option.getD_some]
  rw [← hbits, encode, List.flatMap_map, List.flatMap_def, List.flatMap_def,
    List.map_congr_left hdigits]

end Base32

namespace Strkey

/-- One character replaced, or two adjacent different ones swapped. -/
inductive Mistyped : List Char → List Char → Prop where
  | replaced (front back : List Char) {a b : Char} (h : a ≠ b) :
      Mistyped (front ++ a :: back) (front ++ b :: back)
  | swapped (front back : List Char) {a b : Char} (h : a ≠ b) :
      Mistyped (front ++ a :: b :: back) (front ++ b :: a :: back)

/-- A typing error changes two adjacent characters at most. -/
theorem Mistyped.exists_change {s s' : List Char} (h : Mistyped s s') :
    ∃ front middle middle' back, s = front ++ (middle ++ back) ∧ s' = front ++ (middle' ++ back) ∧
      middle.length = middle'.length ∧ middle.length ≤ 2 ∧ middle ≠ middle' := by
  cases h with
  | @replaced front back a b hab =>
      exact ⟨front, [a], [b], back, rfl, rfl, rfl, Nat.le_succ 1, by simpa using hab⟩
  | @swapped front back a b hab =>
      exact ⟨front, [a, b], [b, a], back, rfl, rfl, rfl, Nat.le_refl 2, by simp [hab]⟩

/-- The bits that a spelled body stands for: its own, the checksum as it is written, and zeros that fill
up the last digit. -/
theorem flatMap_digitBits_spell (body : Bytes) :
    ∃ k < 5, (spell body).flatMap Base32.digitBits = Bits.ofBytes body ++
      (Crc16.written (Crc16.run 0 (Bits.ofBytes body)) ++ List.replicate k false) := by
  obtain ⟨k, hk, hbits⟩ := Base32.flatMap_digitBits_encode (body ++ Crc16.littleEndian body)
  refine ⟨k, hk, ?_⟩
  rw [spell, hbits, Bits.ofBytes_append, Crc16.ofBytes_littleEndian, Crc16.remainder_eq_run,
    List.append_assoc]

/-- Two bodies are spelled alike but for two adjacent characters only if they are the same. -/
theorem eq_of_spell_eq {body body' : Bytes} {front middle middle' back : List Char}
    (hmiddle : middle.length = middle'.length) (hshort : middle.length ≤ 2)
    (h : spell body = front ++ (middle ++ back)) (h' : spell body' = front ++ (middle' ++ back)) :
    body = body' := by
  obtain ⟨k, hk, hbits⟩ := flatMap_digitBits_spell body
  obtain ⟨k', hk', hbits'⟩ := flatMap_digitBits_spell body'
  -- Texts of equal length stand for bodies of equal length, with the same zeros behind them.
  have hlength := congrArg List.length hbits
  have hlength' := congrArg List.length hbits'
  rw [h] at hlength hbits
  rw [h'] at hlength' hbits'
  simp only [Base32.length_flatMap_digitBits, List.length_append, List.length_replicate,
    Bits.length_ofBytes, Crc16.length_written, hmiddle] at hlength hlength'
  obtain ⟨hbody, rfl⟩ : body.length = body'.length ∧ k = k' := by omega
  simp only [List.flatMap_append] at hbits hbits'
  refine Bits.ofBytes_injective (Crc16.eq_of_adjacent_change ?_ ?_ ?_ hbits.symm hbits'.symm)
  · rw [Bits.length_ofBytes, Bits.length_ofBytes, hbody]
  · rw [Base32.length_flatMap_digitBits, Base32.length_flatMap_digitBits, hmiddle]
  · rw [Base32.length_flatMap_digitBits]
    omega

/-- A typing error in what is spelled is not how anything is spelled. -/
theorem ne_spell_of_mistyped {body : Bytes} {s : List Char} (h : Mistyped (spell body) s)
    (body' : Bytes) : s ≠ spell body' := by
  rintro rfl
  obtain ⟨front, middle, middle', back, hs, hs', hmiddle, hshort, hne⟩ := h.exists_change
  obtain rfl := eq_of_spell_eq hmiddle hshort hs hs'
  rw [hs, List.append_cancel_left_eq, List.append_cancel_right_eq] at hs'
  exact hne hs'

/-- A text that is not how anything is spelled is refused by every reader. -/
theorem refused_of_ne_spell {text : String} (h : ∀ body, text.toList ≠ spell body) :
    isValid text none = false ∧ (∀ kinds, isValid text (some kinds) = false) ∧
      (∃ e, kindOf text = .error e) ∧ ∀ kind, ∃ e, decode kind text = .error e := by
  have hdecode : ∀ kind payload, decode kind text ≠ .ok payload := by
    intro kind payload hread
    refine h (kind.versionByte :: payload) ?_
    rw [(decode_eq_ok_iff.1 hread).2, String.toList_ofList]
  have hrefused : ∀ kind, ∃ e, decode kind text = .error e := by
    intro kind
    cases hread : decode kind text with
    | error e => exact ⟨e, rfl⟩
    | ok payload => exact absurd hread (hdecode kind payload)
  refine ⟨?_, fun kinds => ?_, ?_, hrefused⟩
  · rw [Bool.eq_false_iff, Ne, isValid_none_iff]
    rintro ⟨kind, payload, hread⟩
    exact hdecode kind payload hread
  · rw [Bool.eq_false_iff, Ne, isValid_some_iff]
    rintro ⟨kind, -, payload, hread⟩
    exact hdecode kind payload hread
  · cases hkind : kindOf text with
    | error e => exact ⟨e, rfl⟩
    | ok kind =>
        obtain ⟨payload, hread⟩ := kindOf_eq_ok_iff.1 hkind
        exact absurd hread (hdecode kind payload)

/-- **Typing errors in strkeys are always caught.**  Whatever kind a valid strkey has: with one character
replaced by any other, or with two different adjacent characters swapped, it is no strkey of any kind. -/
theorem mistyped_refused {text typed : String} (hvalid : isValid text none = true)
    (hmistyped : Mistyped text.toList typed.toList) :
    isValid typed none = false ∧ (∀ kinds, isValid typed (some kinds) = false) ∧
      (∃ e, kindOf typed = .error e) ∧ ∀ kind, ∃ e, decode kind typed = .error e := by
  obtain ⟨kind, payload, hread⟩ := isValid_none_iff.1 hvalid
  have hspelled : text.toList = spell (kind.versionByte :: payload) := by
    rw [(decode_eq_ok_iff.1 hread).2, String.toList_ofList]
  rw [hspelled] at hmistyped
  exact refused_of_ne_spell (ne_spell_of_mistyped hmistyped)

/-- Two characters of the checksum of an account, swapped. -/
theorem mistyped_refused_swapped :
    let front := 'G' :: List.replicate 52 'A'
    isValid (String.ofList (front ++ ['W', 'H', 'F'])) none = true ∧
      isValid (String.ofList (front ++ ['H', 'W', 'F'])) none = false := by
  intro front
  have hvalid : isValid (String.ofList (front ++ ['W', 'H', 'F'])) none = true := by
    have hspelled : front ++ ['W', 'H', 'F'] =
        spell (Kind.versionByte .account :: List.replicate 32 0) := by decide +kernel
    exact isValid_none_iff.2 ⟨.account, List.replicate 32 0, decode_eq_ok_iff.2 ⟨rfl, by rw [hspelled]⟩⟩
  refine ⟨hvalid, (mistyped_refused hvalid ?_).1⟩
  rw [String.toList_ofList, String.toList_ofList]
  exact .swapped front ['F'] (by decide)

end Strkey
end LedgerFlow
