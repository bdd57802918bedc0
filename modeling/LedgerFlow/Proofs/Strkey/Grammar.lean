import LedgerFlow.Proofs.Codec.Base32
import LedgerFlow.Strkey

/-!
# The grammar of strkeys

A text is read as a version byte and a payload exactly when it is how these two are spelled
(`body_eq_ok_iff`): reading writes the bytes again and compares, and what is written is in upper case
and read back whole.  Everything else follows from this.  A text has one kind at most because the kinds
differ in their version bytes, and the leading letter, which `decode` looks at first, is the upper five
bits of the version byte.

The main statement `decode_exactly_encoded` ties `decode`, `kindOf` and `isValid` to `encode`.
-/

namespace LedgerFlow
namespace Strkey

variable {text : String} {kind kind' : Kind} {version : UInt8} {payload payload' : Bytes}

/-! ## Spelling -/

theorem upperChar_symbol : ∀ n < 32, Text.upperChar (Base32.symbol n) = [Base32.symbol n] := by
  decide

/-- Base-32 digits are in upper case. -/
theorem upper_encode (bs : Bytes) :
    Text.upper (String.ofList (Base32.encode bs)) = String.ofList (Base32.encode bs) := by
  have hdigits : ∀ ns : List Nat, (∀ n ∈ ns, n < 32) →
      (ns.map Base32.symbol).flatMap Text.upperChar = ns.map Base32.symbol := by
    intro ns hns
    induction ns with
    | nil => rfl
    | cons n ns ih =>
        rw [List.forall_mem_cons] at hns
        rw [List.map_cons, List.flatMap_cons, upperChar_symbol n hns.1, ih hns.2]
        rfl
  rw [Text.upper, String.toList_ofList, Base32.encode,
    hdigits _ fun n hn => Bits.lt_of_mem_quintets hn]

theorem length_littleEndian (bs : Bytes) : (Crc16.littleEndian bs).length = 2 := rfl

/-- A spelled version byte shows its kind by the leading letter. -/
theorem head?_spell (kind : Kind) (payload : Bytes) :
    (spell (kind.versionByte :: payload)).head? = some kind.letter := by
  cases kind <;> rfl

/-- A spelled version byte is never the empty text. -/
theorem isEmpty_spell (version : UInt8) (payload : Bytes) :
    (String.ofList (spell (version :: payload))).isEmpty = false := by
  have hlength : (spell (version :: payload)).length ≠ 0 := by
    rw [spell, Base32.length_encode, List.length_append, length_littleEndian]
    omega
  rw [Bool.eq_false_iff]
  intro hempty
  rw [String.isEmpty_iff, String.ofList_eq_empty_iff] at hempty
  exact hlength (by rw [hempty]; rfl)

/-- What is spelled is read as the same version byte and payload. -/
theorem body_spell (version : UInt8) (payload : Bytes) :
    body (String.ofList (spell (version :: payload))) = .ok (version, payload) := by
  have hlength : (version :: payload ++ Crc16.littleEndian (version :: payload)).length - 2 =
      (version :: payload).length := by
    rw [List.length_append, length_littleEndian, Nat.add_sub_cancel]
  have htext : (String.ofList (spell (version :: payload))).toList =
      Base32.encode (version :: payload ++ Crc16.littleEndian (version :: payload)) :=
    String.toList_ofList
  have hupper : ¬String.ofList (spell (version :: payload)) ≠
      Text.upper (String.ofList (spell (version :: payload))) :=
    not_not_intro (upper_encode _).symm
  unfold body
  rw [isEmpty_spell, if_neg Bool.false_ne_true, if_neg hupper, htext, Base32.decode?_encode]
  dsimp only
  rw [hlength, List.take_left, List.drop_left]
  simp

/-- A text is read exactly when it is how its version byte and its payload are spelled. -/
theorem body_eq_ok_iff :
    body text = .ok (version, payload) ↔ text = String.ofList (spell (version :: payload)) := by
  constructor
  · intro h
    -- Only the last of the checks compares with the text, and it passes only what is spelled again.
    unfold body at h
    split at h
    · cases h
    · split at h
      · cases h
      · split at h
        · cases h
        · next raw hraw =>
            split at h
            · cases h
            · next first rest htake =>
                split at h
                · cases h
                · next hsum =>
                    split at h
                    · cases h
                    · next hcanonical =>
                        cases h
                        rw [Decidable.not_not] at hsum hcanonical
                        -- The bytes are the part that was checked and the checksum behind it.
                        have hbytes : raw = version :: payload ++
                            Crc16.littleEndian (version :: payload) := by
                          rw [hsum, ← htake, List.take_append_drop]
                        rw [spell, ← hbytes, hcanonical, String.ofList_toList]
  · rintro rfl
    exact body_spell version payload

/-! ## Kinds -/

/-- The kind of a version byte is the one that has it. -/
theorem ofVersion?_eq_some_iff : Kind.ofVersion? version = some kind ↔ version = kind.versionByte := by
  constructor
  · intro h
    have hfound := List.find?_some h
    exact (beq_iff_eq.1 hfound).symm
  · rintro rfl
    cases kind <;> rfl

theorem encode_eq_ok_iff :
    encode kind payload = .ok text ↔ payload.length = kind.payloadLength ∧
      text = String.ofList (spell (kind.versionByte :: payload)) := by
  unfold encode
  split
  · next hlength => simp [hlength, eq_comm]
  · next hlength => simp [hlength]

/-- Reading a strkey of a kind succeeds exactly on the spelled payloads of its length. -/
theorem decode_eq_ok_iff :
    decode kind text = .ok payload ↔ payload.length = kind.payloadLength ∧
      text = String.ofList (spell (kind.versionByte :: payload)) := by
  constructor
  · intro h
    unfold decode at h
    split at h
    · cases h
    · cases hbody : body text with
      | error e =>
          rw [hbody] at h
          cases h
      | ok read =>
          obtain ⟨version, found⟩ := read
          rw [hbody] at h
          change (if _ then _ else _) = _ at h
          split at h
          · cases h
          · next hversion =>
              rw [Decidable.not_not] at hversion
              split at h
              · next hlength =>
                  cases h
                  subst hversion
                  exact ⟨hlength, body_eq_ok_iff.1 hbody⟩
              · cases h
  · rintro ⟨hlength, rfl⟩
    -- The letter is looked at before the text is read.
    have hletter : ¬(String.ofList (spell (kind.versionByte :: payload))).toList.head? ≠
        some kind.letter := by
      rw [String.toList_ofList, head?_spell]
      exact not_not_intro rfl
    unfold decode
    rw [if_neg hletter, body_spell]
    change (if _ then _ else _) = _
    rw [if_neg (not_not_intro rfl), if_pos hlength]

/-- A strkey shows its kind by the leading letter. -/
theorem head?_of_decode (h : decode kind text = .ok payload) :
    text.toList.head? = some kind.letter := by
  rw [(decode_eq_ok_iff.1 h).2, String.toList_ofList, head?_spell]

theorem kindOf_eq_ok_iff : kindOf text = .ok kind ↔ ∃ payload, decode kind text = .ok payload := by
  constructor
  · intro h
    unfold kindOf at h
    cases hbody : body text with
    | error e =>
        rw [hbody] at h
        cases h
    | ok read =>
        obtain ⟨version, payload⟩ := read
        rw [hbody] at h
        dsimp only [bind, Except.bind] at h
        split at h
        · cases h
        · next found hfound =>
            split at h
            · next hlength =>
                cases h
                rw [ofVersion?_eq_some_iff.1 hfound] at hbody
                exact ⟨payload, decode_eq_ok_iff.2 ⟨hlength, body_eq_ok_iff.1 hbody⟩⟩
            · cases h
  · rintro ⟨payload, h⟩
    obtain ⟨hlength, rfl⟩ := decode_eq_ok_iff.1 h
    unfold kindOf
    rw [body_spell]
    dsimp only [bind, Except.bind]
    rw [ofVersion?_eq_some_iff.2 rfl]
    exact if_pos hlength

/-- A text has the kind that it is read as. -/
theorem kind_unique (h : decode kind text = .ok payload) (h' : decode kind' text = .ok payload') :
    kind = kind' := by
  have hkind := kindOf_eq_ok_iff.2 ⟨payload, h⟩
  rw [kindOf_eq_ok_iff.2 ⟨payload', h'⟩] at hkind
  exact (Except.ok.inj hkind).symm

theorem isValid_none_iff :
    isValid text none = true ↔ ∃ kind payload, decode kind text = .ok payload := by
  unfold isValid
  cases hkind : kindOf text with
  | error e =>
      refine iff_of_false Bool.false_ne_true ?_
      rintro ⟨kind, hdecode⟩
      rw [kindOf_eq_ok_iff.2 hdecode] at hkind
      cases hkind
  | ok kind => exact iff_of_true rfl ⟨kind, kindOf_eq_ok_iff.1 hkind⟩

theorem isValid_some_iff {kinds : List Kind} :
    isValid text (some kinds) = true ↔ ∃ kind ∈ kinds, ∃ payload, decode kind text = .ok payload := by
  unfold isValid
  cases hkind : kindOf text with
  | error e =>
      refine iff_of_false Bool.false_ne_true ?_
      rintro ⟨kind, -, hdecode⟩
      rw [kindOf_eq_ok_iff.2 hdecode] at hkind
      cases hkind
  | ok kind =>
      show kinds.contains kind = true ↔ _
      rw [List.contains_iff_mem]
      constructor
      · exact fun hmem => ⟨kind, hmem, kindOf_eq_ok_iff.1 hkind⟩
      · rintro ⟨found, hmem, payload, hdecode⟩
        obtain ⟨_, hown⟩ := kindOf_eq_ok_iff.1 hkind
        rwa [kind_unique hown hdecode]

/-! ## The grammar -/

/-- What the readers of strkeys say about a text. -/
structure Reading (text : String) : Prop where
  /-- It is read as a payload exactly when it is how that payload is written. -/
  decode_iff (kind : Kind) (payload : Bytes) : decode kind text = .ok payload ↔
    payload.length = kind.payloadLength ∧ encode kind payload = .ok text
  /-- Every other text is refused. -/
  refused_iff (kind : Kind) :
    (∃ e, decode kind text = .error e) ↔ ∀ payload, encode kind payload ≠ .ok text
  kindOf_iff (kind : Kind) : kindOf text = .ok kind ↔ ∃ payload, decode kind text = .ok payload
  kind_unique (kind kind' : Kind) (payload payload' : Bytes) :
    decode kind text = .ok payload → decode kind' text = .ok payload' → kind = kind'
  isValid_iff : isValid text none = true ↔ ∃ kind payload, decode kind text = .ok payload
  isValid_of_iff (kinds : List Kind) : isValid text (some kinds) = true ↔
    ∃ kind ∈ kinds, ∃ payload, decode kind text = .ok payload

/-- **Strkeys are accepted exactly in their grammar.**  A text is read as what it is written for, and
each payload of the length of its kind has one accepted spelling, which starts with the letter of the
kind. -/
theorem decode_exactly_encoded :
    (∀ text, Reading text) ∧
      ∀ (kind : Kind) (payload : Bytes), payload.length = kind.payloadLength →
        ∃ text, encode kind payload = .ok text ∧ text.toList.head? = some kind.letter ∧
          ∀ other, decode kind other = .ok payload ↔ other = text := by
  constructor
  · intro text
    have hdecode : ∀ kind payload, decode kind text = .ok payload ↔
        payload.length = kind.payloadLength ∧ encode kind payload = .ok text := by
      intro kind payload
      rw [decode_eq_ok_iff, encode_eq_ok_iff, and_self_left]
    refine ⟨hdecode, ?_, fun kind => kindOf_eq_ok_iff, fun kind kind' payload payload' => kind_unique,
      isValid_none_iff, fun kinds => isValid_some_iff⟩
    intro kind
    constructor
    · rintro ⟨e, herror⟩ payload hencode
      rw [(hdecode kind payload).2 ⟨(encode_eq_ok_iff.1 hencode).1, hencode⟩] at herror
      cases herror
    · intro hnone
      cases hread : decode kind text with
      | error e => exact ⟨e, rfl⟩
      | ok payload => exact absurd ((hdecode kind payload).1 hread).2 (hnone payload)
  · intro kind payload hlength
    refine ⟨_, encode_eq_ok_iff.2 ⟨hlength, rfl⟩, ?_, fun other => ?_⟩
    · rw [String.toList_ofList, head?_spell]
    · rw [decode_eq_ok_iff, and_iff_right hlength]

end Strkey
end LedgerFlow
