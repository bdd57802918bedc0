import LedgerFlow.Proofs.Transaction.Bytes
import LedgerFlow.Proofs.Transaction.Keys
import LedgerFlow.Proofs.Wire.RoundTrip

/-!
# Lenient wire text normalises once

Wire text may spell a model in many ways: map entries in any order, indefinite lengths, numbers as text,
fields that are missing or unknown, body fields of any type.  Whatever was accepted, the wire text of
the model that came out is its normal form: read again it gives a model that agrees, with the same wire
text and the same hash.

Two facts carry this.  What is read is well keyed (`wellKeyed_of_readAs`), so its wire text is read back
(`readAs_canonical`), and what is read back differs by values in canonical form only, which keeps every
byte (`encode_toValue_canonical`).
-/

namespace LedgerFlow

/-! ## A library of one object -/

/-- The undefined, which is nothing else and counts as absent. -/
inductive Undefined where
  | undefined

instance : Objects Undefined where
  bytes _ := [0xF7]
  canonical := id
  bytes_canonical _ := rfl
  depth _ := 0
  hasScalarKeys _ := true
  equals _
    | .object .undefined => true
    | _ => false
  isTruthy _ := false
  shown _ := "undefined"
  hasLongNumber _ := false
  field? _ _ := none
  getD _ _ _ := .error .noFields
  require _ _ := .error .wrongType
  toText _ := .ok "undefined"
  toInt _ := .error .wrongType
  toByte _ := .error .wrongType
  toBytes _ := .error .wrongType
  toItems _ := .error .wrongType

/-- Reads the byte that stands for the undefined. -/
def Undefined.read? : Bytes → Cbor.Read (Value Undefined × Bytes)
  | 0xF7 :: rest => .ok (.object .undefined, rest)
  | _ => .error .foreign

theorem Undefined.eq_of_read? {bs rest : Bytes} {v : Value Undefined} (h : read? bs = .ok (v, rest)) :
    v = .object .undefined := by
  unfold read? at h
  split at h <;> cases h
  rfl

instance : Cbor.Library Undefined where
  read _ _ := Undefined.read?

instance : Cbor.Library.Lawful Undefined where
  readsBack _ := by
    rintro ⟨⟩ depth rest - -
    cases depth <;> rfl
  wellKeyed_of_read h _ := by
    rw [Undefined.eq_of_read? h]
    rfl
  wellKeyed_of_field? _ h := nomatch h
  wellKeyed_of_getD _ _ h := nomatch h
  wellKeyed_of_require _ h := nomatch h
  wellKeyed_of_toItems _ h := nomatch h

variable {ο : Type} [Objects ο]

namespace Wire

/-- The map in a payload is what base-64 text of the payload holds. -/
theorem payload_of_decode? [Cbor.Library ο] {raw : Bytes} {entries : List (Value ο × Value ο)}
    (h : Cbor.decode? raw = .ok (.map entries)) :
    payload (Base64.encode raw) = .ok (.map entries) := by
  have hraw : raw ≠ [] := by
    rintro rfl
    cases h
  simp only [payload, Base64.trim_encode, Base64.encode_ne_empty hraw, Base64.decode?_encode, h]
  rfl

/-- A payload is a decoded value. -/
theorem exists_decode?_of_payload [Cbor.Library ο] {text : String} {v : Value ο}
    (h : payload text = .ok v) :
    ∃ raw, Cbor.decode? raw = .ok v := by
  unfold payload at h
  dsimp only at h
  split at h
  · cases h
  · split at h
    · cases h
    · split at h
      · cases h
      · cases h
      · next raw _ _ entries hraw =>
          cases h
          exact ⟨raw, hraw⟩
      · cases h

theorem asModel_eq_ok_iff {α : Type} {model : String} {r : Value.Read α} {a : α} :
    asModel model r = .ok a ↔ r = .ok a := by
  unfold asModel
  split <;> simp

end Wire

namespace Model

/-- Reads a value as a model of the type that another model has. -/
def readAs (like : Model ο) (v : Value ο) : Value.Read (Model ο) :=
  match like with
  | .envelope _ => .envelope <$> Envelope.ofValue v
  | .transaction _ => .transaction <$> Transaction.ofValue v
  | .authEntry _ => .authEntry <$> AuthEntry.ofValue v
  | .sorobanData _ => .sorobanData <$> SorobanData.ofValue v

/-- The transaction that a model is or carries. -/
def transaction? : Model ο → Option (Transaction ο)
  | .envelope e => some e.tx
  | .transaction tx => some tx
  | _ => none

/-- Wire text is read by reading its payload. -/
theorem ofWireAs_eq_ok_iff [Cbor.Library ο] {like m : Model ο} {text : String} :
    ofWireAs like text = .ok m ↔ ∃ v, Wire.payload text = .ok v ∧ readAs like v = .ok m := by
  have hdecode : ∀ {α : Type} (model : String) (read : Value ο → Value.Read α) (build : α → Model ο),
      (build <$> Wire.decode model read text) = .ok m ↔
        ∃ v, Wire.payload text = .ok v ∧ (build <$> read v) = .ok m := by
    intro α model read build
    simp only [Wire.decode, Value.map_eq_ok, Value.bind_eq_ok, Wire.asModel_eq_ok_iff]
    constructor
    · rintro ⟨a, ⟨v, hv, ha⟩, hm⟩
      exact ⟨v, hv, a, ha, hm⟩
    · rintro ⟨v, hv, a, ha, hm⟩
      exact ⟨a, ⟨v, hv, ha⟩, hm⟩
  cases like with
  | envelope e => exact hdecode _ _ _
  | transaction tx => exact hdecode _ _ _
  | authEntry e => exact hdecode _ _ _
  | sorobanData d => exact hdecode _ _ _

/-- What is read has the type that was asked for. -/
theorem readAs_eq_of_readAs {like m : Model ο} {v : Value ο} (h : readAs like v = .ok m) :
    readAs m = readAs like := by
  cases like <;> (obtain ⟨a, -, rfl⟩ := Value.map_eq_ok.1 h; rfl)

theorem wellKeyed_of_readAs [Objects.Lawful ο] {like m : Model ο} {v : Value ο}
    (hv : v.wellKeyed = true) (h : readAs like v = .ok m) : m.toValue.wellKeyed = true := by
  cases like with
  | envelope e =>
      obtain ⟨a, ha, rfl⟩ := Value.map_eq_ok.1 h
      exact Envelope.wellKeyed_of_ofValue hv ha
  | transaction tx =>
      obtain ⟨a, ha, rfl⟩ := Value.map_eq_ok.1 h
      exact Transaction.wellKeyed_of_ofValue hv ha
  | authEntry e =>
      obtain ⟨a, ha, rfl⟩ := Value.map_eq_ok.1 h
      exact AuthEntry.wellKeyed_of_ofValue hv ha
  | sorobanData d =>
      obtain ⟨a, ha, rfl⟩ := Value.map_eq_ok.1 h
      exact SorobanData.wellKeyed_of_ofValue hv ha

/-- The canonical form of what a model is written as is read back with values in canonical form. -/
theorem readAs_canonical (m : Model ο) :
    readAs m m.toValue.canonical = .ok (m.mapValues Value.canonical) := by
  cases m with
  | envelope e => exact Value.map_eq_ok.2 ⟨_, Envelope.ofValue_canonical e, rfl⟩
  | transaction tx => exact Value.map_eq_ok.2 ⟨_, Transaction.ofValue_canonical tx, rfl⟩
  | authEntry e => exact Value.map_eq_ok.2 ⟨_, AuthEntry.ofValue_canonical e, rfl⟩
  | sorobanData d => exact Value.map_eq_ok.2 ⟨_, SorobanData.ofValue_canonical d, rfl⟩

/-- Values in canonical form leave the bytes of a model as they are. -/
theorem encode_toValue_canonical (m : Model ο) :
    Cbor.encode (m.mapValues Value.canonical).toValue = Cbor.encode m.toValue := by
  cases m with
  | envelope e => exact Envelope.encode_mapValues Value.encode_canonical e
  | transaction tx => exact Transaction.encode_mapValues Value.encode_canonical tx
  | authEntry e => exact AuthEntry.encode_mapValues Value.encode_canonical e
  | sorobanData d => exact SorobanData.encode_mapValues Value.encode_canonical d

/-- What is hashed holds the transaction as it is written. -/
theorem hashBytes_mapValues_canonical (tx : Transaction ο) (passphrase : String) :
    (tx.mapValues Value.canonical).hashBytes passphrase = tx.hashBytes passphrase := by
  have hbytes : Cbor.encode ((tx.mapValues Value.canonical).preimage passphrase) =
      Cbor.encode (tx.preimage passphrase) :=
    Cbor.encode_record_congr (by simp [Transaction.encode_mapValues Value.encode_canonical tx])
  rw [Transaction.hashBytes, Transaction.hashBytes, hbytes]

theorem hash_mapValues_canonical (tx : Transaction ο) (passphrase : String) :
    (tx.mapValues Value.canonical).hash passphrase = tx.hash passphrase :=
  congrArg Hex.encode (hashBytes_mapValues_canonical tx passphrase)

theorem hash_transaction?_canonical (m : Model ο) (passphrase : String) :
    (m.mapValues Value.canonical).transaction?.map (·.hash passphrase) =
      m.transaction?.map (·.hash passphrase) := by
  cases m with
  | envelope e => exact congrArg some (hash_mapValues_canonical e.tx passphrase)
  | transaction tx => exact congrArg some (hash_mapValues_canonical tx passphrase)
  | authEntry e => rfl
  | sorobanData d => rfl

/-- **Wire text normalises once and for all.**  Whenever any wire text, with scalars as keys of its
maps, is read as a model that nests at most as many containers as the reader follows, the wire text of
that model is read as a model of the same type that agrees with it, has the same wire text again, and,
if it is or carries a transaction, the same hash on every network.  The bytes of the model have to be as
many as a length in them can say.

What the payload library makes of other items, such as dates, may stand anywhere in the text.  All that is
relied on is that the library reads back what it writes (`Cbor.Library.Lawful`). -/
theorem wire_normalizes [Cbor.Library ο] [Cbor.Library.Lawful ο] {like m : Model ο} {text : String}
    (hread : ofWireAs like text = .ok m)
    (hscalar : ∀ v : Value ο, Wire.payload text = .ok v → v.hasScalarKeys = true)
    (hdepth : m.toValue.depth ≤ Cbor.maxDepth) (hsize : (Cbor.encode m.toValue).length < 2 ^ 64) :
    ∃ m', m.Agrees m' ∧ ofWireAs like m.wire = .ok m' ∧ m'.wire = m.wire ∧
      ∀ passphrase, m'.transaction?.map (·.hash passphrase) =
        m.transaction?.map (·.hash passphrase) := by
  obtain ⟨v, hpayload, hmodel⟩ := ofWireAs_eq_ok_iff.1 hread
  obtain ⟨raw, hraw⟩ := Wire.exists_decode?_of_payload hpayload
  have hkeys : m.toValue.wellKeyed = true :=
    wellKeyed_of_readAs (Cbor.wellKeyed_of_decode? hraw (hscalar v hpayload)) hmodel
  have hback : ofWireAs like m.wire = .ok (m.mapValues Value.canonical) := by
    refine ofWireAs_eq_ok_iff.2 ⟨_, payload_wire hkeys hdepth hsize, ?_⟩
    rw [← readAs_eq_of_readAs hmodel]
    exact readAs_canonical m
  refine ⟨m.mapValues Value.canonical, agrees_canonical m, hback, ?_, hash_transaction?_canonical m⟩
  rw [wire, wire, Wire.encode, Wire.encode, encode_toValue_canonical]

/-- A transaction in a map of indefinite length, with its sequence number as text, its fee in more bytes
than needed, an unknown field that is undefined, a name that is a NaN, and in a body field twice the same
key and something undefined. -/
theorem wire_normalizes_lenient :
    let raw : Bytes :=
      [0xBF, 0x66, 0x73, 0x65, 0x71, 0x4E, 0x75, 0x6D, 0x61, 0x37,
        0x6D, 0x73, 0x6F, 0x75, 0x72, 0x63, 0x65, 0x41, 0x63, 0x63, 0x6F, 0x75, 0x6E, 0x74, 0x61, 0x47,
        0x63, 0x66, 0x65, 0x65, 0x1B, 0x00, 0x00, 0x00, 0x00, 0x00, 0x00, 0x00, 0x64,
        0x61, 0x78, 0xF7,
        0x6A, 0x6F, 0x70, 0x65, 0x72, 0x61, 0x74, 0x69, 0x6F, 0x6E, 0x73, 0x9F,
        0xA1, 0x64, 0x62, 0x6F, 0x64, 0x79, 0xA3,
        0x64, 0x6B, 0x69, 0x6E, 0x64, 0x6B, 0x6D, 0x61, 0x6E, 0x61, 0x67, 0x65, 0x5F, 0x64, 0x61,
        0x74, 0x61,
        0x64, 0x6E, 0x61, 0x6D, 0x65, 0xF9, 0x7E, 0x01,
        0x65, 0x76, 0x61, 0x6C, 0x75, 0x65, 0xA3, 0x02, 0xF7, 0x01, 0xF6, 0xF5, 0xF4, 0xFF, 0xFF]
    let text := Base64.encode raw
    let like : Model Undefined := .transaction default
    let body : Body Undefined :=
      .manageData (.float .nan) (.map [(.int 2, .object .undefined), (.int 1, .bool false)])
    let m : Model Undefined := .transaction { sourceAccount := "G", seqNum := 7, operations := [{ body }] }
    ofWireAs like text = .ok m ∧
      (∀ v : Value Undefined, Wire.payload text = .ok v → v.hasScalarKeys = true) ∧
      m.toValue.depth ≤ Cbor.maxDepth ∧ (Cbor.encode m.toValue).length < 2 ^ 64 ∧
      ∃ m', m.Agrees m' ∧ ofWireAs like m.wire = .ok m' ∧ m'.wire = m.wire ∧
        ∀ passphrase, m'.transaction?.map (·.hash passphrase) =
          m.transaction?.map (·.hash passphrase) := by
  intro raw text like body m
  have hraw : Cbor.decode? raw = .ok ((.map [(.text "seqNum", .text "7"),
      (.text "sourceAccount", .text "G"), (.text "fee", .int 100), (.text "x", .object .undefined),
      (.text "operations", .list [.map [(.text "body", .map [(.text "kind", .text "manage_data"),
        (.text "name", .float .nan),
        (.text "value", .map [(.int 2, .object .undefined), (.int 1, .bool false)])])]])]) :
          Value Undefined) := by
    rfl
  have hpayload := Wire.payload_of_decode? hraw
  have hread : ofWireAs like text = .ok m := ofWireAs_eq_ok_iff.2 ⟨_, hpayload, rfl⟩
  have hscalar : ∀ v : Value Undefined, Wire.payload text = .ok v → v.hasScalarKeys = true := by
    intro v hv
    rw [hpayload] at hv
    obtain rfl := Except.ok.inj hv
    rfl
  have hdepth : m.toValue.depth ≤ Cbor.maxDepth := by decide
  have hsize : (Cbor.encode m.toValue).length < 2 ^ 64 := by
    rw [Cbor.length_encode]
    decide
  exact ⟨hread, hscalar, hdepth, hsize, wire_normalizes hread hscalar hdepth hsize⟩

end Model
end LedgerFlow
