import LedgerFlow.Proofs.Codec.Base64
import LedgerFlow.Proofs.Transaction.Reading
import LedgerFlow.Wire

/-!
# Wire text read back

The wire text of a model is read back as a model that agrees with it, whether the type of the model
is named or found by its fields.  Two models agree when they are the same but for their dynamic
values, and those agree: map entries may change their order, and one NaN may stand for another.

What a model has to meet is what the reader asks of any payload: the keys of its maps are scalars
that differ, and no more containers nest than the reader follows.  The payload of a model has fewer
than `2 ^ 64` bytes, as any sequence of bytes in memory does.
-/

namespace LedgerFlow

variable {ο : Type} [Objects ο]

namespace Wire

/-- The wire text of a map whose keys differ holds its canonical form. -/
theorem payload_encode [Cbor.Library ο] [Cbor.Library.Lawful ο]
    {entries : List (Value ο × Value ο)}
    (hkeys : (Value.map entries).hasDistinctKeys = true)
    (hdepth : (Value.map entries).depth ≤ Cbor.maxDepth)
    (hsize : (Cbor.encode (.map entries)).length < 2 ^ 64) :
    payload (encode (.map entries)) = .ok (Value.map entries).canonical := by
  have hbytes : Cbor.encode (.map entries) ≠ [] :=
    List.length_pos_iff.1 (Cbor.length_encode_pos _ nofun)
  simp only [payload, encode, Base64.trim_encode, Base64.encode_ne_empty hbytes,
    Base64.decode?_encode, Value.decode?_encode_of_hasDistinctKeys hkeys hdepth hsize,
    Value.canonical_map]
  rfl

end Wire

namespace Model

def mapValues (f : Value ο → Value ο) : Model ο → Model ο
  | .envelope e => .envelope (e.mapValues f)
  | .transaction tx => .transaction (tx.mapValues f)
  | .authEntry e => .authEntry (e.mapValues f)
  | .sorobanData d => .sorobanData (d.mapValues f)

/-- The same model but for its dynamic values, which agree. -/
def Agrees (m m' : Model ο) : Prop :=
  ∃ f : Value ο → Value ο, (∀ v, Value.Agree v (f v)) ∧ m' = m.mapValues f

/-- Reads wire text as a model of the type that another model has. -/
def ofWireAs [Cbor.Library ο] (like : Model ο) (text : String) : Value.Read (Model ο) :=
  match like with
  | .envelope _ => .envelope <$> Envelope.ofWire text
  | .transaction _ => .transaction <$> Transaction.ofWire text
  | .authEntry _ => .authEntry <$> AuthEntry.ofWire text
  | .sorobanData _ => .sorobanData <$> SorobanData.ofWire text

theorem agrees_canonical (m : Model ο) : m.Agrees (m.mapValues Value.canonical) :=
  ⟨Value.canonical, Value.agree_canonical, rfl⟩

omit [Objects ο] in
/-- Every model is written as a map. -/
theorem exists_toValue_eq_map (m : Model ο) : ∃ entries, m.toValue = .map entries := by
  cases m <;> exact ⟨_, rfl⟩

/-- The first of the marking fields is one that only models of the type have. -/
theorem ofValue_canonical (m : Model ο) :
    ofValue m.toValue.canonical = .ok (m.mapValues Value.canonical) := by
  cases m with
  | envelope e =>
      have htx : (e.toValue.canonical.field? "tx").isSome = true := by
        simp [Envelope.toValue, Value.field?_canonical_record]
      rw [toValue, ofValue, if_pos htx, Envelope.ofValue_canonical]
      rfl
  | transaction tx =>
      have htx : ¬(tx.toValue.canonical.field? "tx").isSome = true := by
        simp [Transaction.toValue, Value.field?_canonical_record, List.lookup_cons]
      have hseq : (tx.toValue.canonical.field? "seqNum").isSome = true := by
        simp [Transaction.toValue, Value.field?_canonical_record, List.lookup_cons]
      rw [toValue, ofValue, if_neg htx, if_pos hseq, Transaction.ofValue_canonical]
      rfl
  | authEntry e =>
      have hnames : ∀ key, key = "tx" ∨ key = "seqNum" →
          ¬(e.toValue.canonical.field? key).isSome = true := by
        intro key hkey
        obtain ⟨invocation, address, nonce, expiration, signature⟩ := e
        rcases hkey with rfl | rfl <;> cases signature <;>
          simp [AuthEntry.toValue, Value.field?_canonical_record, List.lookup_cons]
      have hroot : (e.toValue.canonical.field? "rootInvocation").isSome = true := by
        obtain ⟨invocation, address, nonce, expiration, signature⟩ := e
        cases signature <;> simp [AuthEntry.toValue, Value.field?_canonical_record]
      rw [toValue, ofValue, if_neg (hnames _ (.inl rfl)), if_neg (hnames _ (.inr rfl)),
        if_pos hroot, AuthEntry.ofValue_canonical]
      rfl
  | sorobanData d =>
      have hnames : ∀ key, key = "tx" ∨ key = "seqNum" ∨ key = "rootInvocation" →
          ¬(d.toValue.canonical.field? key).isSome = true := by
        intro key hkey
        rcases hkey with rfl | rfl | rfl <;>
          simp [SorobanData.toValue, Value.field?_canonical_record, List.lookup_cons]
      have hresources : (d.toValue.canonical.field? "resources").isSome = true := by
        simp [SorobanData.toValue, Value.field?_canonical_record]
      rw [toValue, ofValue, if_neg (hnames _ (.inl rfl)), if_neg (hnames _ (.inr (.inl rfl))),
        if_neg (hnames _ (.inr (.inr rfl))), if_pos hresources, SorobanData.ofValue_canonical]
      rfl

/-- What the payload of a model is, once the reader accepts it. -/
theorem payload_wire_of_hasDistinctKeys [Cbor.Library ο] [Cbor.Library.Lawful ο] {m : Model ο}
    (hkeys : m.toValue.hasDistinctKeys = true)
    (hdepth : m.toValue.depth ≤ Cbor.maxDepth) (hsize : (Cbor.encode m.toValue).length < 2 ^ 64) :
    Wire.payload m.wire = .ok m.toValue.canonical := by
  obtain ⟨entries, hentries⟩ := exists_toValue_eq_map m
  rw [wire]
  rw [hentries] at hkeys hdepth hsize ⊢
  exact Wire.payload_encode hkeys hdepth hsize

theorem payload_wire [Cbor.Library ο] [Cbor.Library.Lawful ο] {m : Model ο}
    (hkeys : m.toValue.wellKeyed = true)
    (hdepth : m.toValue.depth ≤ Cbor.maxDepth) (hsize : (Cbor.encode m.toValue).length < 2 ^ 64) :
    Wire.payload m.wire = .ok m.toValue.canonical :=
  payload_wire_of_hasDistinctKeys (Value.hasDistinctKeys_of_wellKeyed hkeys) hdepth hsize

/-- **Wire text is read back.**  For every model whose maps have scalar keys that differ and that
nests at most as many containers as the reader follows, reading its wire text as the type of the
model gives a model that agrees with it, and reading it without knowing the type gives the same
one. -/
theorem wire_roundTrip (m : Model) (hkeys : m.toValue.wellKeyed = true)
    (hdepth : m.toValue.depth ≤ Cbor.maxDepth) (hsize : (Cbor.encode m.toValue).length < 2 ^ 64) :
    ∃ m', m.Agrees m' ∧ ofWireAs m m.wire = .ok m' ∧ ofAnyWire m.wire = .ok m' := by
  have hpayload := payload_wire hkeys hdepth hsize
  refine ⟨m.mapValues Value.canonical, agrees_canonical m, ?_, ?_⟩
  · cases m with
    | envelope e =>
        rw [ofWireAs, Envelope.ofWire, Wire.decode, hpayload, toValue, ok_bind,
          Envelope.ofValue_canonical]
        rfl
    | transaction tx =>
        rw [ofWireAs, Transaction.ofWire, Wire.decode, hpayload, toValue, ok_bind,
          Transaction.ofValue_canonical]
        rfl
    | authEntry e =>
        rw [ofWireAs, AuthEntry.ofWire, Wire.decode, hpayload, toValue, ok_bind,
          AuthEntry.ofValue_canonical]
        rfl
    | sorobanData d =>
        rw [ofWireAs, SorobanData.ofWire, Wire.decode, hpayload, toValue, ok_bind,
          SorobanData.ofValue_canonical]
        rfl
  · rw [ofAnyWire, hpayload, ok_bind, ofValue_canonical]

/-- An envelope with both ways of signing, a contract call inside a contract call, a map with keys of
three types, numbers of more than 64 bits, and two NaNs. -/
theorem wire_roundTrip_nested :
    let args : Value := .list [.map [(.float .nan, .list [.null, .bool true]), (.int 1, .text "é"),
      (.text "", .bytes [0xFF])], .float ⟨0x3FF8000000000000⟩, .int (-2 ^ 70)]
    let entry : AuthEntry :=
      { invocation := .mk "C" "f" [.float ⟨0x7FF8000000000001⟩] [.mk "D" "g" [] []]
        address := .text "G", nonce := 2 ^ 64, signature := some ⟨[1], [2]⟩ }
    let tx : Transaction :=
      { sourceAccount := "G", seqNum := 7, memo := some ⟨.text, .text ""⟩, timeBounds := some {}
        operations := [{ body := .invokeContract (.text "C") (.text "f") args [entry] },
          { body := .endSponsoringFutureReserves, sourceAccount := .text "H" }] }
    let m : Model := .envelope { tx, signatures := [⟨[1, 2, 3, 4], []⟩] }
    m.toValue.wellKeyed = true ∧ m.toValue.depth ≤ Cbor.maxDepth ∧
      (Cbor.encode m.toValue).length < 2 ^ 64 ∧
      ∃ m', m.Agrees m' ∧ ofWireAs m m.wire = .ok m' ∧ ofAnyWire m.wire = .ok m' := by
  intro args entry tx m
  have hkeys : m.toValue.wellKeyed = true := by decide
  have hdepth : m.toValue.depth ≤ Cbor.maxDepth := by decide
  have hsize : (Cbor.encode m.toValue).length < 2 ^ 64 := by
    rw [Cbor.length_encode]
    decide
  exact ⟨hkeys, hdepth, hsize, wire_roundTrip m hkeys hdepth hsize⟩

end Model
end LedgerFlow
