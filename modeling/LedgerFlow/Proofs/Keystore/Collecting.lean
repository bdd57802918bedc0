import LedgerFlow.Proofs.Keystore
import LedgerFlow.Proofs.Wire.Normal

/-!
# Collecting signatures

A transaction or an envelope goes round: it is signed for one address after the other with the keys of a
store, and between two signings it may be written as wire text and read again.  An address that the store
has no key for is refused, and the model goes on as it was.

Whatever the round, the model at its end is the first one with more signatures behind its own, and at most
its values have been put in canonical form (`outcome_collect`).  Neither changes what is signed: the hash is
one of the transaction alone, and canonical form keeps the bytes that are hashed.  So every signature that
is put down in a round verifies at its end, under the address that it was put down for (`collect_signs`).
-/

namespace LedgerFlow

/-! ## What wire text can hold -/

namespace Value

/-- Whether a map is read back from its wire text: the keys inside it differ, no more containers nest than
the reader follows, and a length in the bytes can say how many these are. -/
structure Readable (v : Value) : Prop where
  keys : v.hasDistinctKeys = true
  depth : v.depth ≤ Cbor.maxDepth
  size : (Cbor.encode v).length < 2 ^ 64

theorem Readable.of_mem {fields : List (String × Value)} (h : (record fields).Readable)
    (hnames : (fields.map (·.1)).Nodup) {f : String × Value} (hf : f ∈ fields) : f.2.Readable := by
  have hmem : (.text f.1, f.2) ∈ fields.map fun f => ((.text f.1, f.2) : Value × Value) :=
    List.mem_map_of_mem hf
  obtain ⟨hkeys, hdepth, hsize⟩ := h
  refine ⟨(hasDistinctKeys_record hnames).1 hkeys f hf, ?_, ?_⟩
  · have hle : f.2.depth ≤ entriesDepth _ := (depth_le_of_mem_entries hmem).2
    rw [record, Value.depth] at hdepth
    omega
  · rw [record, Cbor.length_encode] at hsize
    rw [Cbor.length_encode]
    exact Nat.lt_of_le_of_lt (Cbor.size_le_of_mem_entries hmem) hsize

end Value

/-- An envelope that is read back is so with fewer signatures. -/
theorem Envelope.readable_of_append {tx : Transaction} {front back : List DecoratedSignature}
    (h : (Envelope.mk tx (front ++ back)).toValue.Readable) :
    (Envelope.mk tx front).toValue.Readable := by
  obtain ⟨hkeys, hdepth, hsize⟩ := h
  have hdepth_le := Value.depth_list_le_of_subset (List.map_subset DecoratedSignature.toValue
    (List.subset_append_left front back))
  have hsize_le := Cbor.size_list_le_append (front.map DecoratedSignature.toValue)
    (back.map DecoratedSignature.toValue)
  refine ⟨?_, ?_, ?_⟩
  · rw [toValue, Value.hasDistinctKeys_record (by simp)] at hkeys ⊢
    simp only [List.forall_mem_cons, List.map_append, Value.hasDistinctKeys_list,
      List.forall_mem_append] at hkeys ⊢
    exact ⟨hkeys.1, hkeys.2.1.1, hkeys.2.2⟩
  · simp only [toValue, Value.record, List.map_cons, List.map_nil, Value.depth,
      Value.entriesDepth] at hdepth hdepth_le ⊢
    omega
  · rw [Cbor.length_encode] at hsize ⊢
    simp only [toValue, Value.record, List.map_append, List.map_cons, List.map_nil, Cbor.size,
      Cbor.entriesSize, List.length_cons, List.length_nil] at hsize hsize_le ⊢
    omega

/-! ## Models with more signatures -/

namespace Model

/-- The envelope as which a model is signed. -/
def envelope? : Model → Option Envelope
  | .envelope e => some e
  | .transaction tx => some { tx }
  | _ => none

/-- A model with more signatures; without any, a transaction stays bare. -/
def withSignatures (m : Model) (sigs : List DecoratedSignature) : Model :=
  match m.envelope?, sigs with
  | some e, _ :: _ => .envelope { e with signatures := e.signatures ++ sigs }
  | _, _ => m

variable {m : Model} {e : Envelope} {sigs : List DecoratedSignature}

theorem withSignatures_nil (m : Model) : m.withSignatures [] = m := by
  unfold withSignatures
  split
  · next hcons => cases hcons
  · rfl

theorem withSignatures_of_ne_nil (h : m.envelope? = some e) (hsigs : sigs ≠ []) :
    m.withSignatures sigs = .envelope { e with signatures := e.signatures ++ sigs } := by
  obtain ⟨sig, more, rfl⟩ := List.exists_cons_of_ne_nil hsigs
  simp only [withSignatures, h]

theorem envelope?_withSignatures (h : m.envelope? = some e) (sigs : List DecoratedSignature) :
    (m.withSignatures sigs).envelope? = some { e with signatures := e.signatures ++ sigs } := by
  cases sigs with
  | nil => rw [withSignatures_nil, h, List.append_nil]
  | cons sig more => rw [withSignatures_of_ne_nil h (List.cons_ne_nil _ _), envelope?]

theorem withSignatures_append (h : m.envelope? = some e) (front back : List DecoratedSignature) :
    (m.withSignatures front).withSignatures back = m.withSignatures (front ++ back) := by
  by_cases hback : back = []
  · rw [hback, withSignatures_nil, List.append_nil]
  · rw [withSignatures_of_ne_nil (envelope?_withSignatures h front) hback,
      withSignatures_of_ne_nil h (List.append_ne_nil_of_right_ne_nil front hback), List.append_assoc]

theorem envelope?_mapValues (h : m.envelope? = some e) (f : Value → Value) :
    (m.mapValues f).envelope? = some (e.mapValues f) := by
  cases m <;> cases h <;> rfl

theorem withSignatures_mapValues (h : m.envelope? = some e) (f : Value → Value)
    (sigs : List DecoratedSignature) :
    (m.mapValues f).withSignatures sigs = (m.withSignatures sigs).mapValues f := by
  by_cases hsigs : sigs = []
  · rw [hsigs, withSignatures_nil, withSignatures_nil]
  · rw [withSignatures_of_ne_nil (envelope?_mapValues h f) hsigs, withSignatures_of_ne_nil h hsigs]
    rfl

/-- A model that is read back is so with fewer signatures. -/
theorem readable_of_withSignatures (h : m.envelope? = some e)
    (hreadable : (m.withSignatures sigs).toValue.Readable) : m.toValue.Readable := by
  by_cases hsigs : sigs = []
  · rwa [hsigs, withSignatures_nil] at hreadable
  · rw [withSignatures_of_ne_nil h hsigs] at hreadable
    have hunsigned := Envelope.readable_of_append hreadable
    cases m with
    | envelope e' =>
        cases h
        exact hunsigned
    | transaction tx =>
        -- Without its first signature, a transaction is no envelope but a field of one.
        cases h
        exact hunsigned.of_mem (f := ("tx", tx.toValue)) (by simp) List.mem_cons_self
    | _ => cases h

theorem readable_transaction (h : m.envelope? = some e) (hreadable : m.toValue.Readable) :
    e.tx.toValue.Readable := by
  cases m with
  | envelope e' =>
      cases h
      exact hreadable.of_mem (f := ("tx", e.tx.toValue)) (by simp) List.mem_cons_self
  | transaction tx =>
      cases h
      exact hreadable
  | _ => cases h

/-- What is read from the wire text of a model is its canonical form. -/
theorem ofAnyWire_wire (h : m.toValue.Readable) : ofAnyWire m.wire = .ok (m.mapValues Value.canonical) := by
  rw [ofAnyWire, payload_wire_of_hasDistinctKeys h.keys h.depth h.size, ok_bind, ofValue_canonical]

theorem wire_mapValues_canonical (m : Model) : (m.mapValues Value.canonical).wire = m.wire := by
  rw [wire, wire, Wire.encode, Wire.encode, encode_toValue_canonical]

end Model

/-! ## Marks -/

namespace Keystore

variable {ω : Type} {store : Keystore} {digest : Bytes} {address passphrase : String}

/-- The last four bytes of a key. -/
def ending (key : Bytes) : Bytes := key.drop (key.length - 4)

/-- What signing for an address puts down: the end of the key and its signature of the digest. -/
def mark (store : Keystore) (digest : Bytes) (address : String) : Option DecoratedSignature :=
  (store.keys.lookup address).map fun raw =>
    { hint := ending (Ed25519.publicKey raw), signature := Ed25519.sign raw digest }

/-- Whether a signature is one of a digest for an address: its hint is the end of the key of the address,
and it verifies under it. -/
structure IsMark (store : Keystore) (digest : Bytes) (address : String) (sig : DecoratedSignature) :
    Prop where
  key : ∃ key, store.publicKey address = .ok key ∧ Strkey.publicKey address = .ok key ∧
    sig.hint <:+ key ∧ sig.hint.length = 4
  hint : Strkey.hint address = .ok sig.hint
  verifies : verify address digest sig.signature = .ok true

/-- The addresses that leave a mark are those of the store. -/
theorem isSome_mark_iff (store : Keystore) (digest : Bytes) (address : String) :
    (store.mark digest address).isSome = true ↔ address ∈ store.addresses := by
  unfold mark addresses
  rw [Option.isSome_map]
  induction store.keys with
  | nil => simp
  | cons k ks ih =>
      rw [List.lookup_cons, List.map_cons, List.mem_cons]
      cases haddress : address == k.1 with
      | true => exact iff_of_true rfl (.inl (beq_iff_eq.1 haddress))
      | false => rw [ih, or_iff_right (beq_eq_false_iff_ne.1 haddress)]

/-- A key that is behind an address and verifies a signature leaves a mark for its address. -/
theorem isMark_of_key {key signature : Bytes} (hown : store.publicKey address = .ok key)
    (hdecode : Strkey.decode .account address = .ok key)
    (hverifies : Ed25519.verify key digest signature = true) :
    store.IsMark digest address { hint := ending key, signature } := by
  have hlength : key.length = 32 := (Strkey.decode_eq_ok_iff.1 hdecode).1
  have hkey := Strkey.publicKey_of_decode hdecode
  refine ⟨⟨key, hown, hkey, List.drop_suffix _ _, ?_⟩, ?_, ?_⟩
  · rw [ending, List.length_drop, hlength]
  · rw [Strkey.hint, hkey]
    rfl
  · rw [verify, hkey]
    exact congrArg Except.ok hverifies

theorem publicKey_of_lookup {raw : Bytes} (h : store.keys.lookup address = some raw) :
    store.publicKey address = .ok (Ed25519.publicKey raw) := by
  rw [publicKey, seed, h]
  rfl

/-- A key that verifies its own signature of the digest leaves a mark for its address. -/
theorem isMark_of_mark (hstore : store.HoldsOwn)
    (hverify : ∀ k ∈ store.keys,
      Ed25519.verify (Ed25519.publicKey k.2) digest (Ed25519.sign k.2 digest) = true)
    {sig : DecoratedSignature} (h : store.mark digest address = some sig) :
    store.IsMark digest address sig := by
  obtain ⟨raw, hraw, rfl⟩ := Option.map_eq_some_iff.1 h
  have hmem := mem_keys_of_lookup hraw
  exact isMark_of_key (publicKey_of_lookup hraw) (hstore _ hmem) (hverify (address, raw) hmem)

/-- Signing for an address that has a key puts the mark behind the signatures. -/
theorem outcome_sign_of_mark (hstore : store.HoldsOwn) {e : Envelope} {sig : DecoratedSignature}
    (h : store.mark (e.tx.hashBytes passphrase) address = some sig) (s : Session ω) :
    ∃ s', (e.sign store.sign address passphrase).outcome s =
      (.ok { e with signatures := e.signatures ++ [sig] }, s') := by
  obtain ⟨raw, hraw, rfl⟩ := Option.map_eq_some_iff.1 h
  have hsignature : store.signature (e.tx.hashBytes passphrase) address =
      .ok (Ed25519.sign raw (e.tx.hashBytes passphrase)) := by
    rw [signature, seed, hraw]
    rfl
  have hhint : Strkey.hint address = .ok (ending (Ed25519.publicKey raw)) := by
    rw [Strkey.hint, Strkey.publicKey_of_decode (hstore _ (mem_keys_of_lookup hraw))]
    rfl
  unfold Envelope.sign sign
  rw [hsignature, hhint]
  exact ⟨_, rfl⟩

/-- Without a key for the address, signing is denied before anything else. -/
theorem outcome_sign_of_not_mark {e : Envelope}
    (h : store.mark (e.tx.hashBytes passphrase) address = none) (s : Session ω) :
    (e.sign store.sign address passphrase).outcome s =
      (.error (.pipeline (.signingDenied address "no key for this address")), s) := by
  have hraw := Option.map_eq_none_iff.1 h
  unfold Envelope.sign sign
  rw [signature, seed, hraw]
  rfl

/-! ## Rounds -/

/-- What can be done with a model that goes round. -/
inductive Move where
  | sign (address : String)
  | reread
  deriving DecidableEq

/-- A model that goes round, and the addresses that have signed it on the way. -/
structure Round where
  model : Model
  signed : List String := []

/-- The address that a move asks to sign. -/
def Move.address? : Move → Option String
  | .sign address => some address
  | .reread => none

/-- One move.  When signing fails, the round goes on as it was. -/
def Round.step (store : Keystore) (passphrase : String) (r : Round) : Move → Stage ω Round
  | .sign address =>
    match r.model.envelope? with
    | none => pure r
    | some e => do
      match ← Stage.attempt (e.sign store.sign address passphrase) with
      | .ok signed => pure { model := .envelope signed, signed := r.signed ++ [address] }
      | .error _ => pure r
  | .reread => do
    let model ← Stage.ofExcept ((Model.ofAnyWire r.model.wire).mapError .malformed)
    pure { r with model }

/-- A model after moves, one after the other. -/
def collect (store : Keystore) (passphrase : String) (start : Model) (moves : List Move) :
    Stage ω Round :=
  moves.foldlM (Round.step store passphrase) { model := start }

/-- What the signers of moves put down. -/
def marks (store : Keystore) (digest : Bytes) (moves : List Move) : List DecoratedSignature :=
  (moves.filterMap Move.address?).filterMap (store.mark digest)

/-- The signers of moves that have a key. -/
def signersAmong (store : Keystore) (moves : List Move) : List String :=
  (moves.filterMap Move.address?).filter fun address => address ∈ store.addresses

section

variable {r : Round} {m m' start : Model} {e : Envelope} {moves : List Move}

/-- Signing adds the mark of the address, if it has one, and nothing else. -/
theorem outcome_step_sign (hstore : store.HoldsOwn) (he : r.model.envelope? = some e) (address : String)
    (s : Session ω) :
    ∃ s', (r.step store passphrase (.sign address)).outcome s =
      (.ok { model := r.model.withSignatures (store.marks (e.tx.hashBytes passphrase) [.sign address])
             signed := r.signed ++ store.signersAmong [.sign address] }, s') := by
  have hmem := store.isSome_mark_iff (e.tx.hashBytes passphrase) address
  simp only [Round.step, he]
  cases hmark : store.mark (e.tx.hashBytes passphrase) address with
  | none =>
      have hmarks : store.marks (e.tx.hashBytes passphrase) [.sign address] = [] := by
        simp [marks, Move.address?, hmark]
      have hsigners : store.signersAmong [.sign address] = [] := by
        simp [signersAmong, Move.address?, ← hmem, hmark]
      rw [hmarks, hsigners, Model.withSignatures_nil, List.append_nil, Stage.outcome_bind,
        Stage.outcome_attempt, outcome_sign_of_not_mark hmark]
      exact ⟨s, rfl⟩
  | some sig =>
      have hmarks : store.marks (e.tx.hashBytes passphrase) [.sign address] = [sig] := by
        simp [marks, Move.address?, hmark]
      have hsigners : store.signersAmong [.sign address] = [address] := by
        simp [signersAmong, Move.address?, ← hmem, hmark]
      obtain ⟨s', hsign⟩ := outcome_sign_of_mark hstore hmark s
      rw [hmarks, hsigners, Model.withSignatures_of_ne_nil he (List.cons_ne_nil _ _),
        Stage.outcome_bind, Stage.outcome_attempt, hsign]
      exact ⟨s', rfl⟩

/-- What is read again is the canonical form of any model with the same wire text. -/
theorem outcome_step_reread (hwire : r.model.wire = m.wire) (hreadable : m.toValue.Readable)
    (s : Session ω) :
    (r.step store passphrase .reread).outcome s =
      (.ok { r with model := m.mapValues Value.canonical }, s) := by
  simp only [Round.step, hwire, Model.ofAnyWire_wire hreadable]
  rfl

/-- Whether a model is another one, or that one in canonical form because it has been read again. -/
def Spells (moves : List Move) (m m' : Model) : Prop :=
  m' = m ∨ .reread ∈ moves ∧ m' = m.mapValues Value.canonical

/-- Either spelling has the same wire text. -/
theorem Spells.wire_eq (h : Spells moves m m') : m'.wire = m.wire := by
  obtain rfl | ⟨-, rfl⟩ := h
  · rfl
  · exact Model.wire_mapValues_canonical m

/-- Either spelling is signed as an envelope with the same signatures. -/
theorem Spells.exists_envelope (h : Spells moves m m') (he : m.envelope? = some e) :
    ∃ e', m'.envelope? = some e' ∧ e'.signatures = e.signatures ∧
      Spells moves (.transaction e.tx) (.transaction e'.tx) := by
  obtain rfl | ⟨hmem, rfl⟩ := h
  · exact ⟨e, he, rfl, .inl rfl⟩
  · exact ⟨_, Model.envelope?_mapValues he _, rfl, .inr ⟨hmem, rfl⟩⟩

/-- Either spelling of a transaction has the same hash. -/
theorem Spells.hashBytes_eq {tx tx' : Transaction} (h : Spells moves (.transaction tx) (.transaction tx'))
    (passphrase : String) : tx'.hashBytes passphrase = tx.hashBytes passphrase := by
  obtain h | ⟨-, h⟩ := h <;> cases h
  · rfl
  · exact Model.hashBytes_mapValues_canonical tx passphrase

/-- Either spelling stands for the same values. -/
theorem Spells.agree (h : Spells moves m m') (hreadable : .reread ∈ moves → m.toValue.Readable) :
    m.toValue.Agree m'.toValue := by
  obtain rfl | ⟨hmem, rfl⟩ := h
  · exact .refl _
  · exact Cbor.agree_of_encode_eq (hreadable hmem).size (Model.encode_toValue_canonical m).symm

theorem Spells.withSignatures (h : Spells moves m m') (he : m.envelope? = some e) (more : List Move)
    (sigs : List DecoratedSignature) :
    Spells (moves ++ more) (m.withSignatures sigs) (m'.withSignatures sigs) := by
  obtain rfl | ⟨hmem, rfl⟩ := h
  · exact .inl rfl
  · exact .inr ⟨List.mem_append_left more hmem, Model.withSignatures_mapValues he _ sigs⟩

theorem marks_append (store : Keystore) (digest : Bytes) (moves more : List Move) :
    store.marks digest (moves ++ more) = store.marks digest moves ++ store.marks digest more := by
  simp [marks]

theorem signersAmong_append (store : Keystore) (moves more : List Move) :
    store.signersAmong (moves ++ more) = store.signersAmong moves ++ store.signersAmong more := by
  simp [signersAmong]

theorem outcome_collect_append {s s₁ : Session ω} (moves : List Move) (move : Move)
    (h : (collect store passphrase start moves).outcome s = (.ok r, s₁)) :
    (collect store passphrase start (moves ++ [move])).outcome s =
      (r.step store passphrase move).outcome s₁ := by
  have hlast : collect store passphrase start (moves ++ [move]) =
      (collect store passphrase start moves >>= fun r => r.step store passphrase move : Stage ω Round) := by
    simp [collect]
  rw [hlast, Stage.outcome_bind_of_ok h]

/-- What comes out of a round is what went in with the marks of all signers, at most read again. -/
theorem outcome_collect (hstore : store.HoldsOwn) (he : start.envelope? = some e) (moves : List Move)
    (hreadable : .reread ∈ moves →
      (start.withSignatures (store.marks (e.tx.hashBytes passphrase) moves)).toValue.Readable)
    (s : Session ω) :
    ∃ r s', (collect store passphrase start moves).outcome s = (.ok r, s') ∧
      r.signed = store.signersAmong moves ∧
      Spells moves (start.withSignatures (store.marks (e.tx.hashBytes passphrase) moves)) r.model := by
  induction moves using List.reverseRecOn with
  | nil => exact ⟨_, s, rfl, rfl, .inl (Model.withSignatures_nil start).symm⟩
  | append_singleton moves move ih =>
      rw [marks_append, ← Model.withSignatures_append he] at hreadable ⊢
      have hbase := Model.envelope?_withSignatures he (store.marks (e.tx.hashBytes passphrase) moves)
      -- What is read back at the end of the round could have been read back at any point of it.
      obtain ⟨r, s₁, hrun, hsigned, hspells⟩ := ih fun hmem =>
        Model.readable_of_withSignatures hbase (hreadable (List.mem_append_left _ hmem))
      cases move with
      | sign address =>
          obtain ⟨e', he', -, htx⟩ := hspells.exists_envelope hbase
          obtain ⟨s₂, hstep⟩ := outcome_step_sign hstore he' address s₁
          rw [htx.hashBytes_eq] at hstep
          refine ⟨_, s₂, (outcome_collect_append moves _ hrun).trans hstep, ?_, ?_⟩
          · rw [hsigned, signersAmong_append]
          · exact hspells.withSignatures hbase _ _
      | reread =>
          have hmem : Move.reread ∈ moves ++ [.reread] := List.mem_append_right _ List.mem_cons_self
          have hmarks : store.marks (e.tx.hashBytes passphrase) [.reread] = [] := rfl
          have hsigners : store.signersAmong [.reread] = [] := rfl
          rw [hmarks, Model.withSignatures_nil] at hreadable ⊢
          refine ⟨_, s₁, (outcome_collect_append moves _ hrun).trans
            (outcome_step_reread hspells.wire_eq (hreadable hmem) s₁), ?_, .inr ⟨hmem, rfl⟩⟩
          rw [hsigned, signersAmong_append, hsigners, List.append_nil]

/-- The marks belong to the signers, in the same order. -/
theorem forall₂_marks (store : Keystore) (digest : Bytes) (moves : List Move) :
    List.Forall₂ (fun address sig => store.mark digest address = some sig)
      (store.signersAmong moves) (store.marks digest moves) := by
  unfold signersAmong marks
  induction moves.filterMap Move.address? with
  | nil => exact .nil
  | cons address rest ih =>
      have hmem := store.isSome_mark_iff digest address
      cases hmark : store.mark digest address with
      | none =>
          rw [hmark] at hmem
          rw [List.filter_cons_of_neg (by simpa using hmem), List.filterMap_cons_none hmark]
          exact ih
      | some sig =>
          rw [hmark] at hmem
          rw [List.filter_cons_of_pos (by simpa using hmem), List.filterMap_cons_some hmark]
          exact .cons hmark ih

end

/-- What has become of an envelope that went round. -/
structure Collected (store : Keystore) (passphrase : String) (moves : List Move) (first : Envelope)
    (signers : List String) (last : Envelope) : Prop where
  tx_agrees : first.tx.toValue.Agree last.tx.toValue
  tx_eq : .reread ∉ moves → last.tx = first.tx
  wire_eq : last.tx.wire = first.tx.wire
  hash_eq : ∀ network, last.tx.hashBytes network = first.tx.hashBytes network ∧
    last.tx.hash network = first.tx.hash network
  /-- All that have a key have signed, as often as they were asked. -/
  signers_eq : signers = (moves.filterMap Move.address?).filter fun address => address ∈ store.addresses
  /-- Behind the signatures from before stands one for each signer. -/
  appended : ∃ marks, last.signatures = first.signatures ++ marks ∧
    List.Forall₂ (store.IsMark (last.tx.hashBytes passphrase)) signers marks

/-- **Signatures are only ever added, and stay good.**  Whatever addresses a transaction or an envelope is
signed for, with the keys of seeds, and wherever its wire text is read again in between, it comes out with
the same transaction, up to the order of map entries and the choice of a NaN, and with the same hash on every
network.  Its signatures are those from before and, in the order of signing, one for each address that has a
key, which is marked with the end of the key and verifies.  An address without a key adds nothing.

The keys have to accept their own signatures of the hash, and what is read again has to be within what wire
text can hold. -/
theorem collect_signs {seeds : List String} {store : Keystore} (hstore : ofSeeds seeds = .ok store)
    {start : Model} {e : Envelope} (he : start.envelope? = some e) (passphrase : String) (moves : List Move)
    (hverify : ∀ k ∈ store.keys, Ed25519.verify (Ed25519.publicKey k.2) (e.tx.hashBytes passphrase)
      (Ed25519.sign k.2 (e.tx.hashBytes passphrase)) = true)
    (hreadable : .reread ∈ moves →
      (start.withSignatures (store.marks (e.tx.hashBytes passphrase) moves)).toValue.Readable)
    (s : Session ω) :
    ∃ r s' last, (collect store passphrase start moves).outcome s = (.ok r, s') ∧
      r.model.envelope? = some last ∧ Collected store passphrase moves e r.signed last := by
  have howned := holdsOwn_ofSeeds hstore
  obtain ⟨r, s', hrun, hsigned, hspells⟩ := outcome_collect howned he moves hreadable s
  have hbase := Model.envelope?_withSignatures he (store.marks (e.tx.hashBytes passphrase) moves)
  obtain ⟨last, hlast, hsignatures, htx⟩ := hspells.exists_envelope hbase
  have hhash := htx.hashBytes_eq
  refine ⟨r, s', last, hrun, hlast, ?_, ?_, htx.wire_eq, ?_, hsigned, _, hsignatures, ?_⟩
  · exact htx.agree fun hmem => Model.readable_transaction hbase (hreadable hmem)
  · intro hnot
    obtain h | ⟨hmem, -⟩ := htx
    · exact Model.transaction.inj h
    · exact absurd hmem hnot
  · exact fun network => ⟨hhash network, congrArg Hex.encode (hhash network)⟩
  · rw [hsigned, hhash passphrase]
    exact (forall₂_marks store _ moves).imp fun _ _ hmark => isMark_of_mark howned hverify hmark

/-! ## A round with one key -/

def soleSeed : String := "SAAACAQDAQCQMBYIBEFAWDANBYHRAEISCMKBKFQXDAMRUGY4DUPB6NKI"

def soleRaw : Bytes :=
  [0, 1, 2, 3, 4, 5, 6, 7, 8, 9, 10, 11, 12, 13, 14, 15, 16, 17, 18, 19, 20, 21, 22, 23, 24, 25, 26, 27,
    28, 29, 30, 31]

def soleKey : Bytes :=
  [3, 161, 7, 191, 243, 206, 16, 190, 29, 112, 221, 24, 231, 75, 192, 153, 103, 228, 214, 48, 155, 165, 13,
    95, 29, 220, 134, 100, 18, 85, 49, 184]

def soleAddress : String := "GAB2CB576PHBBPQ5ODORRZ2LYCMWPZGWGCN2KDK7DXOIMZASKUY3QZ6Q"

/-- The store of the only seed. -/
def soleStore : Keystore := { keys := [(soleAddress, soleRaw)] }

/-- A transaction with a map whose entries are not in canonical order. -/
def noteTx : Transaction :=
  { sourceAccount := soleAddress, seqNum := 1
    operations := [{ body := .manageData (.text "note") (.map [(.int 2, .null), (.int 1, .null)]) }] }

/-- The hash of the transaction on a network named `net`. -/
def noteHash : Bytes :=
  [46, 194, 212, 107, 225, 153, 115, 73, 104, 195, 251, 223, 156, 2, 160, 139, 52, 50, 135, 41, 46, 25, 159,
    158, 111, 109, 15, 185, 250, 43, 25, 66]

/-- The signature of the hash under the only key. -/
def noteSignature : Bytes :=
  [254, 103, 125, 49, 116, 209, 104, 143, 80, 48, 238, 27, 82, 164, 80, 52, 178, 16, 102, 225, 131, 126, 161,
    208, 86, 28, 184, 19, 10, 134, 220, 82, 108, 136, 113, 186, 42, 242, 254, 85, 62, 117, 58, 11, 170, 26,
    226, 203, 135, 171, 252, 141, 158, 40, 21, 210, 19, 127, 147, 192, 146, 116, 182, 2]

theorem publicKey_soleRaw : Ed25519.publicKey soleRaw = soleKey := by decide +kernel

theorem rawSeed_soleSeed : rawSeed soleSeed = .ok soleRaw := by
  have hdecode : Strkey.decode .seed soleSeed = .ok soleRaw := by decide +kernel
  rw [rawSeed, hdecode]
  rfl

theorem address_soleRaw : Keystore.address soleRaw = .ok soleAddress := by
  have hencode : Strkey.encode .account soleKey = .ok soleAddress := by decide +kernel
  rw [Keystore.address, publicKey_soleRaw, hencode]
  rfl

theorem ofSeeds_soleSeed : ofSeeds [soleSeed] = .ok soleStore := by
  have hadd : ({} : Keystore).add soleSeed = .ok (soleAddress, soleStore) := by
    simp only [add, rawSeed_soleSeed, address_soleRaw, bind, Except.bind]
    rfl
  rw [ofSeeds, List.foldlM_cons, hadd]
  rfl

theorem hashBytes_noteTx : noteTx.hashBytes "net" = noteHash := by
  have hid : networkId "net" =
      [160, 138, 15, 203, 222, 175, 211, 193, 179, 164, 180, 149, 185, 169, 201, 217, 104, 80, 240, 137, 70,
        181, 43, 192, 98, 35, 71, 211, 182, 231, 59, 120] := by decide +kernel
  rw [Transaction.hashBytes, Transaction.preimage, hid]
  decide +kernel

theorem sign_noteHash : Ed25519.sign soleRaw noteHash = noteSignature := by decide +kernel

theorem verify_noteSignature : Ed25519.verify soleKey noteHash noteSignature = true := by decide +kernel

/-- A transaction is signed twice with the only key, is read again in between, and is not signed for an
address that is none. -/
theorem collect_signs_note :
    let moves : List Move := [.sign "alice", .sign soleAddress, .reread, .sign soleAddress]
    ofSeeds [soleSeed] = .ok soleStore ∧
      (Model.transaction noteTx).envelope? = some { tx := noteTx } ∧
      (∀ k ∈ soleStore.keys, Ed25519.verify (Ed25519.publicKey k.2) (noteTx.hashBytes "net")
        (Ed25519.sign k.2 (noteTx.hashBytes "net")) = true) ∧
      (.reread ∈ moves → ((Model.transaction noteTx).withSignatures
        (soleStore.marks (noteTx.hashBytes "net") moves)).toValue.Readable) ∧
      ∃ r s' last, (collect soleStore "net" (.transaction noteTx) moves).outcome ⟨(), []⟩ = (.ok r, s') ∧
        r.model.envelope? = some last ∧
        Collected soleStore "net" moves { tx := noteTx } r.signed last := by
  intro moves
  have he : (Model.transaction noteTx).envelope? = some { tx := noteTx } := rfl
  have hverify : ∀ k ∈ soleStore.keys, Ed25519.verify (Ed25519.publicKey k.2) (noteTx.hashBytes "net")
      (Ed25519.sign k.2 (noteTx.hashBytes "net")) = true := by
    intro k hk
    obtain rfl := List.mem_singleton.1 hk
    rw [hashBytes_noteTx, publicKey_soleRaw, sign_noteHash]
    exact verify_noteSignature
  have hknown : soleStore.mark noteHash soleAddress = some ⟨ending soleKey, noteSignature⟩ := by
    have hlookup : soleStore.keys.lookup soleAddress = some soleRaw := by decide
    rw [mark, hlookup, Option.map_some, publicKey_soleRaw, sign_noteHash]
  have hunknown : soleStore.mark noteHash "alice" = none := by
    have hlookup : soleStore.keys.lookup "alice" = none := by decide
    rw [mark, hlookup, Option.map_none]
  have hmarks : soleStore.marks (noteTx.hashBytes "net") moves =
      List.replicate 2 ⟨ending soleKey, noteSignature⟩ := by
    rw [hashBytes_noteTx]
    simp [marks, moves, List.filterMap_cons, Move.address?, hknown, hunknown]
  have hreadable : ((Model.transaction noteTx).withSignatures
      (soleStore.marks (noteTx.hashBytes "net") moves)).toValue.Readable := by
    rw [hmarks]
    refine ⟨by decide, by decide, ?_⟩
    rw [Cbor.length_encode]
    decide
  exact ⟨ofSeeds_soleSeed, he, hverify, fun _ => hreadable,
    collect_signs ofSeeds_soleSeed he "net" moves hverify (fun _ => hreadable) _⟩

end Keystore
end LedgerFlow
