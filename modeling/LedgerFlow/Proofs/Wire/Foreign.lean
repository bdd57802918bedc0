import LedgerFlow.Node.Reply
import LedgerFlow.Proofs.Codec.Cbor.Nesting
import LedgerFlow.Proofs.Wire.Normal

/-!
# Wire text of another type

What becomes of the wire text of a model that is read as a model of another type.  Envelopes,
transactions and authorization entries have a field that models of no other type have, so their
readers refuse foreign wire text.  A resource declaration has no such field: its reader takes every
absent field for a default, so any foreign wire text that can be read at all is read as the empty
declaration, with no footprint and no budget.  The replies of a node carry declarations as wire text,
and a reply with foreign wire text says what a reply with an empty declaration says.
-/

namespace LedgerFlow

namespace Value

/-- A value that is refused as a bad value. -/
def IsRefused {α : Type} (r : Read α) : Prop := ∃ e, r = .error e ∧ e.isBadValue = true

theorem not_isRefused_ok {α : Type} (a : α) : ¬IsRefused (.ok a : Read α) := by
  rintro ⟨e, h, -⟩
  cases h

/-- A record holds nothing under a name that none of its fields has. -/
theorem field?_record_eq_none {fields : List (String × Value)} {key : String}
    (hnames : (fields.map (·.1)).Nodup) (h : key ∉ fields.map (·.1)) :
    (record fields).canonical.field? key = none := by
  have hlookup : fields.lookup key = none := by
    rw [List.lookup_eq_none_iff]
    intro f hf
    have hne : key ≠ f.1 := fun heq => h (heq ▸ List.mem_map_of_mem hf)
    simpa using hne
  rw [field?_canonical_record hnames, hlookup]
  rfl

/-- A map in which a name finds nothing. -/
theorem get_of_field?_eq_none {entries : List (Value × Value)} {key : String}
    (h : (Value.map entries).field? key = none) (default : Value) :
    (Value.map entries).getD key default = .ok default := by
  rw [field?] at h
  rw [getD, h]
  rfl

theorem require_of_field?_eq_none {entries : List (Value × Value)} {key : String}
    (h : (Value.map entries).field? key = none) :
    (Value.map entries).require key = .error (.missing key) := by
  rw [field?] at h
  rw [require, h]

end Value

/-! ## Maps without the fields that a reader needs -/

section

variable {entries : List (Value × Value)}

theorem Envelope.ofValue_of_lacking (h : (Value.map entries).field? "tx" = none) :
    ofValue (.map entries) = .error (.missing "tx") := by
  rw [ofValue, Value.require_of_field?_eq_none h]
  rfl

theorem Transaction.ofValue_of_lacking (h : (Value.map entries).field? "sourceAccount" = none) :
    ofValue (.map entries) = .error (.missing "sourceAccount") := by
  rw [ofValue, Value.require_of_field?_eq_none h]
  rfl

theorem AuthEntry.ofValue_of_lacking (h : (Value.map entries).field? "rootInvocation" = none) :
    ofValue (.map entries) = .error (.missing "rootInvocation") := by
  rw [ofValue, Value.require_of_field?_eq_none h]
  rfl

/-- Nothing has to be there for a resource declaration. -/
theorem SorobanData.ofValue_of_lacking (h : (Value.map entries).field? "resources" = none)
    (hfee : (Value.map entries).field? "resourceFee" = none) : ofValue (.map entries) = .ok {} := by
  rw [ofValue, Value.get, Value.get_of_field?_eq_none h, Value.get_of_field?_eq_none hfee]
  rfl

end

namespace Model

/-- Whether the models of a type are resource declarations. -/
def isSorobanData : Model → Bool
  | .sorobanData _ => true
  | _ => false

/-- The names of the fields that a model is written with. -/
def names : Model → List String
  | .envelope _ => ["tx", "signatures"]
  | .transaction _ => ["sourceAccount", "seqNum", "fee", "timeBounds", "memo", "operations",
      "version", "sorobanData"]
  | .authEntry _ => ["rootInvocation", "address", "nonce", "signatureExpirationLedger", "signature"]
  | .sorobanData _ => ["resources", "resourceFee"]

/-- The names that the reader of a type looks for, without which it refuses or makes do with a
default. -/
def marks : Model → List String
  | .envelope _ => ["tx"]
  | .transaction _ => ["sourceAccount"]
  | .authEntry _ => ["rootInvocation"]
  | .sorobanData _ => ["resources", "resourceFee"]

theorem field?_eq_none_of_not_mem {m : Model} {key : String} (h : key ∉ m.names) :
    m.toValue.canonical.field? key = none := by
  cases m with
  | envelope e => exact Value.field?_record_eq_none (by simp) (by simpa [names] using h)
  | transaction tx => exact Value.field?_record_eq_none (by simp) (by simpa [names] using h)
  | authEntry e =>
      obtain ⟨invocation, address, nonce, expiration, signature⟩ := e
      cases signature with
      | none => exact Value.field?_record_eq_none (by simp) (by simp_all [names])
      | some s => exact Value.field?_record_eq_none (by simp) (by simpa [names] using h)
  | sorobanData d => exact Value.field?_record_eq_none (by simp) (by simpa [names] using h)

/-- No model is written with a name that marks another type. -/
theorem marks_not_mem_names {m like : Model} (htype : m.typeName ≠ like.typeName) :
    ∀ key ∈ like.marks, key ∉ m.names := by
  cases m <;> cases like <;> first
    | exact absurd rfl htype
    | simp [marks, names]

/-- What a payload of another type is read as. -/
theorem readAs_foreign {m like : Model} (htype : m.typeName ≠ like.typeName)
    {entries : List (Value × Value)} (hentries : m.toValue.canonical = .map entries) :
    like.readAs (.map entries) =
      if like.isSorobanData then .ok (.sorobanData {})
      else .error (.missing (like.marks.headD "")) := by
  have hmark : ∀ key ∈ like.marks, (Value.map entries).field? key = none := by
    rw [← hentries]
    exact fun key hkey => field?_eq_none_of_not_mem (marks_not_mem_names htype key hkey)
  cases like with
  | envelope e =>
      rw [readAs, Envelope.ofValue_of_lacking (hmark _ List.mem_cons_self)]
      rfl
  | transaction tx =>
      rw [readAs, Transaction.ofValue_of_lacking (hmark _ List.mem_cons_self)]
      rfl
  | authEntry e =>
      rw [readAs, AuthEntry.ofValue_of_lacking (hmark _ List.mem_cons_self)]
      rfl
  | sorobanData d =>
      rw [readAs, SorobanData.ofValue_of_lacking (hmark _ List.mem_cons_self)
        (hmark _ (List.mem_cons_of_mem _ List.mem_cons_self))]
      rfl

/-- Reading wire text is reading its payload. -/
theorem ofWireAs_eq (like : Model) (text : String) :
    ofWireAs like text =
      Wire.payload text >>= fun v => Wire.asModel like.typeName (like.readAs v) := by
  have hdecode : ∀ {α : Type} (model : String) (read : Value → Value.Read α) (build : α → Model),
      (build <$> Wire.decode model read text) =
        Wire.payload text >>= fun v => Wire.asModel model (build <$> read v) := by
    intro α model read build
    rw [Wire.decode]
    cases Wire.payload text with
    | error e => rfl
    | ok v =>
        rw [ok_bind, ok_bind]
        cases read v with
        | ok a => rfl
        | error e => cases e <;> rfl
  cases like <;> exact hdecode _ _ _

/-- Wire text that nests too deep holds no payload. -/
theorem payload_wire_of_lt_depth {m : Model} (hdepth : Cbor.maxDepth < m.toValue.depth)
    (hsize : (Cbor.encode m.toValue).length < 2 ^ 64) :
    Wire.payload m.wire = .error .wirePayload := by
  have hbytes : Cbor.encode m.toValue ≠ [] := List.length_pos_iff.1 (Cbor.length_encode_plain_pos _)
  simp only [Wire.payload, wire, Wire.encode, Base64.trim_encode, Base64.encode_ne_empty hbytes,
    Base64.decode?_encode, Cbor.decode?_encode_eq_illFormed hdepth hsize]
  rfl

/-- What foreign wire text is read as: nothing when it nests too deep, else the empty declaration when
a declaration is asked for, and nothing when any other type is. -/
theorem ofWireAs_foreign {m like : Model} (htype : m.typeName ≠ like.typeName)
    (hkeys : m.toValue.wellKeyed = true) (hsize : (Cbor.encode m.toValue).length < 2 ^ 64) :
    ofWireAs like m.wire =
      if Cbor.maxDepth < m.toValue.depth then .error .wirePayload
      else if like.isSorobanData then .ok (.sorobanData {})
      else .error (.wireModel like.typeName (some (like.marks.headD ""))) := by
  rw [ofWireAs_eq]
  -- How deep a payload nests counts before any of its fields is looked at.
  split
  · next hdepth =>
      rw [payload_wire_of_lt_depth hdepth hsize]
      rfl
  · next hdepth =>
      obtain ⟨entries, hentries⟩ : ∃ entries, m.toValue.canonical = .map entries := by
        obtain ⟨entries, hentries⟩ := exists_toValue_eq_map m
        exact ⟨_, by rw [hentries, Value.canonical_map]⟩
      rw [payload_wire hkeys (by omega) hsize, ok_bind, hentries, readAs_foreign htype hentries]
      cases like <;> rfl

end Model

/-! ## Declarations in replies -/

namespace Value

/-- Two maps that say the same but for one field. -/
structure SameBut (key : String) (v w : Value) : Prop where
  isMap : ∃ entries, v = .map entries
  isMap' : ∃ entries, w = .map entries
  field?_eq : ∀ other, other ≠ key → v.field? other = w.field? other

variable {key other : String} {v w : Value}

theorem SameBut.getD_eq (h : SameBut key v w) (hne : other ≠ key) (default : Value) :
    v.getD other default = w.getD other default := by
  obtain ⟨xs, rfl⟩ := h.isMap
  obtain ⟨ys, rfl⟩ := h.isMap'
  have hfield : lookup other xs = lookup other ys := h.field?_eq other hne
  rw [getD, getD, hfield]

theorem getD_of_field? {x default : Value} (h : v.field? key = some x) : v.getD key default = .ok x := by
  cases v with
  | map entries =>
      have hlookup : lookup key entries = some x := h
      rw [getD, hlookup]
      rfl
  | object o => cases o
  | _ => cases h

theorem require_of_field? {x : Value} (h : v.field? key = some x) : v.require key = .ok x := by
  cases v with
  | map entries =>
      have hlookup : lookup key entries = some x := h
      rw [require, hlookup]
  | object o => cases o
  | _ => cases h

end Value

/-- The field of a reply that carries a declaration as wire text. -/
def declarationKey : String := "transactionData"

section

variable {v w : Value} {text text' : String} (hsame : Value.SameBut declarationKey v w)
  (hv : v.field? declarationKey = some (.text text))
  (hw : w.field? declarationKey = some (.text text'))
  (hread : SorobanData.ofWire text = SorobanData.ofWire text')

include hsame hv hw hread in
/-- A preamble takes nothing from the wire text of its declaration but what it is read as. -/
theorem RestorePreamble.ofReply_congr : ofReply v = ofReply w := by
  have hfee : v.get "minResourceFee" = w.get "minResourceFee" :=
    hsame.getD_eq (by decide) .null
  rw [ofReply, ofReply, ← declarationKey, Value.require_of_field? hv, Value.require_of_field? hw,
    hfee]
  simp only [ok_bind, Wire.textOf, hread]

include hsame hv hw hread in
theorem Simulation.ofReply_congr (htext : text.isEmpty = text'.isEmpty) : ofReply v = ofReply w := by
  have hget : ∀ other, other ≠ declarationKey → v.get other = w.get other :=
    fun other hne => hsame.getD_eq hne .null
  have hdeclared : v.get "transactionData" = .ok (.text text) := Value.getD_of_field? hv
  have hdeclared' : w.get "transactionData" = .ok (.text text') := Value.getD_of_field? hw
  -- An empty text counts as no declaration, so it is not only what the text is read as that counts.
  have hoptional : Transaction.optional (fun d => do SorobanData.ofWire (← Wire.textOf d)) (.text text) =
      Transaction.optional (fun d => do SorobanData.ofWire (← Wire.textOf d)) (.text text') := by
    have htruthy : (Value.text text).isTruthy = (Value.text text').isTruthy := by
      rw [Value.isTruthy, Value.isTruthy, htext]
    rw [Transaction.optional, Transaction.optional, htruthy]
    simp only [Wire.textOf, ok_bind, hread]
  have hfailure : ∀ error, failureOfReply v error = failureOfReply w error := by
    intro error
    rw [failureOfReply, failureOfReply, hget "latestLedger" (by decide), hget "events" (by decide)]
  rw [ofReply, ofReply, hget "error" (by decide), hget "restorePreamble" (by decide),
    hget "latestLedger" (by decide), hget "minResourceFee" (by decide), hget "cost" (by decide),
    hget "results" (by decide), hget "events" (by decide), hdeclared, hdeclared']
  simp only [ok_bind, hoptional, hfailure]

end

namespace Model

/-- The wire text of the empty declaration is read back. -/
theorem ofWire_empty : SorobanData.ofWire ({} : SorobanData).wire = .ok {} := by
  have hsize : (Cbor.encode (Model.sorobanData {}).toValue).length < 2 ^ 64 := by
    rw [Cbor.length_encode]
    decide
  have hpayload := payload_wire (m := .sorobanData {}) (by decide) (by decide) hsize
  rw [SorobanData.ofWire, Wire.decode]
  have hwire : ({} : SorobanData).wire = (Model.sorobanData {}).wire := rfl
  rw [hwire, hpayload, ok_bind, toValue, SorobanData.ofValue_canonical]
  rfl

/-- Any foreign wire text that can be read is read as the empty declaration. -/
theorem ofWire_foreign {m : Model} (htype : m.typeName ≠ (sorobanData {} : Model).typeName)
    (hkeys : m.toValue.wellKeyed = true) (hdepth : m.toValue.depth ≤ Cbor.maxDepth)
    (hsize : (Cbor.encode m.toValue).length < 2 ^ 64) : SorobanData.ofWire m.wire = .ok {} := by
  have hforeign := ofWireAs_foreign htype hkeys hsize
  rw [if_neg (by omega), if_pos (show (sorobanData {} : Model).isSorobanData = true from rfl)] at hforeign
  obtain ⟨d, hd, heq⟩ := Value.map_eq_ok.1 hforeign
  cases heq
  exact hd

theorem isEmpty_wire (m : Model) : m.wire.isEmpty = false :=
  Base64.encode_ne_empty (List.length_pos_iff.1 (Cbor.length_encode_plain_pos _))

/-- **Foreign wire text is refused, unless it is read as a resource declaration.**  The wire text of a
model, read as a model of another type, is refused as a bad value exactly when that type is not the
resource declaration, or when the text nests too deep to be read at all.  Any other foreign wire text is
read as the empty declaration, and the replies of a node that carry it in the place of a declaration say
what they say with the wire text of the empty declaration there. -/
theorem foreign_refused_iff {m like : Model} (htype : m.typeName ≠ like.typeName)
    (hkeys : m.toValue.wellKeyed = true) (hsize : (Cbor.encode m.toValue).length < 2 ^ 64) :
    (Value.IsRefused (ofWireAs like m.wire) ↔
      like.isSorobanData = false ∨ Cbor.maxDepth < m.toValue.depth) ∧
    (like.isSorobanData = true → m.toValue.depth ≤ Cbor.maxDepth →
      SorobanData.ofWire m.wire = .ok {} ∧
      ∀ v w, Value.SameBut declarationKey v w → v.field? declarationKey = some (.text m.wire) →
        w.field? declarationKey = some (.text ({} : SorobanData).wire) →
        Simulation.ofReply v = Simulation.ofReply w ∧
          RestorePreamble.ofReply v = RestorePreamble.ofReply w) := by
  constructor
  · rw [ofWireAs_foreign htype hkeys hsize]
    split
    · next hdepth => exact ⟨fun _ => .inr hdepth, fun _ => ⟨_, rfl, rfl⟩⟩
    · next hdepth =>
        split
        · next hdata =>
            refine ⟨fun h => absurd h (Value.not_isRefused_ok _), ?_⟩
            rintro (h | h)
            · rw [hdata] at h
              cases h
            · exact absurd h hdepth
        · next hdata => exact ⟨fun _ => .inl (by simpa using hdata), fun _ => ⟨_, rfl, rfl⟩⟩
  · intro hdata hdepth
    have hread : SorobanData.ofWire m.wire = .ok {} := by
      cases like with
      | sorobanData d => exact ofWire_foreign htype hkeys hdepth hsize
      | _ => cases hdata
    refine ⟨hread, fun v w hsame hv hw => ?_⟩
    have hboth : SorobanData.ofWire m.wire = SorobanData.ofWire ({} : SorobanData).wire :=
      hread.trans ofWire_empty.symm
    have hempty : m.wire.isEmpty = ({} : SorobanData).wire.isEmpty :=
      (isEmpty_wire m).trans (isEmpty_wire (.sorobanData {})).symm
    exact ⟨Simulation.ofReply_congr hsame hv hw hboth hempty,
      RestorePreamble.ofReply_congr hsame hv hw hboth⟩

/-- The wire text of a draft is refused as an authorization entry and read as a declaration. -/
theorem foreign_refused_iff_draft :
    let m : Model := .transaction { sourceAccount := "G", seqNum := 42 }
    m.toValue.wellKeyed = true ∧ (Cbor.encode m.toValue).length < 2 ^ 64 ∧
      m.typeName ≠ (authEntry default : Model).typeName ∧ m.typeName ≠ (sorobanData {} : Model).typeName ∧
      Value.IsRefused (ofWireAs (authEntry default) m.wire) ∧ SorobanData.ofWire m.wire = .ok {} := by
  intro m
  have hkeys : m.toValue.wellKeyed = true := by decide
  have hdepth : m.toValue.depth ≤ Cbor.maxDepth := by decide
  have hsize : (Cbor.encode m.toValue).length < 2 ^ 64 := by
    rw [Cbor.length_encode]
    decide
  have hentry : m.typeName ≠ (authEntry default : Model).typeName := by decide
  have hdata : m.typeName ≠ (sorobanData {} : Model).typeName := by decide
  exact ⟨hkeys, hsize, hentry, hdata, (foreign_refused_iff hentry hkeys hsize).1.2 (.inl rfl),
    ((foreign_refused_iff hdata hkeys hsize).2 rfl hdepth).1⟩

/-- A reply that carries the wire text of a draft in the place of a declaration is taken for a
successful simulation with an empty footprint and no budget. -/
theorem draft_read_as_declaration :
    let m : Model := .transaction { sourceAccount := "G", seqNum := 42 }
    m.typeName ≠ (sorobanData {} : Model).typeName ∧ ¬Value.IsRefused (ofWireAs (sorobanData {}) m.wire) ∧
      Simulation.ofReply (.record [("transactionData", .text m.wire)]) =
        .ok { transactionData := some {} } ∧
      RestorePreamble.ofReply (.record [("transactionData", .text m.wire)]) =
        .ok { transactionData := {}, minResourceFee := 0 } := by
  intro m
  have hdata : m.typeName ≠ (sorobanData {} : Model).typeName := by decide
  have hsize : (Cbor.encode m.toValue).length < 2 ^ 64 := by
    rw [Cbor.length_encode]
    decide
  have hread : SorobanData.ofWire m.wire = .ok {} :=
    ofWire_foreign hdata (by decide) (by decide) hsize
  refine ⟨hdata, ?_, ?_, ?_⟩
  · rw [ofWireAs, hread]
    exact Value.not_isRefused_ok _
  · have htruthy : (Value.text m.wire).isTruthy = true := by simp [Value.isTruthy, isEmpty_wire]
    have hdeclared : Transaction.optional (fun d => do SorobanData.ofWire (← Wire.textOf d))
        (.text m.wire) = .ok (some {}) := by
      rw [Transaction.optional, if_pos htruthy]
      simp [Wire.textOf, ok_bind, hread]
    -- From here on the text is only carried along, and nothing should compute it.
    generalize m.wire = text at hdeclared
    simp [Simulation.ofReply, Value.record, Value.get, Value.getD, Value.lookup, ok_bind,
      Value.isTruthy, Value.toIntOrZero, Cost.ofReply, Value.orEmptyMap, Value.toItemsIfPresent,
      Value.toTexts, Value.pure_eq_ok, hdeclared]
    rfl
  · generalize m.wire = text at hread
    simp [RestorePreamble.ofReply, Value.record, Value.require, Value.get, Value.getD, Value.lookup,
      Wire.textOf, ok_bind, Value.toIntOrZero, hread]

end Model
end LedgerFlow
