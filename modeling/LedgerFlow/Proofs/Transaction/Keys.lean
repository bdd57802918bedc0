import LedgerFlow.Proofs.Codec.Cbor.Keys
import LedgerFlow.Proofs.Transaction.Reading

/-!
# Models read from well keyed values

Readers take values of any shape, and what they make of a well keyed value is written as a well keyed
value again.  They only pick parts of it: fields of maps, items of lists, and the keys of maps, which
are scalars.  Whatever else a model is written with, its names, numbers and texts, has no keys.

There is one lemma for each type, in the order in which the types contain each other.
-/

namespace LedgerFlow

variable {ο : Type} [Objects ο]

namespace Value

/-! ## Readers one after another -/

theorem bind_eq_ok {α β : Type} {read : Read α} {f : α → Read β} {b : β} :
    (read >>= f) = .ok b ↔ ∃ a, read = .ok a ∧ f a = .ok b := by
  cases read with
  | error m => exact ⟨nofun, fun ⟨_, h, _⟩ => nomatch h⟩
  | ok a => exact ⟨fun h => ⟨a, rfl, h⟩, fun ⟨_, ha, h⟩ => Except.ok.inj ha ▸ h⟩

theorem map_eq_ok {α β : Type} {read : Read α} {f : α → β} {b : β} :
    (f <$> read) = .ok b ↔ ∃ a, read = .ok a ∧ f a = b := by
  cases read with
  | error m => exact ⟨nofun, fun ⟨_, h, _⟩ => nomatch h⟩
  | ok a => exact ⟨fun h => ⟨a, rfl, Except.ok.inj h⟩, fun ⟨_, ha, h⟩ => Except.ok.inj ha ▸ congrArg _ h⟩

theorem forall_mem_of_mapM {α β : Type} {read : α → Read β} {P : β → Prop} {xs : List α}
    {ys : List β} (hread : ∀ x ∈ xs, ∀ y, read x = .ok y → P y) (h : xs.mapM read = .ok ys) :
    ∀ y ∈ ys, P y := by
  induction xs generalizing ys with
  | nil =>
      cases h
      exact List.forall_mem_nil _
  | cons x xs ih =>
      rw [List.mapM_cons, bind_eq_ok] at h
      obtain ⟨y, hy, h⟩ := h
      obtain ⟨zs, hzs, h⟩ := bind_eq_ok.1 h
      cases h
      exact List.forall_mem_cons.2
        ⟨hread x List.mem_cons_self y hy, ih (fun x' hx' => hread x' (List.mem_cons_of_mem x hx')) hzs⟩

/-! ## Parts of well keyed values -/

@[simp] theorem wellKeyed_int (n : Int) : (Value.int n : Value ο).wellKeyed = true := rfl

@[simp] theorem wellKeyed_text (s : String) : (Value.text s : Value ο).wellKeyed = true := rfl

@[simp] theorem wellKeyed_bytes (b : Bytes) : (Value.bytes b : Value ο).wellKeyed = true := rfl

/-- A record is well keyed when its fields are. -/
theorem wellKeyed_record {fields : List (String × Value ο)} (hnames : (fields.map (·.1)).Nodup) :
    (record fields).wellKeyed = true ↔ ∀ f ∈ fields, f.2.wellKeyed = true := by
  have hapart : (fields.map fun f => (Value.text f.1, f.2)).Pairwise fun a b => apart a b = true :=
    pairwise_apart_of_names hnames id
  rw [record, wellKeyed_map, and_iff_right hapart, List.forall_mem_map]
  exact forall₂_congr fun f _ => and_iff_right rfl

theorem wellKeyed_ofOption {α : Type} {write : α → Value ο} {part : Option α}
    (h : ∀ a, part = some a → (write a).wellKeyed = true) :
    (ofOption write part).wellKeyed = true := by
  cases part with
  | none => rfl
  | some a => exact h a rfl

section Parts

variable [Objects.Lawful ο] {v x : Value ο} {key : String} (hv : v.wellKeyed = true)

include hv

theorem wellKeyed_of_field? (h : v.field? key = some x) : x.wellKeyed = true := by
  cases v with
  | map entries => exact ((wellKeyed_map.1 hv).2 _ (mem_of_lookup h)).2
  | object o => exact Objects.Lawful.wellKeyed_of_field? hv h
  | _ => cases h

theorem wellKeyed_of_getD {default : Value ο} (hdefault : default.wellKeyed = true)
    (h : v.getD key default = .ok x) : x.wellKeyed = true := by
  cases v with
  | map entries =>
      obtain rfl : (lookup key entries).getD default = x := Except.ok.inj h
      cases hfield : lookup key entries with
      | none => exact hdefault
      | some w => exact wellKeyed_of_field? hv hfield
  | object o => exact Objects.Lawful.wellKeyed_of_getD hv hdefault h
  | _ => cases h

theorem wellKeyed_of_get (h : v.get key = .ok x) : x.wellKeyed = true :=
  wellKeyed_of_getD hv rfl h

theorem wellKeyed_of_require (h : v.require key = .ok x) : x.wellKeyed = true := by
  cases v with
  | map entries =>
      rw [require] at h
      cases hfield : lookup key entries with
      | none =>
          rw [hfield] at h
          cases h
      | some w =>
          rw [hfield] at h
          cases h
          exact wellKeyed_of_field? hv hfield
  | object o => exact Objects.Lawful.wellKeyed_of_require hv h
  | _ => cases h

omit [Objects.Lawful ο] in
theorem wellKeyed_orEmptyMap : v.orEmptyMap.wellKeyed = true := by
  unfold orEmptyMap
  split
  · exact hv
  · rfl

/-- The keys of a map are items too, and they are scalars. -/
theorem wellKeyed_of_toItems {items : List (Value ο)} (h : v.toItems = .ok items) :
    ∀ y ∈ items, y.wellKeyed = true := by
  cases v with
  | list xs =>
      cases h
      exact wellKeyed_list.1 hv
  | text s =>
      cases h
      simp
  | bytes b =>
      cases h
      simp
  | map entries =>
      cases h
      intro y hy
      obtain ⟨e, he, rfl⟩ := List.mem_map.1 hy
      exact wellKeyed_of_isScalar ((wellKeyed_map.1 hv).2 e he).1
  | object o => exact Objects.Lawful.wellKeyed_of_toItems hv h
  | _ => cases h

theorem wellKeyed_of_toItemsOrNone {items : List (Value ο)} (h : v.toItemsOrNone = .ok items) :
    ∀ y ∈ items, y.wellKeyed = true := by
  unfold toItemsOrNone at h
  split at h
  · cases h
    exact List.forall_mem_nil _
  · exact wellKeyed_of_toItems hv h

theorem wellKeyed_of_toItemsIfPresent {items : List (Value ο)} (h : v.toItemsIfPresent = .ok items) :
    ∀ y ∈ items, y.wellKeyed = true := by
  unfold toItemsIfPresent at h
  split at h
  · exact wellKeyed_of_toItems hv h
  · cases h
    exact List.forall_mem_nil _

end Parts

end Value

/-! ## Resources -/

section

variable [Objects.Lawful ο] {v : Value ο} (hv : v.wellKeyed = true)

include hv

theorem Footprint.wellKeyed_of_ofValue {p : Footprint ο} (h : ofValue v = .ok p) :
    p.toValue.wellKeyed = true := by
  simp only [ofValue, Value.bind_eq_ok] at h
  obtain ⟨a, ha, readOnly, hreadOnly, b, hb, readWrite, hreadWrite, h⟩ := h
  cases h
  have hread := Value.wellKeyed_of_toItemsOrNone (Value.wellKeyed_of_get hv ha) hreadOnly
  have hwrite := Value.wellKeyed_of_toItemsOrNone (Value.wellKeyed_of_get hv hb) hreadWrite
  rw [toValue, Value.wellKeyed_record (by simp)]
  simpa [Value.wellKeyed_list] using ⟨hread, hwrite⟩

theorem Resources.wellKeyed_of_ofValue {r : Resources ο} (h : ofValue v = .ok r) :
    r.toValue.wellKeyed = true := by
  simp only [ofValue, Value.bind_eq_ok] at h
  obtain ⟨a, ha, footprint, hfootprint, _, _, _, _, _, _, _, _, _, _, _, _, h⟩ := h
  cases h
  have hprint := Footprint.wellKeyed_of_ofValue
    (Value.wellKeyed_orEmptyMap (Value.wellKeyed_of_get hv ha)) hfootprint
  rw [toValue, Value.wellKeyed_record (by simp)]
  simp [hprint]

theorem SorobanData.wellKeyed_of_ofValue {d : SorobanData ο} (h : ofValue v = .ok d) :
    d.toValue.wellKeyed = true := by
  simp only [ofValue, Value.bind_eq_ok] at h
  obtain ⟨a, ha, resources, hresources, _, _, _, _, h⟩ := h
  cases h
  have hdeclared := Resources.wellKeyed_of_ofValue
    (Value.wellKeyed_orEmptyMap (Value.wellKeyed_of_get hv ha)) hresources
  rw [toValue, Value.wellKeyed_record (by simp)]
  simp [hdeclared]

/-! ## Authorization entries -/

theorem Invocation.wellKeyed_of_ofValueWithin {depth : Nat} {i : Invocation ο}
    (h : ofValueWithin depth v = .ok i) : i.toValue.wellKeyed = true := by
  induction depth generalizing v i with
  | zero => cases h
  | succ depth ih =>
      simp only [ofValueWithin, Value.bind_eq_ok] at h
      obtain ⟨_, _, contractId, _, _, _, functionName, _, a, ha, args, hargs, b, hb, items, hitems,
        subs, hsubs, h⟩ := h
      cases h
      have hkeyed := Value.wellKeyed_of_toItemsOrNone (Value.wellKeyed_of_get hv ha) hargs
      have hitem := Value.wellKeyed_of_toItemsIfPresent (Value.wellKeyed_of_get hv hb) hitems
      have hsub : ∀ sub ∈ subs, sub.toValue.wellKeyed = true :=
        Value.forall_mem_of_mapM (fun x hx _ hread => ih (hitem x hx) hread) hsubs
      rw [toValue, Value.wellKeyed_record (by simp)]
      simpa [Value.wellKeyed_list, Invocation.toValues_eq_map] using ⟨hkeyed, hsub⟩

omit [Objects.Lawful ο] hv in
/-- An entry has two parts that may have keys. -/
theorem AuthEntry.wellKeyed_toValue {e : AuthEntry ο} (hcall : e.invocation.toValue.wellKeyed = true)
    (hwho : e.address.wellKeyed = true) : e.toValue.wellKeyed = true := by
  obtain ⟨invocation, address, nonce, expiration, signature⟩ := e
  cases signature with
  | none =>
      rw [toValue, Value.wellKeyed_record (by simp)]
      simp [hcall, hwho]
  | some s =>
      have hs : (s.toValue : Value ο).wellKeyed = true := by
        rw [AuthSignature.toValue, Value.wellKeyed_record (by simp)]
        simp
      rw [toValue, Value.wellKeyed_record (by simp)]
      simp [hcall, hwho, hs]

theorem AuthEntry.wellKeyed_of_ofValue {e : AuthEntry ο} (h : ofValue v = .ok e) :
    e.toValue.wellKeyed = true := by
  simp only [ofValue, Value.bind_eq_ok] at h
  obtain ⟨_, _, a, ha, invocation, hinvocation, address, haddress, _, _, nonce, _, _, _, expiration, _,
    h⟩ := h
  have hparts : e.invocation = invocation ∧ e.address = address := by
    split at h
    · cases h
      exact ⟨rfl, rfl⟩
    · obtain ⟨signature, -, h⟩ := Value.bind_eq_ok.1 h
      cases h
      exact ⟨rfl, rfl⟩
  have hcall : invocation.toValue.wellKeyed = true :=
    Invocation.wellKeyed_of_ofValueWithin (Value.wellKeyed_of_require hv ha) hinvocation
  have hwho := Value.wellKeyed_of_get hv haddress
  rw [← hparts.1] at hcall
  rw [← hparts.2] at hwho
  exact wellKeyed_toValue hcall hwho

/-! ## Operations -/

theorem Body.wellKeyed_of_needed {key : String} {x : Value ο} (h : needed v key = .ok x) :
    x.wellKeyed = true := by
  unfold needed at h
  split at h
  · next hfield =>
      cases h
      exact Value.wellKeyed_of_field? hv hfield
  · cases h

theorem Body.wellKeyed_getD_field? {key : String} {default : Value ο}
    (hdefault : default.wellKeyed = true) : ((v.field? key).getD default).wellKeyed = true := by
  cases hfield : v.field? key with
  | none => exact hdefault
  | some x => exact Value.wellKeyed_of_field? hv hfield

theorem Body.wellKeyed_of_invocationOfValue {b : Body ο} (h : invocationOfValue v = .ok b) :
    ∀ f ∈ b.fields, f.2.wellKeyed = true := by
  have hrest : ∃ auth, (∀ e ∈ auth, e.toValue.wellKeyed = true) ∧ (do
      let contractId ← needed v "contract_id"
      let functionName ← needed v "function_name"
      pure (.invokeContract contractId functionName ((v.field? "args").getD (.list [])) auth)) =
        Except.ok b := by
    unfold invocationOfValue at h
    split at h
    · next entries hfield =>
        simp only [Value.bind_eq_ok] at h
        obtain ⟨items, hitems, auth, hauth, h⟩ := h
        have hitem := Value.wellKeyed_of_toItemsIfPresent (Value.wellKeyed_of_field? hv hfield) hitems
        refine ⟨auth, ?_, by simpa only [Value.bind_eq_ok] using h⟩
        exact Value.forall_mem_of_mapM
          (fun x hx _ hread => AuthEntry.wellKeyed_of_ofValue (hitem x hx) hread) hauth
    · exact ⟨[], List.forall_mem_nil _, h⟩
  obtain ⟨auth, hentries, h⟩ := hrest
  simp only [Value.bind_eq_ok] at h
  obtain ⟨contractId, hcontract, functionName, hfunction, h⟩ := h
  cases h
  have hargs : ((v.field? "args").getD (.list [])).wellKeyed = true :=
    wellKeyed_getD_field? hv rfl
  simp only [fields, List.forall_mem_cons, List.forall_mem_map, Value.wellKeyed_list]
  exact ⟨wellKeyed_of_needed hv hcontract, wellKeyed_of_needed hv hfunction, hargs, hentries,
    List.forall_mem_nil _⟩

/-- Each of the fifteen kinds takes over fields of the value. -/
theorem Body.wellKeyed_of_ofKind {kind : String} {b : Body ο} (h : ofKind kind v = .ok b) :
    ∀ f ∈ b.fields, f.2.wellKeyed = true := by
  have hlisted : ∀ key, ((v.field? key).getD (.list [])).wellKeyed = true :=
    fun key => wellKeyed_getD_field? hv rfl
  have hvalue : ((v.field? "value").getD .null).wellKeyed = true := wellKeyed_getD_field? hv rfl
  have hneeded : ∀ key x, needed v key = .ok x → x.wellKeyed = true :=
    fun key x => wellKeyed_of_needed hv
  unfold ofKind at h
  dsimp only at h
  split at h
  case h_1 => exact wellKeyed_of_invocationOfValue hv h
  case h_16 => cases h
  all_goals
    simp only [Value.map_eq_ok, Value.bind_eq_ok, Value.pure_eq_ok, Except.ok.injEq] at h
    grind [fields]

theorem Body.wellKeyed_of_ofValue {b : Body ο} (h : ofValue v = .ok b) :
    b.toValue.wellKeyed = true := by
  obtain ⟨tag, -, h⟩ := Value.bind_eq_ok.1 h
  have hfields : ∀ f ∈ b.fields, f.2.wellKeyed = true := by
    split at h
    · exact wellKeyed_of_ofKind hv h
    · cases h
    · cases h
    · cases h
  rw [toValue, Value.wellKeyed_record b.nodup_names]
  exact List.forall_mem_cons.2 ⟨rfl, hfields⟩

theorem Operation.wellKeyed_of_ofValue {op : Operation ο} (h : ofValue v = .ok op) :
    op.toValue.wellKeyed = true := by
  simp only [ofValue, Value.bind_eq_ok] at h
  obtain ⟨a, ha, body, hbody, sourceAccount, hsource, h⟩ := h
  cases h
  have hdoes := Body.wellKeyed_of_ofValue (Value.wellKeyed_of_require hv ha) hbody
  have hwho := Value.wellKeyed_of_get hv hsource
  rw [toValue, Value.wellKeyed_record (by simp)]
  simp [hdoes, hwho]

/-! ## Transactions and envelopes -/

theorem Memo.wellKeyed_of_ofValue {m : Memo ο} (h : ofValue v = .ok m) :
    m.toValue.wellKeyed = true := by
  simp only [ofValue, Value.bind_eq_ok] at h
  obtain ⟨_, _, kind, _, value, hvalue, h⟩ := h
  have hnote : m.value = value := by
    split at h
    · cases h
      rfl
    · cases h
  rw [toValue, Value.wellKeyed_record (by simp)]
  simp [hnote, Value.wellKeyed_of_require hv hvalue]

omit [Objects.Lawful ο] hv in
/-- An optional part that is read is one that its reader reads. -/
theorem Transaction.exists_of_optional {α : Type} {read : Value ο → Value.Read α} {part : Option α}
    (h : optional read v = .ok part) (a : α) (ha : part = some a) : read v = .ok a := by
  subst ha
  unfold optional at h
  split at h
  · obtain ⟨b, hb, heq⟩ := Value.map_eq_ok.1 h
    rw [hb, Option.some.inj heq]
  · cases h

theorem Transaction.wellKeyed_of_ofValue {tx : Transaction ο} (h : ofValue v = .ok tx) :
    tx.toValue.wellKeyed = true := by
  simp only [ofValue, Value.bind_eq_ok] at h
  obtain ⟨bounds, hbounds, note, hnote, declared, hdeclared, _, _, sourceAccount, _, _, _, seqNum, _,
    _, _, fee, _, timeBounds, htime, memo, hmemo, a, ha, items, hitems, operations, hoperations, _, _,
    version, _, sorobanData, hdata, h⟩ := h
  cases h
  have htimes : (Value.ofOption TimeBounds.toValue timeBounds : Value ο).wellKeyed = true := by
    refine Value.wellKeyed_ofOption fun b _ => ?_
    rw [TimeBounds.toValue, Value.wellKeyed_record (by simp)]
    simp
  have hmemos : (Value.ofOption Memo.toValue memo).wellKeyed = true :=
    Value.wellKeyed_ofOption fun m hm =>
      Memo.wellKeyed_of_ofValue (Value.wellKeyed_of_get hv hnote) (exists_of_optional hmemo m hm)
  have hdatas : (Value.ofOption SorobanData.toValue sorobanData).wellKeyed = true :=
    Value.wellKeyed_ofOption fun d hd =>
      SorobanData.wellKeyed_of_ofValue (Value.wellKeyed_of_get hv hdeclared)
        (exists_of_optional hdata d hd)
  have hitem := Value.wellKeyed_of_toItemsIfPresent (Value.wellKeyed_of_get hv ha) hitems
  have hops : ∀ op ∈ operations, op.toValue.wellKeyed = true :=
    Value.forall_mem_of_mapM
      (fun x hx _ hread => Operation.wellKeyed_of_ofValue (hitem x hx) hread) hoperations
  rw [toValue, Value.wellKeyed_record (by simp)]
  simpa [Value.wellKeyed_list, htimes, hmemos, hdatas] using hops

theorem Envelope.wellKeyed_of_ofValue {e : Envelope ο} (h : ofValue v = .ok e) :
    e.toValue.wellKeyed = true := by
  simp only [ofValue, Value.bind_eq_ok] at h
  obtain ⟨a, ha, tx, htx, _, _, _, _, signatures, _, h⟩ := h
  cases h
  have htransaction := Transaction.wellKeyed_of_ofValue (Value.wellKeyed_of_require hv ha) htx
  have hsigned : ∀ s : DecoratedSignature, (s.toValue : Value ο).wellKeyed = true := fun s => by
    rw [DecoratedSignature.toValue, Value.wellKeyed_record (by simp)]
    simp
  rw [toValue, Value.wellKeyed_record (by simp)]
  simp [Value.wellKeyed_list, htransaction, hsigned]

end

end LedgerFlow
