import LedgerFlow.Proofs.Transaction.Keys

/-!
# What readers of models can fail on

A reader of a model refuses most of what it cannot read as a bad value, a wrong type or a missing
field, which `Malformed.isTame` names.  It has three failures of another kind, which `Malformed.isStray`
names: a value without fields that is asked for one, a number too large to be counted with, and a count of
bytes for which there is no room.

For every type there is a predicate `Sound` that says where such failures come from: the parts that are
asked for fields are maps, the numbers are finite, and no count of bytes is out of bounds.  Each reader
is guarded by it (`Value.Guards`): of a sound value it fails in no stray way, and it reads nothing but
sound values.  There is one lemma for each type, in the order in which the types contain each other.
-/

namespace LedgerFlow

namespace Malformed

/-- Whether a failure is a bad value, a wrong type or a missing field. -/
def isTame : Malformed → Bool
  | .noFields | .tooLarge | .noRoom | .foreign => false
  | _ => true

/-- Whether a failure of a reader of a model is neither of these. -/
def isStray : Malformed → Bool
  | .noFields | .tooLarge | .noRoom => true
  | _ => false

end Malformed

namespace Value

/-! ## Sound parts -/

/-- A value that has fields. -/
def IsMap (v : Value) : Prop := ∃ entries, v = .map entries

/-- What a reader takes for a field: the value under the name, or a default. -/
def part (v : Value) (key : String) (default : Value) : Value := (v.field? key).getD default

/-- Whether the value under a name is of some sort, if there is one. -/
def Holds (v : Value) (key : String) (sort : Value → Prop) : Prop :=
  ∀ x, v.field? key = some x → sort x

/-- A value that is no infinite number. -/
def IsFinite : Value → Prop
  | .float x => x.isInfinite = false
  | _ => True

/-- A value that is no count of bytes, or one that can be made. -/
def HasRoom : Value → Prop
  | .int n => -2 ^ 63 ≤ n ∧ n ≤ memorySize
  | _ => True

/-- Whether the items of a value are of some sort, unless it counts as absent. -/
def EachItem (sort : Value → Prop) (v : Value) : Prop :=
  ∀ items, v.toItemsIfPresent = .ok items → ∀ x ∈ items, sort x

/-- A value of some sort, unless it counts as absent. -/
def IfPresent (sort : Value → Prop) (v : Value) : Prop := v.isTruthy = true → sort v

/-! ## Guarded readers -/

/-- Nothing but a sound value is read, and of a sound value all failures are tame.  Those that are not
are stray. -/
structure Guards {α : Type} (sound : Prop) (r : Read α) : Prop where
  tame : sound → ∀ e, r = .error e → e.isTame = true
  tame_or_stray : ∀ e, r = .error e → e.isTame = true ∨ e.isStray = true
  sound_of_ok : ∀ a, r = .ok a → sound

namespace Guards

variable {α β : Type} {s t : Prop}

theorem iff {r : Read α} (h : Guards s r) (hiff : s ↔ t) : Guards t r :=
  ⟨fun ht => h.tame (hiff.2 ht), h.tame_or_stray, fun a ha => hiff.1 (h.sound_of_ok a ha)⟩

theorem of_sound (h : s) (a : α) : Guards s (.ok a : Read α) := ⟨nofun, nofun, fun _ _ => h⟩

theorem ok (a : α) : Guards True (.ok a : Read α) := of_sound trivial a

/-- A tame failure is one of a reader of any sort. -/
theorem error {e : Malformed} (h : e.isTame = true) : Guards s (.error e : Read α) :=
  ⟨fun _ f hf => by cases hf; exact h, fun f hf => by cases hf; exact .inl h, nofun⟩

/-- A stray failure shows that something was not sound. -/
theorem stray {e : Malformed} (h : e.isStray = true) (hsound : ¬s) : Guards s (.error e : Read α) :=
  ⟨fun hs => absurd hs hsound, fun f hf => by cases hf; exact .inr h, nofun⟩

theorem bind {x : Read α} {f : α → Read β} (hx : Guards s x) (hf : ∀ a, Guards t (f a)) :
    Guards (s ∧ t) (x >>= f) := by
  cases x with
  | error m =>
      exact ⟨fun h e he => by cases he; exact hx.tame h.1 m rfl,
        fun e he => by cases he; exact hx.tame_or_stray m rfl, nofun⟩
  | ok a => exact (hf a).iff ⟨fun ht => ⟨hx.sound_of_ok a rfl, ht⟩, And.right⟩

/-- A step that cannot fail in a stray way adds nothing to what has to be sound. -/
theorem bind_of_true {x : Read α} {f : α → Read β} (hx : Guards True x) (hf : ∀ a, Guards t (f a)) :
    Guards t (x >>= f) :=
  (hx.bind hf).iff (and_iff_right trivial)

theorem map {x : Read α} (f : α → β) (hx : Guards s x) : Guards s (f <$> x) := by
  cases x with
  | error m =>
      exact ⟨fun h e he => by cases he; exact hx.tame h m rfl,
        fun e he => by cases he; exact hx.tame_or_stray m rfl, nofun⟩
  | ok a => exact of_sound (hx.sound_of_ok a rfl) _

/-- Things that are read one by one have to be sound one by one. -/
theorem mapM {read : α → Read β} {sound : α → Prop} {xs : List α}
    (h : ∀ x ∈ xs, Guards (sound x) (read x)) : Guards (∀ x ∈ xs, sound x) (xs.mapM read) := by
  induction xs with
  | nil => exact (ok []).iff (by simp)
  | cons x xs ih =>
      have hrest := ih fun y hy => h y (List.mem_cons_of_mem x hy)
      have hall : Guards (sound x ∧ (∀ y ∈ xs, sound y) ∧ True) ((x :: xs).mapM read) := by
        rw [List.mapM_cons]
        exact (h x List.mem_cons_self).bind fun _ => hrest.bind fun _ => ok _
      exact hall.iff (by simp)

end Guards

/-! ## Readers of parts -/

section

variable {α : Type} {t : Prop} {v : Value} {key : String}

theorem guards_getD {default : Value} {sound : Value → Prop} {f : Value → Read α}
    (hf : ∀ x, Guards (sound x) (f x)) :
    Guards (v.IsMap ∧ sound (v.part key default)) (v.getD key default >>= f) := by
  cases v with
  | map entries => exact (hf _).iff (and_iff_right ⟨entries, rfl⟩).symm
  | object o => cases o
  | _ =>
      refine .stray rfl ?_
      rintro ⟨⟨_, h⟩, -⟩
      cases h

/-- A field that has to be there is no cause for a stray failure when it is not. -/
theorem guards_require {sort : Value → Prop} {f : Value → Read α}
    (hf : ∀ x, v.IsMap → Guards (sort x ∧ t) (f x)) :
    Guards (v.Holds key sort ∧ t) (v.require key >>= f) := by
  cases v with
  | map entries =>
      rw [require, Holds, field?]
      cases lookup key entries with
      | none => exact .error rfl
      | some x => exact (hf x ⟨entries, rfl⟩).iff (by simp)
  | object o => cases o
  | _ => exact .error rfl

/-- A field that has to be there and may be anything. -/
theorem guards_require_any {f : Value → Read α} (hf : ∀ x, v.IsMap → Guards t (f x)) :
    Guards t (v.require key >>= f) := by
  have hany : Guards (v.Holds key (fun _ => True) ∧ t) (v.require key >>= f) :=
    guards_require fun x hv => (hf x hv).iff (and_iff_right trivial).symm
  exact hany.iff (and_iff_right fun _ _ => trivial)

theorem guards_toText (v : Value) : Guards True v.toText := by
  unfold toText
  split
  · exact .ok _
  · next o => cases o
  · split
    · exact .error rfl
    · exact .ok _

/-- Only an infinite number cannot be counted with. -/
theorem guards_toInt (v : Value) : Guards v.IsFinite v.toInt := by
  cases v with
  | float x =>
      rw [toInt, IsFinite]
      split
      · exact .error rfl
      · split
        · next hinfinite => exact .stray rfl (by simp [hinfinite])
        · next hfinite => exact .of_sound (by simpa using hfinite) _
  | text s =>
      change Guards True _
      rw [toInt]
      split
      · exact .ok _
      · exact .error rfl
  | bytes b =>
      change Guards True _
      rw [toInt]
      split
      · exact .ok _
      · exact .error rfl
  | int n => exact .ok _
  | bool b => exact .ok _
  | object o => cases o
  | _ => exact .error rfl

theorem guards_toItems (v : Value) : Guards True v.toItems := by
  cases v with
  | object o => cases o
  | _ => first
    | exact .ok _
    | exact .error rfl

theorem guards_toItemsOrNone (v : Value) : Guards True v.toItemsOrNone := by
  unfold toItemsOrNone
  split
  · exact .ok _
  · exact guards_toItems _

theorem guards_toItemsIfPresent (v : Value) : Guards True v.toItemsIfPresent := by
  unfold toItemsIfPresent
  split
  · exact guards_toItems v
  · exact .ok _

/-- The items of a sequence that may be absent, read one by one. -/
theorem guards_items {sort : Value → Prop} {read : Value → Read α} (v : Value)
    (hread : ∀ x, Guards (sort x) (read x)) :
    Guards (v.EachItem sort) (v.toItemsIfPresent >>= List.mapM read) := by
  unfold EachItem
  cases h : v.toItemsIfPresent with
  | error e => exact .error ((guards_toItemsIfPresent v).tame trivial e h)
  | ok items =>
      refine (Guards.mapM fun x _ => hread x).iff ⟨fun hall items' heq => ?_, fun hall => hall items rfl⟩
      cases heq
      exact hall

theorem guards_items_bind {β : Type} {sort : Value → Prop} {read : Value → Read α} {f : List α → Read β}
    (v : Value) (hread : ∀ x, Guards (sort x) (read x)) (hf : ∀ as, Guards t (f as)) :
    Guards (v.EachItem sort ∧ t) (v.toItemsIfPresent >>= fun items => items.mapM read >>= f) := by
  rw [← bind_assoc]
  exact (guards_items v hread).bind hf

theorem guards_toByte (v : Value) : Guards True v.toByte := by
  unfold toByte
  split
  · split
    · exact .ok _
    · exact .error rfl
  · exact .ok _
  · next o => cases o
  · exact .error rfl

theorem guards_zeroCount (n : Int) : Guards (-2 ^ 63 ≤ n ∧ n ≤ memorySize) (zeroCount n) := by
  rw [zeroCount, memorySize]
  split
  · next hwide =>
      rw [Bool.or_eq_true, decide_eq_true_eq, decide_eq_true_eq] at hwide
      exact .stray rfl (by omega)
  · next hnarrow =>
      rw [Bool.or_eq_true, decide_eq_true_eq, decide_eq_true_eq] at hnarrow
      split
      · exact .error rfl
      · split
        · exact .stray rfl (by omega)
        · exact .of_sound (by omega) _

/-- Only a count of bytes can be out of bounds. -/
theorem guards_toBytes (v : Value) : Guards v.HasRoom v.toBytes := by
  cases v with
  | int n => exact (guards_zeroCount n).map _
  | bool b => exact ((guards_zeroCount _).map _).iff (by cases b <;> simp [HasRoom, memorySize])
  | list items => exact (Guards.mapM fun x _ => guards_toByte x).iff (by simp [HasRoom])
  | map entries => exact (Guards.mapM fun x _ => guards_toByte x).iff (by simp [HasRoom])
  | bytes b => exact .ok _
  | object o => cases o
  | _ => exact .error rfl

theorem guards_optional {sort : Value → Prop} {read : Value → Read α} (v : Value)
    (hread : ∀ x, Guards (sort x) (read x)) :
    Guards (v.IfPresent sort) (Transaction.optional read v) := by
  unfold IfPresent Transaction.optional
  split
  · next h => exact ((hread v).map some).iff (by simp [h])
  · next h => exact (Guards.ok none).iff (by simp [h])

/-- What stands for a part that counts as absent is sound. -/
theorem orEmptyMap_iff {sort : Value → Prop} (hempty : sort (.map [])) :
    sort v.orEmptyMap ↔ v.IfPresent sort := by
  unfold IfPresent orEmptyMap
  split
  · next h => simp [h]
  · next h => simp [h, hempty]

end

end Value

/-! ## One lemma for each type -/

open Value

/-- Both bounds are numbers. -/
structure TimeBounds.Sound (v : Value) : Prop where
  isMap : v.IsMap
  minTime : (v.part "minTime" (.int 0)).IsFinite
  maxTime : (v.part "maxTime" (.int 0)).IsFinite

theorem TimeBounds.guards_ofValue (v : Value) : Guards (Sound v) (ofValue v) :=
  (guards_getD fun _ => (guards_toInt _).bind fun _ =>
    guards_getD fun _ => (guards_toInt _).bind fun _ => .ok _).iff
    ⟨fun ⟨h, hmin, _, hmax, _⟩ => ⟨h, hmin, hmax⟩,
      fun ⟨h, hmin, hmax⟩ => ⟨h, hmin, h, hmax, trivial⟩⟩

/-- Whatever is read as a memo, no failure is stray. -/
theorem Memo.guards_ofValue (v : Value) : Guards True (ofValue v) := by
  refine guards_require_any fun kind _ => (guards_toText kind).bind_of_true fun name =>
    guards_require_any fun value _ => ?_
  split
  · exact .ok _
  · exact .error rfl

theorem Footprint.guards_ofValue (v : Value) : Guards v.IsMap (ofValue v) :=
  (guards_getD fun _ => (guards_toItemsOrNone _).bind_of_true fun _ =>
    guards_getD fun _ => (guards_toItemsOrNone _).bind_of_true fun _ => .ok _).iff
    ⟨fun ⟨h, _⟩ => h, fun h => ⟨h, h, trivial⟩⟩

/-- A footprint is a map unless it counts as absent, and the budget is in numbers. -/
structure Resources.Sound (v : Value) : Prop where
  isMap : v.IsMap
  footprint : (v.part "footprint" .null).IfPresent IsMap
  instructions : (v.part "instructions" (.int 0)).IsFinite
  readBytes : (v.part "readBytes" (.int 0)).IsFinite
  writeBytes : (v.part "writeBytes" (.int 0)).IsFinite

theorem Resources.guards_ofValue (v : Value) : Guards (Sound v) (ofValue v) :=
  (guards_getD fun _ => ((Footprint.guards_ofValue _).iff (orEmptyMap_iff ⟨[], rfl⟩)).bind fun _ =>
    guards_getD fun _ => (guards_toInt _).bind fun _ =>
    guards_getD fun _ => (guards_toInt _).bind fun _ =>
    guards_getD fun _ => (guards_toInt _).bind fun _ => .ok _).iff
    ⟨fun ⟨h, hfootprint, _, hinstructions, _, hread, _, hwrite, _⟩ =>
        ⟨h, hfootprint, hinstructions, hread, hwrite⟩,
      fun ⟨h, hfootprint, hinstructions, hread, hwrite⟩ =>
        ⟨h, hfootprint, h, hinstructions, h, hread, h, hwrite, trivial⟩⟩

theorem Resources.sound_empty : Sound (.map []) := ⟨⟨[], rfl⟩, nofun, trivial, trivial, trivial⟩

structure SorobanData.Sound (v : Value) : Prop where
  isMap : v.IsMap
  resources : (v.part "resources" .null).IfPresent Resources.Sound
  resourceFee : (v.part "resourceFee" (.int 0)).IsFinite

theorem SorobanData.guards_ofValue (v : Value) : Guards (Sound v) (ofValue v) :=
  (guards_getD fun _ =>
    ((Resources.guards_ofValue _).iff (orEmptyMap_iff Resources.sound_empty)).bind fun _ =>
      guards_getD fun _ => (guards_toInt _).bind fun _ => .ok _).iff
    ⟨fun ⟨h, hresources, _, hfee, _⟩ => ⟨h, hresources, hfee⟩,
      fun ⟨h, hresources, hfee⟩ => ⟨h, hresources, h, hfee, trivial⟩⟩

/-- Whatever is read as an invocation, no failure is stray: it has to have fields before any is asked
for that may be absent. -/
theorem Invocation.guards_ofValueWithin (depth : Nat) (v : Value) :
    Guards True (ofValueWithin depth v) := by
  induction depth generalizing v with
  | zero => exact .error rfl
  | succ depth ih =>
      rw [ofValueWithin]
      refine guards_require_any fun contract hv => (guards_toText contract).bind_of_true fun _ =>
        guards_require_any fun function _ => (guards_toText function).bind_of_true fun _ => ?_
      refine (guards_getD fun _ => (guards_toItemsOrNone _).bind_of_true fun _ =>
        guards_getD fun _ => guards_items_bind _ ih fun _ => .ok _).iff ?_
      simp [hv, EachItem]

theorem Invocation.guards_ofValue (v : Value) : Guards True (ofValue v) :=
  guards_ofValueWithin (v.depth + 1) v

/-- A key and a signature are bytes, or counts of zero bytes for which there is room. -/
structure AuthSignature.Sound (v : Value) : Prop where
  publicKey : v.Holds "publicKey" HasRoom
  signature : v.Holds "signature" HasRoom

theorem AuthSignature.guards_ofValue (v : Value) : Guards (Sound v) (ofValue v) :=
  (guards_require fun _ _ => (guards_toBytes _).bind fun _ =>
    guards_require fun _ _ => (guards_toBytes _).bind fun _ => .ok _).iff
    ⟨fun ⟨hkey, hsignature, _⟩ => ⟨hkey, hsignature⟩,
      fun ⟨hkey, hsignature⟩ => ⟨hkey, hsignature, trivial⟩⟩

/-- An entry may be unsigned. -/
structure AuthEntry.Sound (v : Value) : Prop where
  isMap : v.IsMap
  nonce : (v.part "nonce" (.int 0)).IsFinite
  expiration : (v.part "signatureExpirationLedger" (.int 0)).IsFinite
  signature : (v.part "signature" .null).isNull = false →
    AuthSignature.Sound (v.part "signature" .null)

theorem AuthEntry.guards_ofValue (v : Value) : Guards (Sound v) (ofValue v) := by
  have hsigned : ∀ (signed : Value) (f : Option AuthSignature → Read AuthEntry),
      (∀ s, Guards True (f s)) → Guards (signed.isNull = false → AuthSignature.Sound signed)
        (if signed.isNull then .ok none >>= f else some <$> AuthSignature.ofValue signed >>= f) := by
    intro signed f hf
    split
    · next h => exact (hf none).iff (by simp [h])
    · next h => exact (((AuthSignature.guards_ofValue signed).map some).bind hf).iff (by simp [h])
  refine (guards_getD fun signed => guards_require_any fun _ _ =>
    (Invocation.guards_ofValue _).bind_of_true fun _ => guards_getD fun _ =>
      guards_getD fun _ => (guards_toInt _).bind fun _ =>
      guards_getD fun _ => (guards_toInt _).bind fun _ => hsigned signed _ fun _ => .ok _).iff ?_
  exact ⟨fun ⟨h, _, _, hnonce, _, hexpiration, hsignature⟩ => ⟨h, hnonce, hexpiration, hsignature⟩,
    fun ⟨h, hnonce, hexpiration, hsignature⟩ => ⟨h, h, h, hnonce, h, hexpiration, hsignature⟩⟩

/-- The entries of a contract call are sound, one by one; no other body is asked for anything that it
may not have. -/
structure Body.Sound (v : Value) : Prop where
  isMap : v.IsMap
  auth : v.part "kind" .null = .text "invoke_contract" →
    (v.part "auth" .null).EachItem AuthEntry.Sound

theorem Body.guards_needed (v : Value) (key : String) : Guards True (needed v key) := by
  unfold needed
  split
  · exact .ok _
  · exact .error rfl

theorem Body.guards_invocationOfValue (v : Value) :
    Guards ((v.part "auth" .null).EachItem AuthEntry.Sound) (invocationOfValue v) := by
  have hrest : ∀ auth, Guards True (needed v "contract_id" >>= fun contractId =>
      needed v "function_name" >>= fun functionName => .ok (invokeContract contractId functionName
        ((v.field? "args").getD (.list [])) auth)) := fun auth =>
    (guards_needed _ _).bind_of_true fun _ => (guards_needed _ _).bind_of_true fun _ => .ok _
  unfold invocationOfValue part
  cases v.field? "auth" with
  | none => exact (hrest []).iff (by simp [EachItem, toItemsIfPresent, isTruthy])
  | some entries =>
      exact (guards_items_bind entries AuthEntry.guards_ofValue hrest).iff (and_iff_left trivial)

theorem Body.guards_ofKind (kind : String) (v : Value) :
    Guards (kind = "invoke_contract" → (v.part "auth" .null).EachItem AuthEntry.Sound)
      (ofKind kind v) := by
  by_cases hkind : kind = "invoke_contract"
  · subst hkind
    exact (guards_invocationOfValue v).iff (by simp)
  · refine Guards.iff (s := True) ?_ (by simp [hkind])
    unfold ofKind
    split
    · exact absurd rfl hkind
    -- every other kind takes over up to three fields
    all_goals first
      | exact .ok _
      | exact .error rfl
      | exact (guards_needed _ _).map _
      | exact (guards_needed _ _).bind_of_true fun _ => .ok _
      | exact (guards_needed _ _).bind_of_true fun _ => (guards_needed _ _).bind_of_true fun _ => .ok _
      | exact (guards_needed _ _).bind_of_true fun _ => (guards_needed _ _).bind_of_true fun _ =>
          (guards_needed _ _).bind_of_true fun _ => .ok _

theorem Body.guards_ofValue (v : Value) : Guards (Sound v) (ofValue v) := by
  obtain ⟨rest, hrest, hkind⟩ : ∃ rest, ofValue v = v.getD "kind" .null >>= rest ∧
      ∀ tag : Value, Guards (tag = .text "invoke_contract" →
        (v.part "auth" .null).EachItem AuthEntry.Sound) (rest tag) := by
    refine ⟨_, rfl, fun tag => ?_⟩
    split
    · next kind => exact (guards_ofKind kind v).iff (by simp)
    · exact .error rfl
    · exact .error rfl
    · refine .error ?_
      split <;> rfl
  rw [hrest]
  exact (guards_getD hkind).iff ⟨fun ⟨h, hauth⟩ => ⟨h, hauth⟩, fun ⟨h, hauth⟩ => ⟨h, hauth⟩⟩

theorem Operation.guards_ofValue (v : Value) : Guards (v.Holds "body" Body.Sound) (ofValue v) := by
  refine (guards_require fun body hv => (Body.guards_ofValue body).bind fun _ => ?_).iff
    (and_iff_left trivial)
  exact (guards_getD fun _ => .ok _).iff (by simp [hv])

/-- The fields of a transaction that may be absent, and its numbers. -/
structure Transaction.Sound (v : Value) : Prop where
  isMap : v.IsMap
  seqNum : v.Holds "seqNum" IsFinite
  fee : (v.part "fee" (.int 100)).IsFinite
  timeBounds : (v.part "timeBounds" .null).IfPresent TimeBounds.Sound
  operations : (v.part "operations" .null).EachItem fun op => op.Holds "body" Body.Sound
  version : (v.part "version" (.int currentVersion)).IsFinite
  sorobanData : (v.part "sorobanData" .null).IfPresent SorobanData.Sound

theorem Transaction.guards_ofValue (v : Value) : Guards (Sound v) (ofValue v) := by
  refine (guards_getD fun bounds => guards_getD fun note => guards_getD fun declared =>
    guards_require_any fun _ _ => (guards_toText _).bind_of_true fun _ =>
    guards_require fun _ _ => (guards_toInt _).bind fun _ =>
    guards_getD fun _ => (guards_toInt _).bind fun _ =>
    (guards_optional bounds TimeBounds.guards_ofValue).bind fun _ =>
    (guards_optional note Memo.guards_ofValue).bind fun _ =>
    guards_getD fun _ => guards_items_bind _ Operation.guards_ofValue fun _ =>
    guards_getD fun _ => (guards_toInt _).bind fun _ =>
    (guards_optional declared SorobanData.guards_ofValue).bind fun _ => .ok _).iff ?_
  exact ⟨fun ⟨h, _, _, hseq, _, hfee, hbounds, _, _, hoperations, _, hversion, hdata, _⟩ =>
      ⟨h, hseq, hfee, hbounds, hoperations, hversion, hdata⟩,
    fun ⟨h, hseq, hfee, hbounds, hoperations, hversion, hdata⟩ =>
      ⟨h, h, h, hseq, h, hfee, hbounds, fun _ => trivial, h, hoperations, h, hversion, hdata,
        trivial⟩⟩

/-- A signature of an envelope is bytes, or counts of zero bytes for which there is room. -/
structure DecoratedSignature.Sound (v : Value) : Prop where
  hint : v.Holds "hint" HasRoom
  signature : v.Holds "signature" HasRoom

theorem DecoratedSignature.guards_ofValue (v : Value) : Guards (Sound v) (ofValue v) :=
  (guards_require fun _ _ => (guards_toBytes _).bind fun _ =>
    guards_require fun _ _ => (guards_toBytes _).bind fun _ => .ok _).iff
    ⟨fun ⟨hhint, hsignature, _⟩ => ⟨hhint, hsignature⟩,
      fun ⟨hhint, hsignature⟩ => ⟨hhint, hsignature, trivial⟩⟩

structure Envelope.Sound (v : Value) : Prop where
  tx : v.Holds "tx" Transaction.Sound
  signatures : (v.part "signatures" .null).EachItem DecoratedSignature.Sound

theorem Envelope.guards_ofValue (v : Value) : Guards (Sound v) (ofValue v) := by
  refine (guards_require fun _ hv => (Transaction.guards_ofValue _).bind fun _ => ?_).iff
    ⟨fun ⟨htx, hsignatures⟩ => ⟨htx, hsignatures⟩, fun ⟨htx, hsignatures⟩ => ⟨htx, hsignatures⟩⟩
  refine (guards_getD fun _ => guards_items_bind _ DecoratedSignature.guards_ofValue fun _ =>
    .ok _).iff ?_
  simp [hv]

end LedgerFlow
