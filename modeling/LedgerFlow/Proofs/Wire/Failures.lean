import LedgerFlow.Proofs.Result
import LedgerFlow.Proofs.Transaction.Sound
import LedgerFlow.Proofs.Wire.Foreign

/-!
# How reading wire text fails

Missing fields and wrong types are reported as bad values of the model that was asked for, but stray
failures pass through: a value without fields where a part with fields is expected, an infinite number
where a number is, and a count of bytes that is out of bounds.  They come from payloads that are not
sound, and no such payload is read as a model, so sound wire text is read as a model or refused as a bad
value.

Payloads with items that stand for objects are left out: what such an object does when it is taken for a
number, a text or a sequence is its own matter.
-/

namespace LedgerFlow

namespace Value

/-- Guarded, and no failure but a bad value or a stray one. -/
structure Contained {α : Type} (sound : Prop) (r : Read α) : Prop extends Guards sound r where
  isBadValue_or_isStray : ∀ e, r = .error e → e.isBadValue = true ∨ e.isStray = true

namespace Contained

variable {α β : Type} {s t : Prop}

/-- A bad value is contained, whatever is sound. -/
theorem error {e : Malformed} (h : e.isBadValue = true) : Contained s (.error e : Read α) := by
  have htame : e.isTame = true := by
    cases e <;> first
      | rfl
      | cases h
  refine ⟨.error htame, fun f hf => ?_⟩
  cases hf
  exact .inl h

theorem map {r : Read α} (f : α → β) (h : Contained s r) : Contained s (f <$> r) := by
  refine ⟨h.toGuards.map f, fun e he => ?_⟩
  cases r with
  | ok a => cases he
  | error m =>
      cases he
      exact h.isBadValue_or_isStray _ rfl

theorem iff {r : Read α} (h : Contained s r) (hiff : s ↔ t) : Contained t r :=
  ⟨h.toGuards.iff hiff, h.isBadValue_or_isStray⟩

end Contained

/-- Only the number of digits keeps a value from being shown. -/
theorem isBadValue_of_toText {v : Value} {e : Malformed} (h : v.toText = .error e) :
    e.isBadValue = true := by
  unfold toText at h
  split at h
  · cases h
  · next o => cases o
  · split at h <;> cases h
    rfl

theorem isBadValue_of_mapM_toText {vs : List Value} {e : Malformed}
    (h : vs.mapM toText = .error e) : e.isBadValue = true := by
  induction vs with
  | nil => cases h
  | cons v vs ih =>
      rw [List.mapM_cons] at h
      obtain h | ⟨_, -, h⟩ := error_of_bind_eq_error h
      · exact isBadValue_of_toText h
      obtain h | ⟨_, -, h⟩ := error_of_bind_eq_error h
      · exact ih h
      · cases h

end Value

open Value

namespace Wire

/-- Asking for a named model contains the failures of a guarded reader. -/
theorem contained_asModel {α : Type} {sound : Prop} {r : Read α} (model : String)
    (h : Guards sound r) : Contained sound (asModel model r) := by
  cases r with
  | ok a => exact ⟨.of_sound (h.sound_of_ok a rfl) a, nofun⟩
  | error e =>
      have hkept : asModel model (.error e : Read α) = .error e →
          e.isBadValue = true ∨ e.isStray = true →
          Contained sound (asModel model (.error e : Read α)) := fun heq hkind => by
        rw [heq]
        refine ⟨h, fun f hf => ?_⟩
        cases hf
        exact hkind
      -- Only three failures are left as they are; the others are given the name of the model.
      cases e with
      | missing key => exact .error rfl
      | wrongType => exact .error rfl
      | noFields => exact hkept rfl (.inr rfl)
      | tooLarge => exact hkept rfl (.inr rfl)
      | noRoom => exact hkept rfl (.inr rfl)
      | foreign => rcases h.tame_or_stray _ rfl with h | h <;> cases h
      | _ => exact .error rfl

/-- An item in the payload of a text stands for an object. -/
def HoldsObject (text : String) : Prop := payload text = .error .foreign

/-- A text that holds no payload is refused as a bad value. -/
theorem isBadValue_of_payload {text : String} (hvalues : ¬HoldsObject text) {e : Malformed}
    (h : payload text = .error e) : e.isBadValue = true := by
  cases e with
  | foreign => exact absurd h hvalues
  | _ =>
      unfold payload at h
      dsimp only at h
      repeat' split at h
      all_goals
        first
          | cases h; rfl
          | cases h

/-- A payload is a map. -/
theorem isMap_of_payload {text : String} {v : Value} (h : payload text = .ok v) : v.IsMap := by
  unfold payload at h
  dsimp only at h
  split at h
  · cases h
  · split at h
    · cases h
    · split at h
      · cases h
      · cases h
      · next entries _ =>
          cases h
          exact ⟨entries, rfl⟩
      · cases h

/-- Whether the payload of a text is sound, if there is one. -/
def Holds (sound : Value → Prop) (text : String) : Prop := ∀ v, payload text = .ok v → sound v

/-- Reading a payload contains its failures when reading any map does. -/
theorem contained_payload {α : Type} {sound : Value → Prop} {read : Value → Read α} {text : String}
    (hvalues : ¬HoldsObject text) (hread : ∀ v, v.IsMap → Contained (sound v) (read v)) :
    Contained (Holds sound text) (payload text >>= read) := by
  unfold Holds
  cases h : payload text with
  | error e => exact .error (isBadValue_of_payload hvalues h)
  | ok v => exact (hread v (isMap_of_payload h)).iff (by simp)

end Wire

namespace Model

/-- The payloads that are sound for the type of a model. -/
def SoundAs (like : Model) (v : Value) : Prop :=
  match like with
  | .envelope _ => Envelope.Sound v
  | .transaction _ => Transaction.Sound v
  | .authEntry _ => AuthEntry.Sound v
  | .sorobanData _ => SorobanData.Sound v

/-- The payloads that are sound for the type that their fields mark; one that marks none is. -/
def Sound (v : Value) : Prop :=
  if (v.field? "tx").isSome then Envelope.Sound v
  else if (v.field? "seqNum").isSome then Transaction.Sound v
  else if (v.field? "rootInvocation").isSome then AuthEntry.Sound v
  else if (v.field? "resources").isSome then SorobanData.Sound v
  else True

theorem guards_readAs (like : Model) (v : Value) : Guards (like.SoundAs v) (like.readAs v) := by
  cases like with
  | envelope e => exact (Envelope.guards_ofValue v).map _
  | transaction tx => exact (Transaction.guards_ofValue v).map _
  | authEntry e => exact (AuthEntry.guards_ofValue v).map _
  | sorobanData d => exact (SorobanData.guards_ofValue v).map _

/-- What keeps a map from being recognized is its keys, of which only a number may have no text. -/
theorem contained_unrecognized {v : Value} (hv : v.IsMap) :
    Contained True (do
      let keys ← (← v.toItems).mapM toText
      (.error (.wireUnrecognized (keys.mergeSort fun a b => decide (a ≤ b))) : Read Model)) := by
  obtain ⟨entries, rfl⟩ := hv
  change Contained True ((entries.map (·.1)).mapM toText >>= _)
  cases h : (entries.map (·.1)).mapM toText with
  | ok keys => exact .error rfl
  | error e => exact .error (isBadValue_of_mapM_toText h)

theorem contained_ofValue {v : Value} (hv : v.IsMap) : Contained (Sound v) (ofValue v) := by
  unfold Sound ofValue
  split
  · exact (Wire.contained_asModel _ (Envelope.guards_ofValue v)).map _
  · split
    · exact (Wire.contained_asModel _ (Transaction.guards_ofValue v)).map _
    · split
      · exact (Wire.contained_asModel _ (AuthEntry.guards_ofValue v)).map _
      · split
        · exact (Wire.contained_asModel _ (SorobanData.guards_ofValue v)).map _
        · exact contained_unrecognized hv

/-- What keeps wire text from being read, if not a bad value, is a stray failure or an object. -/
theorem isStray_or_holdsObject {text : String} {m : Malformed} (h : ofAnyWire text = .error m)
    (hbad : m.isBadValue = false) : m.isStray = true ∨ Wire.HoldsObject text ∧ m = .foreign := by
  by_cases hobject : Wire.HoldsObject text
  · rw [ofAnyWire, hobject] at h
    cases h
    exact .inr ⟨hobject, rfl⟩
  · have hcontained : Contained (Wire.Holds Sound text) (ofAnyWire text) :=
      Wire.contained_payload hobject fun v hv => contained_ofValue hv
    rcases hcontained.isBadValue_or_isStray m h with hbad' | hstray
    · rw [hbad] at hbad'
      cases hbad'
    · exact .inl hstray

end Model
end LedgerFlow
