import LedgerFlow.Codec.Json.Encoding
import LedgerFlow.Proofs.Result
import LedgerFlow.Proofs.Value.Depth
import LedgerFlow.Value.Reader
import Mathlib.Tactic.Ring

/-!
# Numbers in JSON texts

A JSON text with an integer of too many digits is refused.  So every value that is read from a text can be
taken as text again, whole or in parts (`exists_toText`).
-/

namespace LedgerFlow

/-! ## Digits -/

namespace Text

theorem lt_ten_of_asciiDigit? {c : Char} {d : Nat} (h : asciiDigit? c = some d) : d < 10 := by
  unfold asciiDigit? at h
  split at h
  · next hc =>
      have hle : c.toNat ≤ '9'.toNat := hc.2
      have hnine : '9'.toNat = 57 := rfl
      cases h
      omega
  · cases h

theorem ofDigits_lt {ds : List Nat} (h : ∀ d ∈ ds, d < 10) : ofDigits ds < 10 ^ ds.length := by
  -- Digits after a number are less than one in the last place of the number.
  have hafter : ∀ n, ds.foldl (fun n d => 10 * n + d) n < (n + 1) * 10 ^ ds.length := by
    induction ds with
    | nil => simp
    | cons d ds ih =>
        intro n
        have hd := h d List.mem_cons_self
        calc (d :: ds).foldl (fun n d => 10 * n + d) n
            < (10 * n + d + 1) * 10 ^ ds.length := ih (fun x hx => h x (List.mem_cons_of_mem d hx)) _
          _ ≤ (10 * (n + 1)) * 10 ^ ds.length := Nat.mul_le_mul_right _ (by omega)
          _ = (n + 1) * 10 ^ (d :: ds).length := by rw [List.length_cons]; ring
  simpa [ofDigits] using hafter 0

end Text

theorem Number.lt_ten_of_mem_spanDigits {cs : List Char} {d : Nat} (h : d ∈ (spanDigits cs).1) : d < 10 := by
  obtain ⟨c, -, hc⟩ := List.mem_filterMap.1 h
  exact Text.lt_ten_of_asciiDigit? hc

/-! ## Values without long numbers -/

namespace Value

theorem anyLongEntry_eq_false_iff {entries : List (Value × Value)} :
    anyLongEntry entries = false ↔
      ∀ e ∈ entries, e.1.hasLongNumber = false ∧ e.2.hasLongNumber = false := by
  induction entries with
  | nil => simp [anyLongEntry]
  | cons e rest ih => simp [anyLongEntry, ih, and_assoc]

theorem hasLongNumber_of_lookup {key : String} {entries : List (Value × Value)} {v : Value}
    (hentries : (Value.map entries).hasLongNumber = false) (h : lookup key entries = some v) :
    v.hasLongNumber = false := by
  rw [hasLongNumber] at hentries
  exact (anyLongEntry_eq_false_iff.1 hentries _ (mem_of_lookup h)).2

theorem anyLongEntry_insertEntry {entries : List (Value × Value)} {key value : Value}
    (hentries : anyLongEntry entries = false) (hkey : key.hasLongNumber = false)
    (hvalue : value.hasLongNumber = false) : anyLongEntry (insertEntry entries key value) = false := by
  rw [anyLongEntry_eq_false_iff] at hentries ⊢
  unfold insertEntry
  split
  · rw [List.forall_mem_map]
    intro e he
    split
    · exact ⟨(hentries e he).1, hvalue⟩
    · exact hentries e he
  · rw [List.forall_mem_append, List.forall_mem_singleton]
    exact ⟨hentries, hkey, hvalue⟩

theorem hasLongNumber_ofEntries {entries : List (Value × Value)} (h : anyLongEntry entries = false) :
    (ofEntries entries).hasLongNumber = false := by
  rw [anyLongEntry_eq_false_iff] at h
  rw [ofEntries, hasLongNumber]
  exact List.foldlRecOn (motive := fun acc => anyLongEntry acc = false) entries _ rfl
    fun acc hacc e he => anyLongEntry_insertEntry hacc (h e he).1 (h e he).2

theorem exists_toText {v : Value} (h : v.hasLongNumber = false) : ∃ s, v.toText = .ok s := by
  unfold toText
  split
  · exact ⟨_, rfl⟩
  · next o => cases o
  · rw [h]
    exact ⟨_, rfl⟩

end Value

/-! ## What is read -/

namespace Json

theorem lt_ten_of_mem_wholeDigits {cs : List Char} {d : Nat} (h : d ∈ (wholeDigits cs).1) : d < 10 := by
  unfold wholeDigits at h
  split at h
  · rw [List.mem_singleton.1 h]
    decide
  · exact Number.lt_ten_of_mem_spanDigits h

/-- Of so many digits as a number may have, only a number that is not long can be made. -/
theorem hasLongNumber_int {negative : Bool} {ds : List Nat} (hdigits : ∀ d ∈ ds, d < 10)
    (hlength : ds.length ≤ Number.maxDigits) :
    (Value.int (if negative then -(Text.ofDigits ds : Int) else Text.ofDigits ds)).hasLongNumber = false := by
  have hlt : Text.ofDigits ds < 10 ^ Number.maxDigits :=
    Nat.lt_of_lt_of_le (Text.ofDigits_lt hdigits) (Nat.pow_le_pow_right (by decide) hlength)
  rw [Value.hasLongNumber, decide_eq_false_iff_not, Nat.not_le]
  split
  · rwa [Int.natAbs_neg, Int.natAbs_natCast]
  · rwa [Int.natAbs_natCast]

theorem hasLongNumber_of_number? {negative : Bool} {cs rest : List Char} {v : Value}
    (h : number? negative cs = some (v, rest)) : v.hasLongNumber = false := by
  unfold number? at h
  dsimp only at h
  split at h
  · cases h
  · split at h
    · cases h
      rfl
    · split at h
      · split at h
        · cases h
        · next hlength =>
            cases h
            exact hasLongNumber_int (fun d => lt_ten_of_mem_wholeDigits) (Nat.le_of_not_lt hlength)
      · cases h
        rfl

theorem hasLongNumber_of_scalar? {cs rest : List Char} {v : Value} (h : scalar? cs = some (v, rest)) :
    v.hasLongNumber = false := by
  unfold scalar? at h
  dsimp only at h
  split at h
  · next hnamed =>
      obtain ⟨⟨word, w⟩, hmem, hword⟩ := List.exists_of_findSome?_eq_some hnamed
      obtain ⟨after, -, hafter⟩ := Option.map_eq_some_iff.1 hword
      cases h
      cases hafter
      have hall : ∀ named ∈ [("null", Value.null), ("true", .bool true), ("false", .bool false),
          ("NaN", .float Binary64.nan), ("Infinity", .float (Binary64.infinity false)),
          ("-Infinity", .float (Binary64.infinity true))], named.2.hasLongNumber = false := by
        simp [Value.hasLongNumber]
      exact hall _ hmem
  · split at h
    · exact hasLongNumber_of_number? h
    · exact hasLongNumber_of_number? h

theorem eq_some_of_found {α : Type} {x : Option (α × List Char)} {y : α × List Char} (h : found x = .ok y) :
    x = some y := by
  cases x with
  | none => cases h
  | some x => rw [Except.ok.inj h]

/-- What is read in so many steps holds no long number. -/
structure ReadsShort (fuel : Nat) : Prop where
  value {depth : Nat} {cs rest : List Char} {v : Value} :
    value? fuel depth cs = .ok (v, rest) → v.hasLongNumber = false
  items {depth : Nat} {cs rest : List Char} {xs : List Value} :
    items? fuel depth cs = .ok (xs, rest) → Value.anyLongNumber xs = false
  entries {depth : Nat} {cs rest : List Char} {es : List (Value × Value)} :
    entries? fuel depth cs = .ok (es, rest) → Value.anyLongEntry es = false

namespace ReadsShort

variable {fuel depth : Nat} {cs rest : List Char}

theorem value_succ (ih : ReadsShort fuel) {v : Value} (h : value? (fuel + 1) depth cs = .ok (v, rest)) :
    v.hasLongNumber = false := by
  unfold value? at h
  split at h
  · obtain ⟨found, -, heq⟩ := exists_of_map_eq_ok h
    cases heq
    rfl
  · cases h
  · cases h
  · split at h
    · cases h
      rfl
    · obtain ⟨found, hitems, heq⟩ := exists_of_map_eq_ok h
      cases heq
      exact ih.items hitems
  · split at h
    · cases h
      rfl
    · obtain ⟨found, hentries, heq⟩ := exists_of_map_eq_ok h
      cases heq
      exact Value.hasLongNumber_ofEntries (ih.entries hentries)
  · exact hasLongNumber_of_scalar? (eq_some_of_found h)

theorem items_succ (ih : ReadsShort fuel) {xs : List Value}
    (h : items? (fuel + 1) depth cs = .ok (xs, rest)) : Value.anyLongNumber xs = false := by
  unfold items? at h
  obtain ⟨⟨x, after⟩, hx, h⟩ := exists_of_bind_eq_ok h
  dsimp only at h
  split at h
  · cases h
    simp [Value.anyLongNumber, ih.value hx]
  · obtain ⟨⟨more, after⟩, hmore, h⟩ := exists_of_bind_eq_ok h
    cases h
    simp [Value.anyLongNumber, ih.value hx, ih.items hmore]
  · cases h

theorem entries_succ (ih : ReadsShort fuel) {es : List (Value × Value)}
    (h : entries? (fuel + 1) depth cs = .ok (es, rest)) : Value.anyLongEntry es = false := by
  unfold entries? at h
  split at h
  · obtain ⟨⟨k, after⟩, -, h⟩ := exists_of_bind_eq_ok h
    dsimp only at h
    split at h
    · obtain ⟨⟨v, after⟩, hv, h⟩ := exists_of_bind_eq_ok h
      dsimp only at h
      split at h
      · cases h
        simp [Value.anyLongEntry, Value.hasLongNumber, ih.value hv]
      · obtain ⟨⟨more, after⟩, hmore, h⟩ := exists_of_bind_eq_ok h
        cases h
        simp [Value.anyLongEntry, Value.hasLongNumber, ih.value hv, ih.entries hmore]
      · cases h
    · cases h
  · cases h

end ReadsShort

theorem readsShort (fuel : Nat) : ReadsShort fuel := by
  induction fuel with
  | zero => exact ⟨nofun, nofun, nofun⟩
  | succ fuel ih => exact ⟨ih.value_succ, ih.items_succ, ih.entries_succ⟩

/-- No value that is read from a text holds a number that has no text. -/
theorem hasLongNumber_of_parse {s : String} {v : Value} (h : parse s = .ok v) : v.hasLongNumber = false := by
  obtain ⟨⟨w, rest⟩, hvalue, h⟩ := exists_of_bind_eq_ok h
  dsimp only at h
  split at h
  · cases h
    exact (readsShort _).value hvalue
  · cases h

theorem hasLongNumber_of_parseBytes {bs : Bytes} {v : Value} (h : parseBytes bs = .ok v) :
    v.hasLongNumber = false := by
  unfold parseBytes at h
  split at h
  · exact hasLongNumber_of_parse h
  · cases h

end Json
end LedgerFlow
