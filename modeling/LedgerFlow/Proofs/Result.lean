import Mathlib.Control.Monad.Basic

/-!
# Results taken apart

A sequence that ends with a result has got one from each of its steps, and one that ends with a failure
has got it from one of them.
-/

namespace LedgerFlow

variable {ε ε' α β γ : Type} {r : Except ε α}

theorem ok_bind (a : α) (f : α → Except ε β) : (Except.ok a >>= f) = f a := rfl

theorem error_bind (e : ε) (f : α → Except ε β) : (Except.error e >>= f) = .error e := rfl

theorem exists_of_map_eq_ok {f : α → β} {b : β} (h : r.map f = .ok b) :
    ∃ a, r = .ok a ∧ f a = b := by
  cases r with
  | error e => cases h
  | ok a => exact ⟨a, rfl, Except.ok.inj h⟩

theorem eq_error_of_map {f : α → β} {e : ε} (h : r.map f = .error e) : r = .error e := by
  cases r with
  | error e' =>
      cases h
      rfl
  | ok a => cases h

theorem exists_of_bind_eq_ok {f : α → Except ε β} {b : β} (h : (r >>= f) = .ok b) :
    ∃ a, r = .ok a ∧ f a = .ok b := by
  cases r with
  | error e => cases h
  | ok a => exact ⟨a, rfl, h⟩

/-- Sequences with the same first step have results together if their other steps have. -/
theorem bind_eq_ok_imp {f : α → Except ε β} {g : α → Except ε γ} {b : β} {c : γ} (h : (r >>= f) = .ok b)
    (hfg : ∀ a, f a = .ok b → g a = .ok c) : (r >>= g) = .ok c := by
  obtain ⟨a, rfl, h⟩ := exists_of_bind_eq_ok h
  exact hfg a h

theorem error_of_bind_eq_error {f : α → Except ε β} {e : ε} (h : (r >>= f) = .error e) :
    r = .error e ∨ ∃ a, r = .ok a ∧ f a = .error e := by
  cases r with
  | error e' =>
      cases h
      exact .inl rfl
  | ok a => exact .inr ⟨a, rfl, h⟩

/-- Naming the failure of a reader keeps its result. -/
theorem eq_ok_of_mapError {f : ε → ε'} {a : α} (h : r.mapError f = .ok a) : r = .ok a := by
  cases r with
  | ok b =>
      cases h
      rfl
  | error e => cases h

theorem exists_of_mapError_eq_error {f : ε → ε'} {e : ε'} (h : r.mapError f = .error e) :
    ∃ e', r = .error e' ∧ f e' = e := by
  cases r with
  | ok a => cases h
  | error e' => exact ⟨e', rfl, Except.error.inj h⟩

/-- What is computed of a result shows that there is one. -/
theorem exists_of_toOption_map {f : α → β} {b : β} (h : r.toOption.map f = some b) :
    ∃ a, r = .ok a ∧ f a = b := by
  cases r with
  | error e => cases h
  | ok a => exact ⟨a, rfl, Option.some.inj h⟩

end LedgerFlow
