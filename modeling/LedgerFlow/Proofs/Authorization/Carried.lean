import LedgerFlow.Proofs.Authorization

/-!
# What becomes of signed entries

Resolving requirements puts a new list of entries on the first contract call, and only what a requirement
becomes is on it.  `Becomes` says what that is.  An entry that was signed on the transaction before is
therefore carried over only where a requirement stands for it (`StandsFor`), and there are two ways in
which one does: as long as nothing needs a signature the signed entry is looked up for every requirement,
otherwise only for those that are not resolved themselves.

`mem_authEntries_resolve_iff` puts this together: it says exactly which signed entries are still there
after a resolution.
-/

namespace LedgerFlow

namespace Transaction

variable {tx out : Transaction} {entries requirements : List AuthEntry} {e a x : AuthEntry}

/-- A signed entry of a transaction, or a later one, is found for its requirement. -/
theorem signedEntry?_ne_none (ha : a ∈ tx.authEntries) (hsigned : a.signature.isSome = true)
    (hidentity : a.identity = e.identity) : tx.signedEntry? e ≠ none := by
  intro hnone
  have hmem : a ∈ (tx.authEntries.filter fun x => x.signature.isSome).reverse :=
    List.mem_reverse.2 (List.mem_filter.2 ⟨ha, hsigned⟩)
  have hother := List.find?_eq_none.1 hnone a hmem
  rw [hidentity] at hother
  exact hother BEq.rfl

/-- What a requirement becomes when requirements are resolved, where `needed` says whether any of them
needs a signature. -/
inductive Becomes (tx : Transaction) (needed : Bool) : AuthEntry → AuthEntry → Prop where
  /-- An entry that is signed on the transaction takes its place. -/
  | carried {e a : AuthEntry} (hopen : needed = true → e.isResolved = false)
      (hfound : tx.signedEntry? e = some a) : Becomes tx needed e a
  | kept {e : AuthEntry} (hresolved : e.isResolved = true)
      (hfound : needed = true ∨ tx.signedEntry? e = none) : Becomes tx needed e e
  /-- It is signed now. -/
  | signed {e : AuthEntry} {limit : Int} {sig : AuthSignature} (hneeded : needed = true)
      (hopen : e.isResolved = false) (hnone : tx.signedEntry? e = none) :
      Becomes tx needed e { e with expiration := limit, signature := some sig }

/-- Whether a requirement stands for an entry that is signed on the transaction. -/
def StandsFor (tx : Transaction) (needed : Bool) (e a : AuthEntry) : Prop :=
  if needed && e.isResolved then e = a else tx.signedEntry? e = some a

/-- Whether an entry that is signed on a transaction is carried over to the transaction with resolved
requirements: nothing changed at all, it is one of a later contract call, or a requirement stands for
it. -/
def CarriesOver (tx : Transaction) (requirements : List AuthEntry) (out : Transaction)
    (a : AuthEntry) : Prop :=
  out = tx ∨ a ∈ tx.laterAuth ∨
    ∃ e ∈ requirements, tx.StandsFor (requirements.any tx.needsSignature) e a

/-- A requirement becomes the signed entry that it stands for, and no other signed entry. -/
theorem Becomes.eq_iff {needed : Bool} (h : tx.Becomes needed e x) (ha : a ∈ tx.authEntries)
    (hsigned : a.signature.isSome = true) : x = a ↔ tx.StandsFor needed e a := by
  unfold StandsFor
  cases h with
  | carried hopen hfound =>
      have hlook : (needed && e.isResolved) = false := by
        cases needed with
        | false => rfl
        | true => rw [hopen rfl]; rfl
      rw [hlook, if_neg Bool.false_ne_true, hfound, Option.some.injEq]
  | kept hresolved hfound =>
      -- Once something needs a signature, a resolved requirement stands for itself only.
      cases needed with
      | true => rw [hresolved, Bool.and_self, if_pos rfl]
      | false =>
          have hnone : tx.signedEntry? e = none := hfound.resolve_left Bool.false_ne_true
          rw [Bool.false_and, if_neg Bool.false_ne_true, hnone]
          refine iff_of_false ?_ nofun
          rintro rfl
          exact signedEntry?_ne_none ha hsigned rfl hnone
  | signed hneeded hopen hnone =>
      -- An entry that is signed now has the identity of the requirement, so it was not there before.
      rw [hopen, Bool.and_false, if_neg Bool.false_ne_true, hnone]
      refine iff_of_false ?_ nofun
      rintro rfl
      exact signedEntry?_ne_none ha hsigned rfl hnone

/-- The signed entries among those that requirements become. -/
theorem mem_iff_of_becomes {needed : Bool} (h : List.Forall₂ (tx.Becomes needed) requirements entries)
    (ha : a ∈ tx.authEntries) (hsigned : a.signature.isSome = true) :
    a ∈ entries ↔ ∃ e ∈ requirements, tx.StandsFor needed e a := by
  induction h with
  | nil => simp
  | cons hx _ ih =>
      rw [List.mem_cons, List.exists_mem_cons_iff, ih, ← hx.eq_iff ha hsigned]
      exact or_congr_left eq_comm

/-- When nothing needs a signature, signed entries are looked up for every requirement. -/
theorem becomes_of_nothing_needed (h : requirements.any tx.needsSignature = false) :
    List.Forall₂ (tx.Becomes false) requirements
      (requirements.map fun e => (tx.signedEntry? e).getD e) := by
  rw [List.forall₂_map_right_iff, List.forall₂_same]
  intro e he
  cases hfound : tx.signedEntry? e with
  | some prior => exact .carried nofun hfound
  | none =>
      have hneeds := List.any_eq_false.1 h e he
      have hresolved : e.isResolved = true := by
        simpa [needsSignature, hfound] using hneeds
      exact .kept hresolved (.inr hfound)

end Transaction

namespace Authorization

variable {ω : Type} {signer : Signer ω} {tx out : Transaction} {a : AuthEntry}

/-- Resolving requirements one after another makes of each what it becomes, whatever the signer does. -/
theorem resolveEntries_becomes {passphrase : String} {limit : Int} {made : Made}
    {requirements entries : List AuthEntry} {s s' : Session ω}
    (h : (resolveEntries tx signer passphrase limit made requirements).outcome s = (.ok entries, s')) :
    List.Forall₂ (tx.Becomes true) requirements entries := by
  induction requirements generalizing made entries s with
  | nil =>
      cases h
      exact .nil
  | cons e rest ih =>
      obtain ⟨a, made', s₁, more, hstep, hrest, rfl⟩ := resolveEntries_cons_eq_ok h
      refine .cons ?_ (ih hrest)
      cases hstep with
      | kept hresolved => exact .kept hresolved (.inl rfl)
      | prior hopen hprior => exact .carried (fun _ => hopen) hprior
      | signed hopen hnone => exact .signed rfl hopen hnone

/-- Resolving requirements puts on the transaction what they become. -/
theorem resolve_becomes {requirements : Option (List AuthEntry)} {policy : ExpirationPolicy}
    {passphrase : String} {ledger : Stage ω Value} {known : Option Int} {s s' : Session ω}
    (h : (resolve tx requirements signer policy passphrase ledger known).outcome s = (.ok out, s')) :
    ∃ entries, tx.withAuth entries = .ok out ∧
      List.Forall₂ (tx.Becomes ((requirements.getD tx.authEntries).any tx.needsSignature))
        (requirements.getD tx.authEntries) entries := by
  obtain ⟨entries, hwith, hresolved⟩ := resolve_eq_ok h
  refine ⟨entries, hwith, ?_⟩
  rcases hresolved with ⟨hnone, rfl⟩ | ⟨hneeded, first, limit, s₁, line, -, hentries⟩
  · rw [hnone]
    exact Transaction.becomes_of_nothing_needed hnone
  · rw [hneeded]
    exact resolveEntries_becomes hentries

/-- **Which signed entries a resolution keeps.** -/
theorem mem_authEntries_resolve_iff {requirements : Option (List AuthEntry)}
    {policy : ExpirationPolicy} {passphrase : String} {ledger : Stage ω Value} {known : Option Int}
    {s s' : Session ω}
    (h : (resolve tx requirements signer policy passphrase ledger known).outcome s = (.ok out, s'))
    (ha : a ∈ tx.authEntries) (hsigned : a.signature.isSome = true) :
    a ∈ out.authEntries ↔ tx.CarriesOver (requirements.getD tx.authEntries) out a := by
  obtain ⟨entries, hwith, hbecomes⟩ := resolve_becomes h
  have hmem := Transaction.mem_iff_of_becomes hbecomes ha hsigned
  rcases Transaction.withAuth_eq_ok_cases hwith with hout | ⟨rfl, -⟩
  · have hin : a ∈ out.authEntries ↔ a ∈ tx.laterAuth ∨ ∃ e ∈ requirements.getD tx.authEntries,
        tx.StandsFor ((requirements.getD tx.authEntries).any tx.needsSignature) e a := by
      rw [hout, List.mem_append, hmem, or_comm]
    exact ⟨fun h => .inr (hin.1 h), fun h => h.elim (fun heq => heq ▸ ha) hin.2⟩
  · exact iff_of_true ha (.inl rfl)

end Authorization
end LedgerFlow
