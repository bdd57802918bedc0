import LedgerFlow.Authorization
import LedgerFlow.Proofs.Session
import LedgerFlow.Proofs.Transaction.Calls
import LedgerFlow.Proofs.Value.Equality

/-!
# How requirements are resolved

`ResolvedAs` lists the three ways in which a requirement becomes an entry: it needed nothing, a signed
entry for it was on the transaction already, or it was signed now.  `Advances` is one step of resolving a
list, and everything about whole lists follows from it by induction (`resolveEntries_cons_eq_ok`).  Each
requirement of a list is resolved in one of the three ways (`resolveEntries_forall₂`); signatures made
earlier in the same list are reused only for the same address and the same payload, which is the
invariant `Genuine` of the signatures at hand.

`resolve_eq_ok` says what a successful resolution consists of, and `withAuth_eq_ok` which entries the
transaction has afterwards.
-/

namespace LedgerFlow

/-- What a signer answers depends on the payload and the address alone. -/
def Signer.Answers {ω : Type} (signer : Signer ω) (answer : Bytes → String → Except Fault Value) :
    Prop :=
  ∀ payload address s, ((signer payload address).outcome s).1 = answer payload address

/-- A policy that passes its checks is made of what it was given. -/
theorem ExpirationPolicy.make_eq_ok {horizon : Int} {target : Option Int}
    {policy : ExpirationPolicy} (h : make horizon target = .ok policy) :
    policy = { horizon, target } := by
  unfold make at h
  split at h
  · cases h
  · split at h
    · cases h
    · cases h
      rfl

namespace Transaction

/-- A signed entry for a requirement is one of the transaction. -/
theorem mem_of_signedEntry? {tx : Transaction} {e a : AuthEntry} (h : tx.signedEntry? e = some a) :
    a ∈ tx.authEntries ∧ a.signature.isSome = true := by
  have hmem := List.mem_of_find?_eq_some h
  exact List.mem_filter.1 (List.mem_reverse.1 hmem)

end Transaction

namespace Authorization

variable {ω : Type} {signer : Signer ω} {answer : Bytes → String → Except Fault Value}

/-- A signature that the signer gives for a payload on behalf of an address, with the key of that
address. -/
def IsSignature (answer : Bytes → String → Except Fault Value) (payload : Bytes) (address : String)
    (sig : AuthSignature) : Prop :=
  publicKey address = .ok sig.publicKey ∧
    ∃ v, answer payload address = .ok v ∧ v.toBytes = .ok sig.signature

/-- The ways in which a requirement becomes an entry of the transaction.  A signature made now is
valid up to one of the given limits. -/
inductive ResolvedAs (tx : Transaction) (answer : Bytes → String → Except Fault Value)
    (passphrase : String) (isLimit : Int → Prop) : AuthEntry → AuthEntry → Prop where
  | kept {e : AuthEntry} (h : e.isResolved = true) : ResolvedAs tx answer passphrase isLimit e e
  | prior {e prior : AuthEntry} (h : tx.signedEntry? e = some prior) :
      ResolvedAs tx answer passphrase isLimit e prior
  | signed {e : AuthEntry} {address : String} {sig : AuthSignature} {limit : Int}
      (haddress : e.address.toText = .ok address) (hlimit : isLimit limit)
      (hsig : IsSignature answer (e.payload passphrase limit) address sig) :
      ResolvedAs tx answer passphrase isLimit e
        { e with expiration := limit, signature := some sig }

/-- What relatives of the members have in common holds of all that are paired with one. -/
theorem forall_mem_of_forall₂ {α β : Type} {r : α → β → Prop} {q : β → Prop} {xs : List α}
    {ys : List β} (hr : List.Forall₂ r xs ys) (h : ∀ x ∈ xs, ∀ y, r x y → q y) :
    ∀ y ∈ ys, q y := by
  induction hr with
  | nil => exact fun y hy => absurd hy List.not_mem_nil
  | cons hxy _ ih =>
      rw [List.forall_mem_cons]
      exact ⟨h _ List.mem_cons_self _ hxy, ih fun x hx => h x (List.mem_cons_of_mem _ hx)⟩

/-- Every member of a list has a relative among the members of a related one. -/
theorem exists_mem_of_forall₂ {α β : Type} {r : α → β → Prop} {xs : List α} {ys : List β} {x : α}
    (hr : List.Forall₂ r xs ys) (hx : x ∈ xs) : ∃ y ∈ ys, r x y := by
  induction hr with
  | nil => exact absurd hx List.not_mem_nil
  | cons hxy _ ih =>
      rcases List.mem_cons.1 hx with rfl | hx
      · exact ⟨_, List.mem_cons_self, hxy⟩
      · obtain ⟨y, hy, hxy⟩ := ih hx
        exact ⟨y, List.mem_cons_of_mem _ hy, hxy⟩

/-! ## Signatures at hand -/

/-- Every signature at hand is one for the address and the payload that it is filed under. -/
def Genuine (answer : Bytes → String → Except Fault Value) (made : Made) : Prop :=
  ∀ address payload sig, ((address, payload), sig) ∈ made → IsSignature answer payload address sig

theorem genuine_nil : Genuine answer [] := by
  intro address payload sig h
  exact absurd h List.not_mem_nil

/-- An answer of the signer is passed on as it is. -/
theorem askSigner_eq_ok (hsigner : signer.Answers answer) {payload : Bytes} {address : String}
    {s s' : Session ω} {v : Value}
    (h : (askSigner signer payload address).outcome s = (.ok v, s')) :
    answer payload address = .ok v := by
  obtain ⟨r, s₁, hr, h⟩ := Stage.outcome_bind_eq_ok.1 h
  rw [Stage.outcome_attempt] at hr
  obtain ⟨hr, -⟩ := Prod.mk.inj hr
  rw [hsigner payload address s] at hr
  rw [Except.ok.inj hr]
  -- Every fault of the signer ends the stage, so only an answer is left.
  cases r with
  | ok w =>
      obtain ⟨hw, -⟩ := Prod.mk.inj h
      exact hw
  | error fault =>
      cases fault with
      | pipeline e =>
          cases e with
          | _ =>
              obtain ⟨_, _, _, hfail⟩ := Stage.outcome_bind_eq_ok.1 h
              cases (Prod.mk.inj hfail).1
      | _ =>
          obtain ⟨_, _, _, hfail⟩ := Stage.outcome_bind_eq_ok.1 h
          cases (Prod.mk.inj hfail).1

/-- A signature is at hand, or it is made from an answer of the signer and joins those at hand. -/
theorem signatureFor_cases {made made' : Made} {payload : Bytes} {address : String}
    {sig : AuthSignature} {s s' : Session ω}
    (h : (signatureFor signer made payload address).outcome s = (.ok (sig, made'), s')) :
    made.lookup (address, payload) = some sig ∧ made' = made ∨
      made.lookup (address, payload) = none ∧ made' = made ++ [((address, payload), sig)] ∧
        publicKey address = .ok sig.publicKey ∧ ∃ v s₁,
          (askSigner signer payload address).outcome s = (.ok v, s₁) ∧ v.toBytes = .ok sig.signature := by
  unfold signatureFor at h
  cases hlookup : made.lookup (address, payload) with
  | some found =>
      rw [hlookup] at h
      cases h
      exact .inl ⟨rfl, rfl⟩
  | none =>
      rw [hlookup] at h
      obtain ⟨v, s₁, hv, hkeyed⟩ := Stage.outcome_bind_eq_ok.1 h
      obtain ⟨key, s₂, hkey, hread⟩ := Stage.outcome_bind_eq_ok.1 hkeyed
      obtain ⟨bytes, s₃, hbytes, hout⟩ := Stage.outcome_bind_eq_ok.1 hread
      rw [Stage.outcome_ofExcept] at hkey hbytes
      cases hout
      exact .inr ⟨rfl, rfl, (Prod.mk.inj hkey).1, v, s₁, hv, eq_ok_of_mapError (Prod.mk.inj hbytes).1⟩

/-- The signatures at hand stay genuine. -/
theorem signatureFor_eq_ok (hsigner : signer.Answers answer) {made made' : Made} {payload : Bytes}
    {address : String} {sig : AuthSignature} {s s' : Session ω} (hmade : Genuine answer made)
    (h : (signatureFor signer made payload address).outcome s = (.ok (sig, made'), s')) :
    IsSignature answer payload address sig ∧ Genuine answer made' := by
  rcases signatureFor_cases h with ⟨hlookup, rfl⟩ | ⟨-, rfl, hkey, v, s₁, hv, hbytes⟩
  · obtain ⟨front, back, hsplit, -⟩ := List.lookup_eq_some_iff.1 hlookup
    have hmem : ((address, payload), sig) ∈ made' := by
      rw [hsplit]
      exact List.mem_append_right _ List.mem_cons_self
    exact ⟨hmade address payload sig hmem, hmade⟩
  · have hnew : IsSignature answer payload address sig :=
      ⟨hkey, v, askSigner_eq_ok hsigner hv, hbytes⟩
    refine ⟨hnew, ?_⟩
    intro address' payload' sig' hmem
    rcases List.mem_append.1 hmem with hold | hlast
    · exact hmade address' payload' sig' hold
    · cases List.mem_singleton.1 hlast
      exact hnew

/-! ## Lists of requirements -/

/-- What resolving a requirement of a list makes of it, of the signatures at hand and of the session. -/
inductive Advances (tx : Transaction) (signer : Signer ω) (passphrase : String) (limit : Int) (made : Made)
    (s : Session ω) : AuthEntry → AuthEntry → Made → Session ω → Prop where
  | kept {e : AuthEntry} (hresolved : e.isResolved = true) :
      Advances tx signer passphrase limit made s e e made s
  | prior {e prior : AuthEntry} (hopen : e.isResolved = false)
      (hprior : tx.signedEntry? e = some prior) :
      Advances tx signer passphrase limit made s e prior made s
  | signed {e : AuthEntry} {address : String} {sig : AuthSignature} {made' : Made} {s' : Session ω}
      (hopen : e.isResolved = false) (hnone : tx.signedEntry? e = none)
      (haddress : e.address.toText = .ok address)
      (hsig : (signatureFor signer made (e.payload passphrase limit) address).outcome s =
        (.ok (sig, made'), s')) :
      Advances tx signer passphrase limit made s e
        { e with expiration := limit, signature := some sig } made' s'

/-- The first requirement of a list is resolved, and then the others with the signatures at hand. -/
theorem resolveEntries_cons_eq_ok {tx : Transaction} {passphrase : String} {limit : Int} {made : Made}
    {e : AuthEntry} {rest out : List AuthEntry} {s s' : Session ω}
    (h : (resolveEntries tx signer passphrase limit made (e :: rest)).outcome s = (.ok out, s')) :
    ∃ a made' s₁ more, Advances tx signer passphrase limit made s e a made' s₁ ∧
      (resolveEntries tx signer passphrase limit made' rest).outcome s₁ = (.ok more, s') ∧
      out = a :: more := by
  unfold resolveEntries at h
  cases hresolved : e.isResolved with
  | true =>
      rw [hresolved] at h
      obtain ⟨more, s₁, hrest, h⟩ := Stage.outcome_bind_eq_ok.1 h
      cases h
      exact ⟨e, made, s, more, .kept hresolved, hrest, rfl⟩
  | false =>
      rw [hresolved] at h
      cases hprior : tx.signedEntry? e with
      | some prior =>
          rw [hprior] at h
          obtain ⟨more, s₁, hrest, h⟩ := Stage.outcome_bind_eq_ok.1 h
          cases h
          exact ⟨prior, made, s, more, .prior hresolved hprior, hrest, rfl⟩
      | none =>
          rw [hprior] at h
          obtain ⟨address, s₁, haddress, hsigned⟩ := Stage.outcome_bind_eq_ok.1 h
          obtain ⟨⟨sig, made'⟩, s₂, hsig, hmore⟩ := Stage.outcome_bind_eq_ok.1 hsigned
          obtain ⟨more, s₃, hrest, hout⟩ := Stage.outcome_bind_eq_ok.1 hmore
          rw [Stage.outcome_ofExcept] at haddress
          obtain ⟨htext, rfl⟩ := Prod.mk.inj haddress
          cases hout
          exact ⟨_, made', s₂, more, .signed hresolved hprior (eq_ok_of_mapError htext) hsig, hrest, rfl⟩

/-- Each requirement is resolved in one of the three ways, whatever stands beside it. -/
theorem resolveEntries_forall₂ (hsigner : signer.Answers answer) {tx : Transaction}
    {passphrase : String} {isLimit : Int → Prop} {limit : Int} (hlimit : isLimit limit)
    {made : Made} {entries out : List AuthEntry} {s s' : Session ω} (hmade : Genuine answer made)
    (h : (resolveEntries tx signer passphrase limit made entries).outcome s = (.ok out, s')) :
    List.Forall₂ (ResolvedAs tx answer passphrase isLimit) entries out := by
  -- Later requirements find the signatures that earlier ones made, so these vary in the induction.
  induction entries generalizing made out s with
  | nil =>
      cases h
      exact .nil
  | cons e rest ih =>
      obtain ⟨a, made', s₁, more, hstep, hrest, rfl⟩ := resolveEntries_cons_eq_ok h
      cases hstep with
      | kept hresolved => exact .cons (.kept hresolved) (ih hmade hrest)
      | prior hopen hprior => exact .cons (.prior hprior) (ih hmade hrest)
      | signed hopen hnone haddress hsig =>
          obtain ⟨hnew, hmade'⟩ := signatureFor_eq_ok hsigner hmade hsig
          exact .cons (.signed haddress hlimit hnew) (ih hmade' hrest)

/-- When nothing needs a signature, every requirement is kept or resolved by an entry that is on the
transaction. -/
theorem forall₂_of_nothing_needed {tx : Transaction} {passphrase : String} (isLimit : Int → Prop)
    {entries : List AuthEntry} (h : entries.any tx.needsSignature = false) :
    List.Forall₂ (ResolvedAs tx answer passphrase isLimit) entries
      (entries.map fun e => (tx.signedEntry? e).getD e) := by
  rw [List.forall₂_map_right_iff, List.forall₂_same]
  intro e he
  have hneeds : tx.needsSignature e = false := by
    have := List.any_eq_false.1 h e he
    simpa using this
  cases hprior : tx.signedEntry? e with
  | some prior => exact .prior hprior
  | none =>
      have hresolved : e.isResolved = true := by
        simpa [Transaction.needsSignature, hprior] using hneeds
      exact .kept hresolved

/-- A successful resolution puts entries on the transaction.  Either nothing needed a signature, or
the expiration was determined first and the requirements were resolved with it. -/
theorem resolve_eq_ok {tx out : Transaction} {requirements : Option (List AuthEntry)}
    {policy : ExpirationPolicy} {passphrase : String} {ledger : Stage ω Value} {known : Option Int}
    {s s' : Session ω}
    (h : (resolve tx requirements signer policy passphrase ledger known).outcome s =
      (.ok out, s')) :
    ∃ entries, tx.withAuth entries = .ok out ∧
      ((requirements.getD tx.authEntries).any tx.needsSignature = false ∧
          entries = (requirements.getD tx.authEntries).map (fun e => (tx.signedEntry? e).getD e) ∨
        (requirements.getD tx.authEntries).any tx.needsSignature = true ∧ ∃ first limit s₁ line,
          (expiration policy ledger known first).outcome s = (.ok limit, s₁) ∧
          (resolveEntries tx signer passphrase limit [] (requirements.getD tx.authEntries)).outcome
            { s₁ with log := s₁.log ++ [line] } = (.ok entries, s')) := by
  unfold resolve at h
  dsimp only at h
  cases hneeded : (requirements.getD tx.authEntries).filter tx.needsSignature with
  | nil =>
      rw [hneeded] at h
      dsimp only at h
      rw [Stage.outcome_ofExcept] at h
      exact ⟨_, (Prod.mk.inj h).1, .inl ⟨List.any_eq_false.2 (List.filter_eq_nil_iff.1 hneeded), rfl⟩⟩
  | cons first more =>
      rw [hneeded] at h
      obtain ⟨address, s₀, haddress, hrest⟩ := Stage.outcome_bind_eq_ok.1 h
      obtain ⟨limit, s₁, hlimit, hresolve⟩ := Stage.outcome_bind_eq_ok.1 hrest
      obtain ⟨_, s₂, hline, hattach⟩ := Stage.outcome_bind_eq_ok.1 hresolve
      obtain ⟨entries, s₃, hentries, hout⟩ := Stage.outcome_bind_eq_ok.1 hattach
      rw [Stage.outcome_ofExcept] at haddress hout
      obtain ⟨-, rfl⟩ := Prod.mk.inj haddress
      obtain ⟨hwith, rfl⟩ := Prod.mk.inj hout
      obtain ⟨-, rfl⟩ := Prod.mk.inj hline
      have hfirst : first ∈ (requirements.getD tx.authEntries).filter tx.needsSignature := by
        rw [hneeded]
        exact List.mem_cons_self
      exact ⟨entries, hwith, .inr ⟨List.any_eq_true.2 ⟨first, List.mem_filter.1 hfirst⟩, address, limit,
        s₁, _, hlimit, hentries⟩⟩

/-- The expiration is the target, or the answer of the ledger and the horizon. -/
theorem expiration_eq_ok {policy : ExpirationPolicy} {ledger : Stage ω Value} {known : Option Int}
    {first : String} {s s' : Session ω} {limit : Int}
    (h : (expiration policy ledger known first).outcome s = (.ok limit, s')) :
    policy.target = some limit ∨ policy.target = none ∧
      ∃ v current, ledger.outcome s = (.ok v, s') ∧ v.toInt = .ok current ∧
        limit = current + policy.horizon := by
  unfold expiration at h
  cases htarget : policy.target with
  | some target =>
      rw [htarget] at h
      cases known with
      | some known =>
          dsimp only at h
          split at h
          · cases (Prod.mk.inj h).1
          · cases h
            exact .inl rfl
      | none =>
          cases h
          exact .inl rfl
  | none =>
      rw [htarget] at h
      obtain ⟨v, s₁, hv, h⟩ := Stage.outcome_bind_eq_ok.1 h
      obtain ⟨current, s₂, hcurrent, h⟩ := Stage.outcome_bind_eq_ok.1 h
      rw [Stage.outcome_ofExcept] at hcurrent
      obtain ⟨hvalue, rfl⟩ := Prod.mk.inj hcurrent
      cases h
      exact .inr ⟨rfl, v, current, hv, eq_ok_of_mapError hvalue, rfl⟩

end Authorization

/-! ## Entries on the contract call -/

namespace Transaction

variable {tx out : Transaction} {entries : List AuthEntry}

/-- The entries of the contract calls after the first one. -/
def laterAuth (tx : Transaction) : List AuthEntry :=
  ((tx.operations.dropWhile fun op => !op.body.isInvocation).drop 1).flatMap fun op => op.body.auth

theorem flatMap_auth_split (ops : List Operation) :
    ops.flatMap (fun op => op.body.auth) =
      ((ops.find? fun op => op.body.isInvocation).map fun op => op.body.auth).getD [] ++
        ((ops.dropWhile fun op => !op.body.isInvocation).drop 1).flatMap fun op => op.body.auth := by
  induction ops with
  | nil => rfl
  | cons op rest ih =>
      cases hop : op.body.isInvocation with
      | true => simp [hop]
      | false => simp [hop, Body.auth_of_not_isInvocation hop, ih]

theorem authEntries_split (tx : Transaction) :
    tx.authEntries = tx.firstAuth?.getD [] ++ tx.laterAuth := flatMap_auth_split tx.operations

theorem authEntries_eq_firstAuth? (hone : AtMostOneCall tx.operations) :
    tx.authEntries = tx.firstAuth?.getD [] :=
  flatMap_auth_eq hone

theorem laterAuth_eq_nil (hone : AtMostOneCall tx.operations) : tx.laterAuth = [] := by
  have hsplit := tx.authEntries_split
  rw [authEntries_eq_firstAuth? hone] at hsplit
  exact List.append_right_eq_self.1 hsplit.symm

/-- The first contract call takes the entries, and nothing after it changes. -/
theorem exists_replaceAuth? (entries : List AuthEntry) {ops : List Operation}
    (hcall : (ops.find? fun op => op.body.isInvocation).isSome = true) :
    ∃ replaced, replaceAuth? entries ops = some replaced ∧
      ((replaced.find? fun op => op.body.isInvocation).map fun op => op.body.auth) = some entries ∧
      (replaced.dropWhile fun op => !op.body.isInvocation).drop 1 =
        (ops.dropWhile fun op => !op.body.isInvocation).drop 1 := by
  induction ops with
  | nil => cases hcall
  | cons op rest ih =>
      cases hop : op.body.isInvocation with
      | true =>
          have hcalls : (op.body.withAuth entries).isInvocation = true := Body.isInvocation_withAuth hop
          refine ⟨_, by rw [replaceAuth?, if_pos hop], ?_, ?_⟩
          · simp [hcalls, Body.auth_withAuth hop]
          · simp [hcalls, hop]
      | false =>
          have hcall' : (rest.find? fun op => op.body.isInvocation).isSome = true := by
            simpa [hop] using hcall
          obtain ⟨replaced, hreplaced, hfirst, hlater⟩ := ih hcall'
          refine ⟨op :: replaced, by simp [replaceAuth?, hop, hreplaced], ?_, ?_⟩
          · simpa [hop] using hfirst
          · simpa [hop] using hlater

/-- A transaction has the given entries on its first contract call afterwards and keeps later ones, or had
equal ones and stayed as it was. -/
theorem firstAuth?_of_withAuth (h : tx.withAuth entries = .ok out) :
    out.firstAuth? = some entries ∧ out.laterAuth = tx.laterAuth ∨
      out = tx ∧ AuthEntry.sameAll (tx.firstAuth?.getD []) entries = true := by
  unfold withAuth at h
  cases hfirst : tx.firstAuth? with
  | none =>
      rw [hfirst] at h
      dsimp only at h
      split at h
      · next hempty =>
          cases h
          rw [List.isEmpty_iff.1 hempty]
          exact .inr ⟨rfl, rfl⟩
      · cases h
  | some present =>
      rw [hfirst] at h
      dsimp only at h
      split at h
      · next hsame =>
          cases h
          exact .inr ⟨rfl, hsame⟩
      · cases h
        -- The entries of the call differ, so there is a call whose entries are replaced.
        have hcall : (tx.operations.find? fun op => op.body.isInvocation).isSome = true := by
          have := congrArg Option.isSome hfirst
          simpa [firstAuth?] using this
        obtain ⟨replaced, hreplaced, hauth, hlater⟩ := exists_replaceAuth? entries hcall
        rw [hreplaced]
        exact .inl ⟨hauth, congrArg (·.flatMap fun op => op.body.auth) hlater⟩

/-- A transaction stays as it is when the entries that it is given are equal to its own. -/
theorem withAuth_of_sameAll {present : List AuthEntry} (hfirst : tx.firstAuth? = some present)
    (h : AuthEntry.sameAll present entries = true) : tx.withAuth entries = .ok tx := by
  rw [withAuth, hfirst]
  exact if_pos h

theorem withAuth_eq_ok_cases (h : tx.withAuth entries = .ok out) :
    out.authEntries = entries ++ tx.laterAuth ∨
      out = tx ∧ AuthEntry.sameAll (tx.firstAuth?.getD []) entries = true := by
  refine (firstAuth?_of_withAuth h).imp_left ?_
  rintro ⟨hfirst, hlater⟩
  rw [authEntries_split, hfirst, hlater, Option.getD_some]

/-- With one contract call at most, the given entries are all entries. -/
theorem withAuth_eq_ok (hone : AtMostOneCall tx.operations) (h : tx.withAuth entries = .ok out) :
    out.authEntries = entries ∨ out = tx ∧ AuthEntry.sameAll tx.authEntries entries = true := by
  rw [authEntries_eq_firstAuth? hone]
  have hcases := withAuth_eq_ok_cases h
  rwa [laterAuth_eq_nil hone, List.append_nil] at hcases

end Transaction
end LedgerFlow
