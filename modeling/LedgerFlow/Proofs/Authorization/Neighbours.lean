import LedgerFlow.Proofs.Authorization.Alone
import LedgerFlow.Proofs.Authorization.Identity

/-!
# Where the neighbours of a requirement matter

By the rules of the resolution an entry that is signed on the transaction already is kept for its
requirement, and a requirement that needs nothing passes through as it is (`Transaction.settledAlone`).
Every requirement is put on the transaction by these rules alone, whatever stands beside it, except where
the two rules compete: for a requirement that is resolved itself while the transaction has a different
signed entry for it (`Transaction.Disputed`).  There the entry of the transaction is put as long as nothing
needs a signature, and the requirement as soon as any other requirement does (`resolve_puts`).
-/

namespace LedgerFlow

namespace Transaction

variable {tx : Transaction} {answer : Bytes → String → Except Fault Value} {passphrase : String}
  {limit : Int} {e : AuthEntry}

/-- What a requirement becomes by the rules, on its own: the entry that is signed on the transaction
already, else itself if it needs nothing, else itself with a signature. -/
def settledAlone (tx : Transaction) (answer : Bytes → String → Except Fault Value)
    (passphrase : String) (limit : Int) (e : AuthEntry) : Except Fault AuthEntry :=
  match tx.signedEntry? e with
  | some prior => .ok prior
  | none => if e.isResolved then .ok e else Authorization.signedAlone answer passphrase limit e

/-- A requirement that is resolved itself, while a different entry for it is signed on the transaction. -/
def Disputed (tx : Transaction) (e : AuthEntry) : Prop :=
  e.isResolved = true ∧ ∃ prior, tx.signedEntry? e = some prior ∧ prior ≠ e

/-- What is put on a transaction for a requirement, where `needed` says whether any requirement of the
list needs a signature. -/
inductive Puts (tx : Transaction) (answer : Bytes → String → Except Fault Value) (passphrase : String)
    (limit : Int) (needed : Bool) : AuthEntry → AuthEntry → Prop where
  | settled {e a : AuthEntry} (h : needed = true → ¬tx.Disputed e)
      (ha : tx.settledAlone answer passphrase limit e = .ok a) :
      Puts tx answer passphrase limit needed e a
  | disputed {e : AuthEntry} (hneeded : needed = true) (h : tx.Disputed e) :
      Puts tx answer passphrase limit needed e e

/-- The rules leave a resolved requirement as it is unless it is disputed. -/
theorem disputed_iff (hresolved : e.isResolved = true) :
    tx.Disputed e ↔ tx.settledAlone answer passphrase limit e ≠ .ok e := by
  rw [Disputed, and_iff_right hresolved, settledAlone]
  cases tx.signedEntry? e with
  | none => simp [hresolved]
  | some prior => simp

/-- When something needs a signature, what is not disputed becomes what the rules say. -/
theorem resolvedAlone_eq_settledAlone (h : ¬tx.Disputed e) :
    tx.resolvedAlone answer passphrase limit e = tx.settledAlone answer passphrase limit e := by
  cases hresolved : e.isResolved with
  | true =>
      rw [resolvedAlone_of_isResolved hresolved]
      exact (not_not.1 (mt (disputed_iff hresolved).2 h)).symm
  | false =>
      rw [resolvedAlone, settledAlone, hresolved]
      rfl

/-- When nothing needs a signature, everything becomes what the rules say. -/
theorem settledAlone_of_not_needed (h : tx.needsSignature e = false) :
    tx.settledAlone answer passphrase limit e = .ok ((tx.signedEntry? e).getD e) := by
  rw [settledAlone]
  cases hprior : tx.signedEntry? e with
  | some prior => rfl
  | none =>
      have hresolved : e.isResolved = true := by
        simpa [needsSignature, hprior] using h
      rw [hresolved]
      rfl

end Transaction

namespace Authorization

variable {ω : Type} {signer : Signer ω} {answer : Bytes → String → Except Fault Value}

/-- **What is put for a requirement.**  A resolution that succeeds puts for each requirement what the rules
make of it on its own, with one expiration for all; only a disputed requirement stands for itself once any
requirement of the list needs a signature, and that is never what the rules make of it. -/
theorem resolve_puts (hsigner : signer.Answers answer) {tx out : Transaction}
    {requirements : Option (List AuthEntry)} {policy : ExpirationPolicy} {passphrase : String}
    {ledger : Stage ω Value} {known : Option Int} {s s' : Session ω}
    (h : (resolve tx requirements signer policy passphrase ledger known).outcome s = (.ok out, s')) :
    ∃ limit entries, tx.withAuth entries = .ok out ∧
      ((requirements.getD tx.authEntries).any tx.needsSignature = true → ∃ first s₁,
        (expiration policy ledger known first).outcome s = (.ok limit, s₁)) ∧
      List.Forall₂ (tx.Puts answer passphrase limit
        ((requirements.getD tx.authEntries).any tx.needsSignature))
        (requirements.getD tx.authEntries) entries ∧
      ∀ e, e.isResolved = true →
        (tx.Disputed e ↔ tx.settledAlone answer passphrase limit e ≠ .ok e) := by
  obtain ⟨entries, hwith, hresolved⟩ := resolve_eq_ok h
  rcases hresolved with ⟨hnone, rfl⟩ | ⟨hneeded, first, limit, s₁, line, hlimit, hentries⟩
  · -- Nothing is signed, so any number will do for the expiration.
    refine ⟨0, _, hwith, fun hneeded => ?_, ?_, fun e => Transaction.disputed_iff⟩
    · rw [hnone] at hneeded
      cases hneeded
    · rw [hnone, List.forall₂_map_right_iff, List.forall₂_same]
      intro e he
      have hneeds : tx.needsSignature e = false := by
        simpa using List.any_eq_false.1 hnone e he
      exact .settled nofun (Transaction.settledAlone_of_not_needed hneeds)
  · refine ⟨limit, entries, hwith, fun _ => ⟨first, s₁, hlimit⟩, ?_, fun e => Transaction.disputed_iff⟩
    have hresult := (outcome_resolveEntries hsigner tx passphrase limit faithful_nil
      (requirements.getD tx.authEntries) { s₁ with log := s₁.log ++ [line] }).1
    rw [hentries] at hresult
    rw [hneeded]
    refine (forall₂_of_mapM_eq_ok hresult.symm).imp fun e a ha => ?_
    by_cases hdisputed : tx.Disputed e
    · rw [Transaction.resolvedAlone_of_isResolved hdisputed.1] at ha
      obtain rfl := Except.ok.inj ha
      exact .disputed rfl hdisputed
    · rw [Transaction.resolvedAlone_eq_settledAlone hdisputed] at ha
      exact .settled (fun _ => hdisputed) ha

/-- The account whose key is 32 times the byte one. -/
def someAccount : String := "GAAQCAIBAEAQCAIBAEAQCAIBAEAQCAIBAEAQCAIBAEAQCAIBAEAQDZ7H"

/-- An entry of an account, signed up to ledger 500. -/
def firstSigned : AuthEntry :=
  { invocation := .mk "C" "f" [] [], address := .text someAccount, nonce := 1, expiration := 500
    signature := some ⟨[1], [2]⟩ }

/-- The same requirement, signed up to ledger 600. -/
def laterSigned : AuthEntry := { firstSigned with expiration := 600, signature := some ⟨[1], [3]⟩ }

/-- Another requirement of that account. -/
def otherUnsigned : AuthEntry := { firstSigned with nonce := 2, expiration := 0, signature := none }

/-- A call with given entries. -/
def callCarrying (entries : List AuthEntry) : Transaction :=
  { sourceAccount := "G", seqNum := 1
    operations := [{ body := .invokeContract (.text "C") (.text "f") (.list []) entries }] }

/-- A signer that repeats the payload. -/
def repeating : Signer Unit := fun payload _ => pure (.bytes payload)

/-- How requirements of a call that carries the first signed entry are resolved up to ledger 700. -/
def resolvedUpTo700 (requirements : List AuthEntry) : Except Fault Transaction × Session Unit :=
  (resolve (callCarrying [firstSigned]) (some requirements) repeating { target := some 700 } "test"
    (pure .null) none).outcome ⟨(), []⟩

/-- The signed entry stands for another requirement, which has another nonce. -/
theorem needsSignature_otherUnsigned :
    (callCarrying [firstSigned]).needsSignature otherUnsigned = true := by
  have hsize : firstSigned.identity.length < 2 ^ 64 := by
    rw [AuthEntry.identity, Cbor.length_encode]
    decide
  have hnone : Transaction.signedEntry? (callCarrying [firstSigned]) otherUnsigned = none := by
    refine Transaction.signedEntry?_eq_none fun a ha _ hidentity => ?_
    obtain rfl : a = firstSigned := List.mem_singleton.1 ha
    obtain ⟨hnonce, -⟩ := (AuthEntry.identity_eq_iff hsize).1 hidentity
    exact absurd hnonce (by decide)
  rw [Transaction.needsSignature, hnone]
  rfl

/-- The other requirement is signed without a fault. -/
theorem exists_signedAlone : ∃ sig, (callCarrying [firstSigned]).resolvedAlone
    (fun payload _ => .ok (.bytes payload)) "test" 700 otherUnsigned =
      .ok { otherUnsigned with expiration := 700, signature := some sig } := by
  have hlength : (publicKey someAccount).toOption.map List.length = some 32 := by decide +kernel
  obtain ⟨key, hkey, -⟩ := exists_of_toOption_map hlength
  have hsig : signatureAlone (fun payload _ => .ok (.bytes payload)) (otherUnsigned.payload "test" 700)
      someAccount = .ok ⟨key, otherUnsigned.payload "test" 700⟩ := by
    rw [signatureAlone, hkey]
    rfl
  refine ⟨⟨key, otherUnsigned.payload "test" 700⟩, ?_⟩
  rw [Transaction.resolvedAlone_of_needsSignature needsSignature_otherUnsigned, signedAlone_of_text rfl,
    hsig]
  rfl

/-- Beside a requirement that is signed now, the later signed entry is put. -/
theorem exists_resolvedUpTo700 : ∃ sig, (resolvedUpTo700 [laterSigned, otherUnsigned]).1 =
    .ok (callCarrying
      [laterSigned, { otherUnsigned with expiration := 700, signature := some sig }]) := by
  have hfilter : [laterSigned, otherUnsigned].filter (callCarrying [firstSigned]).needsSignature =
      [otherUnsigned] := by
    rw [List.filter_cons_of_neg (by exact Bool.false_ne_true),
      List.filter_cons_of_pos needsSignature_otherUnsigned, List.filter_nil]
  have hsigner : repeating.Answers fun payload _ => .ok (.bytes payload) := fun _ _ _ => rfl
  obtain ⟨sig, hsig⟩ := exists_signedAlone
  refine ⟨sig, (result_resolve_of_limit hsigner hfilter rfl rfl).trans ?_⟩
  rw [Option.getD_some, List.mapM_cons, List.mapM_cons, Transaction.resolvedAlone_of_isResolved rfl, hsig]
  rfl

/-- The run in which a disputed requirement stands beside one that is signed now. -/
theorem resolve_puts_beside :
    let tx := callCarrying [firstSigned]
    let required := [laterSigned, otherUnsigned]
    ∃ out s', resolvedUpTo700 required = (.ok out, s') ∧
      ∃ limit entries, tx.withAuth entries = .ok out ∧
        (required.any tx.needsSignature = true → ∃ first s₁,
          (expiration { target := some 700 } (pure .null) none first).outcome ⟨(), []⟩ =
            (.ok limit, s₁)) ∧
        List.Forall₂ (tx.Puts (fun payload _ => .ok (.bytes payload)) "test" limit
          (required.any tx.needsSignature)) required entries ∧
        ∀ e, e.isResolved = true → (tx.Disputed e ↔
          tx.settledAlone (fun payload _ => .ok (.bytes payload)) "test" limit e ≠ .ok e) := by
  intro tx required
  obtain ⟨sig, hrun⟩ := exists_resolvedUpTo700
  exact ⟨_, _, Prod.ext hrun rfl, resolve_puts (fun _ _ _ => rfl) (Prod.ext hrun rfl)⟩

/-- For the same requirement the entry of the transaction is put when it stands alone, and the requirement
when another one beside it is signed. -/
theorem disputed_beside :
    Transaction.signedEntry? (callCarrying [firstSigned]) laterSigned = some firstSigned ∧
      (resolvedUpTo700 [laterSigned]).1 = .ok (callCarrying [firstSigned]) ∧
      (∃ sig, (resolvedUpTo700 [laterSigned, otherUnsigned]).1 = .ok (callCarrying
        [laterSigned, { otherUnsigned with expiration := 700, signature := some sig }])) ∧
      firstSigned ≠ laterSigned := by
  have hsame : (firstSigned.identity == laterSigned.identity) = true := beq_iff_eq.2 rfl
  have hfound : Transaction.signedEntry? (callCarrying [firstSigned]) laterSigned = some firstSigned :=
    List.find?_cons_of_pos hsame
  have hwith : (callCarrying [firstSigned]).withAuth [firstSigned] = .ok (callCarrying [firstSigned]) :=
    Transaction.withAuth_of_sameAll rfl (by decide)
  have halone : (resolvedUpTo700 [laterSigned]).1 = .ok (callCarrying [firstSigned]) := by
    have hfilter : [laterSigned].filter (callCarrying [firstSigned]).needsSignature = [] := rfl
    rw [resolvedUpTo700, outcome_resolve_of_nothing_needed hfilter, Option.getD_some, List.map_cons,
      hfound]
    exact hwith
  refine ⟨hfound, halone, exists_resolvedUpTo700, fun hsame => ?_⟩
  cases congrArg AuthEntry.expiration hsame

end Authorization
end LedgerFlow
