import LedgerFlow.Proofs.Authorization.OneByOne

/-!
# Where a resolution stops

Once something needs a signature and the expiration is known, a resolution goes through the requirements in
order and stops at the first without a signature (`StopsAt`).  If the signer fails there, that is a refusal
by the address.  But the signer may also answer what is of no use: its address has no key, or the answer
is no bytes.  Then the resolution ends with the fault of the key or of the reading, which names no
address, and callers that handle refusals do not handle it (`unusable_answers`).

`Ending` lists these endings.  The main statement `resolve_ends` is that there are no others, whatever the
signer does and however its answers depend on what it was asked before, and that each ending is all
requirements resolved or a refusal as soon as the answers that the signer gives are of use.
-/

namespace LedgerFlow

/-- Whatever a requirement becomes, it needs no further signature. -/
theorem Transaction.Becomes.isResolved {tx : Transaction} {needed : Bool} {e a : AuthEntry}
    (h : tx.Becomes needed e a) : a.isResolved = true := by
  cases h with
  | carried hopen hfound =>
      rw [AuthEntry.isResolved, (Transaction.mem_of_signedEntry? hfound).2, Bool.or_true]
  | kept hresolved hfound => exact hresolved
  | signed hneeded hopen hnone => exact Bool.or_true _

/-- A transaction with resolved entries on its first contract call has only those there. -/
theorem Transaction.HasAuth.isResolved {tx : Transaction} {entries : List AuthEntry}
    (h : tx.HasAuth entries) (hentries : ∀ a ∈ entries, a.isResolved = true) :
    ∀ a ∈ tx.firstAuth?.getD [], a.isResolved = true := by
  obtain ⟨auth, hauth, hsame⟩ := h
  rw [hauth, Option.getD_some]
  exact Authorization.forall_mem_of_forall₂ (AuthEntry.sameAll_iff.1 hsame).flip fun a ha x hx =>
    (AuthEntry.isResolved_eq_of_same hx).trans (hentries a ha)

namespace Authorization

variable {ω : Type} {signer : Signer ω} {answer : Bytes → String → Except Fault Value}
  {tx : Transaction} {passphrase : String} {limit : Int} {made made' : Made} {e : AuthEntry}
  {requirements : List AuthEntry} {payload : Bytes} {address : String} {s s₁ s' : Session ω}
  {fault : Fault}

/-! ## No signature -/

/-- An address without a key is a malformed strkey. -/
theorem publicKey_eq_error (h : publicKey address = .error fault) : ∃ error, fault = .strkey error := by
  unfold publicKey at h
  split at h
  · obtain ⟨error, -, rfl⟩ := exists_of_mapError_eq_error h
    exact ⟨error, rfl⟩
  · obtain ⟨error, -, rfl⟩ := exists_of_mapError_eq_error h
    exact ⟨error, rfl⟩

/-- There is no signature when the signer fails, the address has no key, or the answer is no bytes. -/
theorem signatureAlone_eq_error (h : signatureAlone answer payload address = .error fault) :
    (∃ failure, answer payload address = .error failure ∧ fault = refusal address failure) ∨
      ∃ v, answer payload address = .ok v ∧
        ((∃ error, publicKey address = .error (.strkey error) ∧ fault = .strkey error) ∨
          ∃ key m, publicKey address = .ok key ∧ v.toBytes = .error m ∧ fault = .malformed m) := by
  rcases error_of_bind_eq_error h with hasked | ⟨v, hv, h⟩
  · obtain ⟨failure, hanswer, rfl⟩ := exists_of_mapError_eq_error hasked
    exact .inl ⟨failure, hanswer, rfl⟩
  · refine .inr ⟨v, eq_ok_of_mapError hv, ?_⟩
    rcases error_of_bind_eq_error h with hkey | ⟨key, hkey, h⟩
    · obtain ⟨error, rfl⟩ := publicKey_eq_error hkey
      exact .inl ⟨error, hkey, rfl⟩
    · rcases error_of_bind_eq_error h with hbytes | ⟨bytes, -, h⟩
      · obtain ⟨m, hm, rfl⟩ := exists_of_mapError_eq_error hbytes
        exact .inr ⟨key, m, hkey, hm, rfl⟩
      · cases h

/-! ## Stopping -/

/-- Where the resolution of a list stops: at a requirement of an address that needs a signature, with those
before it resolved. -/
structure StopsAt (tx : Transaction) (signer : Signer ω) (passphrase : String) (limit : Int) (made : Made)
    (requirements : List AuthEntry) (s : Session ω) (e : AuthEntry) (address : String) (s' : Session ω) :
    Prop where
  before : ∃ front back entries, requirements = front ++ e :: back ∧
    (resolveEntries tx signer passphrase limit made front).outcome s = (.ok entries, s')
  needed : tx.needsSignature e = true
  address_eq : e.address = .text address

section Steps

variable {other : AuthEntry} {elsewhere : String}

theorem StopsAt.mem (h : StopsAt tx signer passphrase limit made requirements s e address s') :
    e ∈ requirements := by
  obtain ⟨front, back, -, rfl, -⟩ := h.before
  exact List.mem_append_right _ List.mem_cons_self

/-- A requirement that needs no signature is passed over. -/
theorem StopsAt.cons_of_not_needed (hneeds : tx.needsSignature e = false)
    (h : StopsAt tx signer passphrase limit made requirements s other elsewhere s') :
    StopsAt tx signer passphrase limit made (e :: requirements) s other elsewhere s' := by
  obtain ⟨⟨front, back, entries, rfl, hfront⟩, hneeded, haddress⟩ := h
  obtain ⟨x, -, hstep⟩ := outcome_resolveEntries_of_not_needed signer hneeds
  refine ⟨⟨e :: front, back, x :: entries, rfl, ?_⟩, hneeded, haddress⟩
  rw [hstep, hfront]
  rfl

/-- A requirement that is signed is passed over, and its signature is at hand for the others. -/
theorem StopsAt.cons_of_signature (hneeds : tx.needsSignature e = true)
    (haddress : e.address.toText = .ok address) {sig : AuthSignature}
    (hsig : (signatureFor signer made (e.payload passphrase limit) address).outcome s =
      (.ok (sig, made'), s₁))
    (h : StopsAt tx signer passphrase limit made' requirements s₁ other elsewhere s') :
    StopsAt tx signer passphrase limit made (e :: requirements) s other elsewhere s' := by
  obtain ⟨⟨front, back, entries, rfl, hfront⟩, hneeded, hother⟩ := h
  have hstep : (resolveEntries tx signer passphrase limit made (e :: front)).outcome s = _ :=
    outcome_resolveEntries_of_signature hneeds haddress hsig
  rw [hfront] at hstep
  exact ⟨⟨e :: front, back, _, rfl, hstep⟩, hneeded, hother⟩

end Steps

/-- A list that is not resolved stops at a requirement for which there is no signature to be had then. -/
theorem resolveEntries_stops
    (htext : ∀ e ∈ requirements, tx.needsSignature e = true → ∃ t, e.address = .text t)
    (h : ((resolveEntries tx signer passphrase limit made requirements).outcome s).1 = .error fault) :
    ∃ e address s', StopsAt tx signer passphrase limit made requirements s e address s' ∧
      signatureAlone (signer.answersIn s') (e.payload passphrase limit) address = .error fault := by
  -- Later requirements find the signatures that earlier ones made, so these vary in the induction.
  induction requirements generalizing made s with
  | nil => cases h
  | cons e rest ih =>
      rw [List.forall_mem_cons] at htext
      obtain ⟨htext, hrest⟩ := htext
      cases hneeds : tx.needsSignature e with
      | false =>
          obtain ⟨x, -, hstep⟩ := outcome_resolveEntries_of_not_needed signer hneeds
          rw [hstep] at h
          obtain ⟨other, elsewhere, s', hstop, hsig⟩ := ih hrest (eq_error_of_map h)
          exact ⟨other, elsewhere, s', hstop.cons_of_not_needed hneeds, hsig⟩
      | true =>
          obtain ⟨address, hvalue⟩ := htext hneeds
          have haddress : e.address.toText = .ok address := by rw [hvalue]; rfl
          cases hlookup : made.lookup (address, e.payload passphrase limit) with
          | some sig =>
              have hsig : (signatureFor signer made (e.payload passphrase limit) address).outcome s = _ :=
                outcome_signatureFor_of_made hlookup s
              rw [outcome_resolveEntries_of_signature hneeds haddress hsig] at h
              obtain ⟨other, elsewhere, s', hstop, hnone⟩ := ih hrest (eq_error_of_map h)
              exact ⟨other, elsewhere, s', hstop.cons_of_signature hneeds haddress hsig, hnone⟩
          | none =>
              obtain ⟨log, hnew⟩ : ∃ log, (signatureFor signer made (e.payload passphrase limit)
                  address).outcome s = _ := outcome_signatureFor_of_new hlookup s
              cases halone : signatureAlone (signer.answersIn s) (e.payload passphrase limit) address with
              | error f =>
                  rw [halone] at hnew
                  rw [outcome_resolveEntries_of_refused hneeds haddress hnew] at h
                  cases h
                  exact ⟨e, address, s, ⟨⟨[], rest, [], rfl, rfl⟩, hneeds, hvalue⟩, halone⟩
              | ok sig =>
                  rw [halone] at hnew
                  rw [outcome_resolveEntries_of_signature hneeds haddress hnew] at h
                  obtain ⟨other, elsewhere, s', hstop, hnone⟩ := ih hrest (eq_error_of_map h)
                  exact ⟨other, elsewhere, s', hstop.cons_of_signature hneeds haddress hnew, hnone⟩

/-! ## Endings -/

/-- How a resolution that signs ends. -/
inductive Ending (tx : Transaction) (signer : Signer ω) (passphrase : String) (limit : Int)
    (requirements : List AuthEntry) (s : Session ω) : Except Fault Transaction → Prop where
  /-- Every requirement is resolved, and all of them are on the transaction. -/
  | authorized {out : Transaction} {entries : List AuthEntry}
      (hentries : List.Forall₂ (tx.Becomes true) requirements entries) (hout : out.HasAuth entries)
      (hresolved : ∀ a ∈ out.firstAuth?.getD [], a.isResolved = true) :
      Ending tx signer passphrase limit requirements s (.ok out)
  /-- The signer fails: the address is named that should have signed. -/
  | refused {e : AuthEntry} {address : String} {s' : Session ω} {fault : Fault}
      (hstop : StopsAt tx signer passphrase limit [] requirements s e address s')
      (hanswer : signer.answersIn s' (e.payload passphrase limit) address = .error fault) :
      Ending tx signer passphrase limit requirements s (.error (refusal address fault))
  /-- The signer answers for an address without a key. -/
  | keyless {e : AuthEntry} {address : String} {s' : Session ω} {v : Value} {error : Strkey.Error}
      (hstop : StopsAt tx signer passphrase limit [] requirements s e address s')
      (hanswer : signer.answersIn s' (e.payload passphrase limit) address = .ok v)
      (hkey : publicKey address = .error (.strkey error)) :
      Ending tx signer passphrase limit requirements s (.error (.strkey error))
  /-- The signer answers what is no bytes. -/
  | unreadable {e : AuthEntry} {address : String} {s' : Session ω} {v : Value} {key : Bytes}
      {m : Malformed} (hstop : StopsAt tx signer passphrase limit [] requirements s e address s')
      (hanswer : signer.answersIn s' (e.payload passphrase limit) address = .ok v)
      (hkey : publicKey address = .ok key) (hbytes : v.toBytes = .error m) :
      Ending tx signer passphrase limit requirements s (.error (.malformed m))

/-- Whether the answers that a signer gives for the open requirements are of use. -/
def AnswersUsably (tx : Transaction) (signer : Signer ω) (passphrase : String) (limit : Int)
    (requirements : List AuthEntry) : Prop :=
  ∀ e ∈ requirements, tx.needsSignature e = true → ∀ address, e.address = .text address →
    ∀ s v, signer.answersIn s (e.payload passphrase limit) address = .ok v →
      (∃ key, publicKey address = .ok key) ∧ ∃ bytes, v.toBytes = .ok bytes

/-- All or nothing: every requirement is resolved on the transaction, or the address of one that needed a
signature refused. -/
inductive AllOrRefused (tx : Transaction) (requirements : List AuthEntry) :
    Except Fault Transaction → Prop where
  | all {out : Transaction} {entries : List AuthEntry}
      (hentries : List.Forall₂ (tx.Becomes true) requirements entries) (hout : out.HasAuth entries)
      (hresolved : ∀ a ∈ out.firstAuth?.getD [], a.isResolved = true) :
      AllOrRefused tx requirements (.ok out)
  | refused {e : AuthEntry} {address reason : String} (hmem : e ∈ requirements)
      (hneeded : tx.needsSignature e = true) (haddress : e.address = .text address) :
      AllOrRefused tx requirements (.error (.pipeline (.authorizationDenied address reason)))

/-- Usable answers leave no ending but these. -/
theorem Ending.allOrRefused {r : Except Fault Transaction}
    (h : Ending tx signer passphrase limit requirements s r)
    (husable : AnswersUsably tx signer passphrase limit requirements) :
    AllOrRefused tx requirements r := by
  cases h with
  | authorized hentries hout hresolved => exact .all hentries hout hresolved
  | refused hstop hanswer => exact .refused hstop.mem hstop.needed hstop.address_eq
  | keyless hstop hanswer hkey =>
      obtain ⟨⟨key, hread⟩, -⟩ := husable _ hstop.mem hstop.needed _ hstop.address_eq _ _ hanswer
      rw [hread] at hkey
      cases hkey
  | unreadable hstop hanswer hkey hbytes =>
      obtain ⟨-, bytes, hread⟩ := husable _ hstop.mem hstop.needed _ hstop.address_eq _ _ hanswer
      rw [hread] at hbytes
      cases hbytes

/-- Putting what the requirements become on the transaction does not fail, so a resolution ends where its
list does. -/
theorem ending_of_resolveEntries (hcall : tx.firstAuth?.isSome = true)
    (htext : ∀ e ∈ requirements, tx.needsSignature e = true → ∃ t, e.address = .text t)
    (s : Session ω) :
    Ending tx signer passphrase limit requirements s
      (((resolveEntries tx signer passphrase limit [] requirements).outcome s).1 >>= tx.withAuth) := by
  rcases hrun : (resolveEntries tx signer passphrase limit [] requirements).outcome s with ⟨r, s'⟩
  cases r with
  | ok entries =>
      have hentries := resolveEntries_becomes hrun
      obtain ⟨out, hwith, hout⟩ := Transaction.exists_withAuth hcall entries
      have hresolved : ∀ a ∈ entries, a.isResolved = true :=
        forall_mem_of_forall₂ hentries fun _ _ _ h => h.isResolved
      show Ending _ _ _ _ _ _ (tx.withAuth entries)
      rw [hwith]
      exact .authorized hentries hout (hout.isResolved hresolved)
  | error fault =>
      obtain ⟨e, address, s', hstop, hnone⟩ := resolveEntries_stops htext (congrArg Prod.fst hrun)
      show Ending _ _ _ _ _ _ (.error fault)
      rcases signatureAlone_eq_error hnone with ⟨failure, hanswer, rfl⟩ | ⟨v, hanswer, hunusable⟩
      · exact .refused hstop hanswer
      · rcases hunusable with ⟨error, hkey, rfl⟩ | ⟨key, m, hkey, hbytes, rfl⟩
        · exact .keyless hstop hanswer hkey
        · exact .unreadable hstop hanswer hkey hbytes

/-- **How a resolution ends once it signs.**  On a transaction with a contract call and with texts for
addresses, whatever the signer does: all requirements are resolved and put on the transaction at once; or the
first requirement without a signature ends the resolution, as a refusal by its address if the signer failed,
else with the fault of the missing key or of the unreadable answer.  With answers of use it is all
requirements or a refusal. -/
theorem resolve_ends (hcall : tx.firstAuth?.isSome = true) {requirements : Option (List AuthEntry)}
    (htext : ∀ e ∈ requirements.getD tx.authEntries, tx.needsSignature e = true →
      ∃ t, e.address = .text t)
    {first : AuthEntry} {more : List AuthEntry}
    (hneeded : (requirements.getD tx.authEntries).filter tx.needsSignature = first :: more)
    {policy : ExpirationPolicy} {ledger : Stage ω Value} {known : Option Int}
    (hlimit : (expiration policy ledger known first.address.plainText).outcome s = (.ok limit, s')) :
    (∃ log, Ending tx signer passphrase limit (requirements.getD tx.authEntries) ⟨s'.world, log⟩
      ((resolve tx requirements signer policy passphrase ledger known).outcome s).1) ∧
      (AnswersUsably tx signer passphrase limit (requirements.getD tx.authEntries) →
        AllOrRefused tx (requirements.getD tx.authEntries)
          ((resolve tx requirements signer policy passphrase ledger known).outcome s).1) := by
  have hfirst : first ∈ (requirements.getD tx.authEntries).filter tx.needsSignature := by
    rw [hneeded]
    exact List.mem_cons_self
  obtain ⟨hmem, hneeds⟩ := List.mem_filter.1 hfirst
  obtain ⟨t, ht⟩ := htext first hmem hneeds
  have haddress : first.address.toText = .ok first.address.plainText := by rw [ht]; rfl
  obtain ⟨log, hresolve⟩ : ∃ log, (resolve tx requirements signer policy passphrase ledger
      known).outcome s = _ := outcome_resolve_of_limit hneeded haddress hlimit
  have hending : Ending tx signer passphrase limit (requirements.getD tx.authEntries) ⟨s'.world, log⟩
      ((resolve tx requirements signer policy passphrase ledger known).outcome s).1 := by
    rw [hresolve]
    exact ending_of_resolveEntries hcall htext _
  exact ⟨⟨log, hending⟩, hending.allOrRefused⟩

/-- A signer that signs once and then has no key any more. -/
def onlyOnce : Signer Nat := fun payload address => do
  let signed ← Stage.world
  modify fun s => { s with world := signed + 1 }
  if signed = 0 then pure (.bytes payload) else Stage.fail (.signingDenied address "locked")

/-- What that signer answers for the account is of use. -/
theorem answersUsably_onlyOnce (tx : Transaction) (h : ∀ e ∈ requirements, e.address = .text someAccount) :
    AnswersUsably tx onlyOnce passphrase limit requirements := by
  have hlength : (publicKey someAccount).toOption.map List.length = some 32 := by decide +kernel
  obtain ⟨key, hkey, -⟩ := exists_of_toOption_map hlength
  intro e he _ address haddress s v hv
  rw [h e he] at haddress
  cases haddress
  refine ⟨⟨key, hkey⟩, e.payload passphrase limit, ?_⟩
  -- Only the first of its answers is a value.
  rcases s with ⟨signed, log⟩
  cases signed with
  | zero =>
      cases hv
      rfl
  | succ n => cases hv

/-- Two requirements of one account, of which the signer signs the first. -/
theorem resolve_ends_locked :
    let tx := callCarrying []
    let required := [otherUnsigned, { otherUnsigned with nonce := 3 }]
    let run := (resolve tx (some required) onlyOnce { target := some 700 } "test" (pure .null)
      none).outcome ⟨0, []⟩
    tx.firstAuth?.isSome = true ∧
      (∀ e ∈ required, tx.needsSignature e = true → ∃ t, e.address = .text t) ∧
      required.filter tx.needsSignature = required ∧
      (expiration { target := some 700 } (pure .null) none someAccount).outcome
        (⟨0, []⟩ : Session Nat) = (.ok 700, ⟨0, []⟩) ∧
      AnswersUsably tx onlyOnce "test" 700 required ∧
      (∃ log, Ending tx onlyOnce "test" 700 required ⟨0, log⟩ run.1) ∧ AllOrRefused tx required run.1 := by
  intro tx required run
  have htext : ∀ e ∈ (some required).getD tx.authEntries, tx.needsSignature e = true →
      ∃ t, e.address = .text t := by
    simp [required, otherUnsigned, firstSigned]
  have hneeded : ((some required).getD tx.authEntries).filter tx.needsSignature = required := rfl
  have hlimit : (expiration { target := some 700 } (pure .null) none someAccount).outcome
      (⟨0, []⟩ : Session Nat) = (.ok 700, ⟨0, []⟩) := rfl
  have husable : AnswersUsably tx onlyOnce "test" 700 required := by
    refine answersUsably_onlyOnce tx ?_
    simp [required, otherUnsigned, firstSigned]
  obtain ⟨hending, hall⟩ : (∃ log, Ending tx onlyOnce "test" 700 required ⟨0, log⟩ run.1) ∧
      (AnswersUsably tx onlyOnce "test" 700 required → AllOrRefused tx required run.1) :=
    resolve_ends rfl htext hneeded hlimit
  exact ⟨rfl, htext, hneeded, hlimit, husable, hending, hall husable⟩

/-- A requirement that stands alone and gets no signature. -/
theorem result_resolve_of_unsigned (hsigner : signer.Answers answer) (hneeds : tx.needsSignature e = true)
    (haddress : e.address.toText = .ok address) {policy : ExpirationPolicy} {ledger : Stage ω Value}
    {known : Option Int} (hlimit : (expiration policy ledger known address).outcome s = (.ok limit, s'))
    (hnone : signatureAlone answer (e.payload passphrase limit) address = .error fault) :
    ((resolve tx (some [e]) signer policy passphrase ledger known).outcome s).1 = .error fault := by
  have hfilter : [e].filter tx.needsSignature = [e] := List.filter_cons_of_pos hneeds
  rw [result_resolve_of_limit hsigner hfilter haddress hlimit, Option.getD_some, List.mapM_cons,
    Transaction.resolvedAlone_of_needsSignature hneeds, signedAlone_of_text haddress, hnone]
  rfl

/-- A signer that answers, but not with a signature. -/
def speechless : Signer Unit := fun _ _ => pure .null

/-- An entry of an address that is no strkey. -/
def nicknameUnsigned : AuthEntry := { otherUnsigned with address := .text "alice" }

/-- The signer answers what is no bytes, and the signer answers for an address without a key.  Neither is a
refusal by the address. -/
theorem unusable_answers :
    ((resolve (callCarrying []) (some [otherUnsigned]) speechless { target := some 700 } "test"
        (pure .null) none).outcome ⟨(), []⟩).1 = .error (.malformed .wrongType) ∧
      ((resolve (callCarrying []) (some [nicknameUnsigned]) repeating { target := some 700 } "test"
        (pure .null) none).outcome ⟨(), []⟩).1 = .error (.strkey (.wrongLetter .account)) := by
  have hspeechless : speechless.Answers fun _ _ => .ok .null := fun _ _ _ => rfl
  have hrepeating : repeating.Answers fun payload _ => .ok (.bytes payload) := fun _ _ _ => rfl
  have hlength : (publicKey someAccount).toOption.map List.length = some 32 := by decide +kernel
  obtain ⟨key, hkey, -⟩ := exists_of_toOption_map hlength
  have hnickname : publicKey "alice" = .error (.strkey (.wrongLetter .account)) := by rfl
  refine ⟨result_resolve_of_unsigned hspeechless rfl rfl rfl ?_,
    result_resolve_of_unsigned hrepeating rfl rfl rfl ?_⟩
  · rw [signatureAlone, hkey]
    rfl
  · rw [signatureAlone, hnickname]
    rfl

end Authorization
end LedgerFlow
