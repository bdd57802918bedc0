import LedgerFlow.Proofs.Authorization
import LedgerFlow.Proofs.Pipeline.Calls

/-!
# What a stage that succeeds has done

One lemma for each stage says what holds once the stage has ended with a result: which checks its
input passed, which calls are on record with which answers, and how the result is made of them.
Later proofs cite these lemmas and do not open the stages again.
-/

namespace LedgerFlow

variable {ω τ α : Type}

/-- A signer on record answers as the signer does. -/
theorem Signer.Answers.recorded {env : Surroundings ω τ}
    {answer : Bytes → String → Except Fault Value} (h : env.signer.Answers answer) :
    env.recorded.signer.Answers answer :=
  fun payload address s => h payload address ⟨s.world.1, s.log⟩

/-- An envelope carries exactly one signature, the answer of the signer for the hash of its own
transaction under the account behind its source. -/
def Envelope.SignedBySource (answer : Bytes → String → Except Fault Value) (passphrase : String)
    (e : Envelope) : Prop :=
  ∃ address hint v signature, Strkey.accountId e.tx.sourceAccount = .ok address ∧
    Strkey.hint address = .ok hint ∧ answer (e.tx.hashBytes passphrase) address = .ok v ∧
    v.toBytes = .ok signature ∧ e.signatures = [{ hint, signature }]

namespace Pipeline

variable {p : Pipeline ω τ} {answer : Bytes → String → Except Fault Value}

/-- Whether an expiration is the explicit one, or is the latest ledger that the node answered with
plus the horizon. -/
def IsLimit (p : Pipeline ω τ) (target : Option Int) (calls : List (Event ω τ)) (limit : Int) :
    Prop :=
  target = some limit ∨ target = none ∧ ∃ before timeout latest,
    .latestLedger before timeout (.ok latest) ∈ calls ∧
      limit = latest.sequence + p.config.authHorizon

theorem IsLimit.mono {target : Option Int} {calls calls' : List (Event ω τ)} {limit : Int}
    (h : p.IsLimit target calls limit) (hsub : calls ⊆ calls') : p.IsLimit target calls' limit := by
  rcases h with htarget | ⟨htarget, before, timeout, latest, hmem, hlimit⟩
  · exact .inl htarget
  · exact .inr ⟨htarget, before, timeout, latest, hsub hmem, hlimit⟩

/-- Assembly as a stage is assembly. -/
theorem assemble_eq_ok {tx out : Transaction} {sim : Simulation}
    {instructions : Value.Read (Option Int)} {s s' : Session ω}
    (h : (p.assemble tx sim instructions).outcome s = (.ok out, s')) :
    tx.assembleReading sim (.ok p.config.baseFee) instructions = .ok out := by
  obtain ⟨tx', s₁, hread, h⟩ := Stage.outcome_bind_eq_ok.1 h
  obtain ⟨_, s₂, -, h⟩ := Stage.outcome_bind_eq_ok.1 h
  rw [Stage.outcome_ofExcept] at hread
  cases h
  exact (Prod.mk.inj hread).1

/-- Signing without a named signer yields an envelope signed by its source account. -/
theorem sign_eq_ok (hsigner : p.env.signer.Answers answer) {tx : Transaction} {e : Envelope}
    {s s' : Session ω} (h : (p.sign tx none).outcome s = (.ok e, s')) :
    e.tx = tx ∧ e.SignedBySource answer p.config.networkPassphrase := by
  obtain ⟨address, s₁, haddress, h⟩ := Stage.outcome_bind_eq_ok.1 h
  obtain ⟨v, s₂, hv, h⟩ := Stage.outcome_bind_eq_ok.1 h
  obtain ⟨hint, s₃, hhint, h⟩ := Stage.outcome_bind_eq_ok.1 h
  obtain ⟨sig, s₄, hsig, h⟩ := Stage.outcome_bind_eq_ok.1 h
  change (Stage.ofExcept _).outcome _ = _ at haddress
  rw [Stage.outcome_ofExcept] at haddress hhint hsig
  have hanswer := congrArg Prod.fst hv
  rw [hsigner] at hanswer
  cases h
  exact ⟨rfl, address, hint, v, sig,
    eq_ok_of_mapError (Prod.mk.inj haddress).1,
    eq_ok_of_mapError (Prod.mk.inj hhint).1, hanswer,
    eq_ok_of_mapError (Prod.mk.inj hsig).1, rfl⟩

variable [Timeline τ]

/-- A stage that may be cancelled and succeeds has done what its body does. -/
theorem cancellable_eq_ok {stage : String} {txHash : Option String} {body : Stage ω α} {a : α}
    {s s' : Session ω} (h : (p.cancellable stage txHash body).outcome s = (.ok a, s')) :
    body.outcome s = (.ok a, s') := by
  obtain ⟨r, s₁, hbody, h⟩ := Stage.outcome_bind_eq_ok.1 h
  rw [Stage.outcome_attempt] at hbody
  obtain ⟨hr, rfl⟩ := Prod.mk.inj hbody
  cases r with
  | ok b =>
      cases h
      rw [← Except.ok.inj hr]
  | error fault =>
      obtain ⟨w, s₂, -, h⟩ := Stage.outcome_bind_eq_ok.1 h
      split at h <;> cases (Prod.mk.inj h).1

/-- Authorizing is resolving the requirements of the simulation, or else the entries of the
transaction. -/
theorem exists_resolve_of_authorize {tx out : Transaction} {sim : Simulation} {target : Option Int}
    {s s' : Session ω} (h : (p.authorize tx sim target).outcome s = (.ok out, s')) :
    ∃ policy ledger s₁, (Authorization.resolve tx (requirements sim) p.env.signer policy
      p.config.networkPassphrase ledger (Draft.knownLedger sim.latestLedger)).outcome s₁ =
        (.ok out, s') := by
  obtain ⟨_, s₁, -, h⟩ := Stage.outcome_bind_eq_ok.1 h
  obtain ⟨policy, s₂, -, h⟩ := Stage.outcome_bind_eq_ok.1 h
  exact ⟨policy, _, s₂, cancellable_eq_ok h⟩

/-- A draft that was simulated is valid, and the node answered with the simulation. -/
theorem simulate_eq_ok {tx : Transaction} {sim : Simulation} {s s' : Session (Recorded ω τ)}
    (h : (p.recorded.simulate tx).outcome s = (.ok sim, s')) :
    tx.validate = .ok () ∧
      ∃ before timeout, .simulate before tx timeout (.ok sim) ∈ s'.world.2 := by
  obtain ⟨_, s₁, -, h⟩ := Stage.outcome_bind_eq_ok.1 h
  obtain ⟨timeout, s₂, -, h⟩ := Stage.outcome_bind_eq_ok.1 (cancellable_eq_ok h)
  unfold Draft.simulate at h
  cases hvalid : tx.validate with
  | error e =>
      rw [hvalid] at h
      cases (Prod.mk.inj h).1
  | ok _ =>
      rw [hvalid] at h
      obtain ⟨sim', s₃, hcall, h⟩ := Stage.outcome_bind_eq_ok.1 h
      change (recordCall (fun w => .simulate w tx timeout) _).outcome s₂ = _ at hcall
      have hrecord := recordCall_eq_ok hcall
      cases herror : sim'.error with
      | some message =>
          rw [herror] at h
          obtain ⟨_, s₄, -, h⟩ := Stage.outcome_bind_eq_ok.1 h
          obtain ⟨_, s₅, -, h⟩ := Stage.outcome_bind_eq_ok.1 h
          cases (Prod.mk.inj h).1
      | none =>
          rw [herror] at h
          obtain ⟨_, s₄, hlog, h⟩ := Stage.outcome_bind_eq_ok.1 h
          have hshadows : Shadows p.env (fun _ => True) _ _ :=
            Draft.shadows_recordSimulation sim'
          have hgrows := hshadows.calls_subset s₃
          rw [hlog] at hgrows
          cases h
          exact ⟨rfl, _, timeout, hgrows hrecord⟩

/-- The expiration of an authorizing stage is a limit: a ledger that was asked for is on record. -/
theorem isLimit_of_expiration {target known : Option Int} {first : String} {limit : Int}
    {s s' : Session (Recorded ω τ)}
    (h : (Authorization.expiration { horizon := p.config.authHorizon, target }
      (do
        let latest ← p.recorded.env.node.latestLedger (← p.recorded.timeout)
        pure (.int latest.sequence)) known first).outcome s = (.ok limit, s')) :
    p.IsLimit target s'.world.2 limit := by
  rcases Authorization.expiration_eq_ok h with
    htarget | ⟨htarget, v, current, hledger, hcurrent, rfl⟩
  · exact .inl htarget
  · obtain ⟨timeout, s₁, -, hledger⟩ := Stage.outcome_bind_eq_ok.1 hledger
    obtain ⟨latest, s₂, hcall, hledger⟩ := Stage.outcome_bind_eq_ok.1 hledger
    change (recordCall (fun w => .latestLedger w timeout) _).outcome s₁ = _ at hcall
    cases hledger
    cases hcurrent
    exact .inr ⟨htarget, _, timeout, latest, recordCall_eq_ok hcall, rfl⟩

/-- The requirements of the simulation, or else the entries of the transaction, were resolved one by
one, and the transaction took the result. -/
theorem authorize_eq_ok (hsigner : p.env.signer.Answers answer) {tx out : Transaction}
    {sim : Simulation} {target : Option Int} {s s' : Session (Recorded ω τ)}
    (h : (p.recorded.authorize tx sim target).outcome s = (.ok out, s')) :
    ∃ entries, tx.withAuth entries = .ok out ∧
      List.Forall₂
        (Authorization.ResolvedAs tx answer p.config.networkPassphrase
          (p.IsLimit target s'.world.2))
        ((requirements sim).getD tx.authEntries) entries := by
  obtain ⟨_, s₁, -, h⟩ := Stage.outcome_bind_eq_ok.1 h
  obtain ⟨policy, s₂, hpolicy, h⟩ := Stage.outcome_bind_eq_ok.1 h
  obtain ⟨entries, hwith, hresolved⟩ := Authorization.resolve_eq_ok (cancellable_eq_ok h)
  refine ⟨entries, hwith, ?_⟩
  rcases hresolved with ⟨hnone, rfl⟩ | ⟨-, first, limit, s₃, line, hlimit, hentries⟩
  · exact Authorization.forall₂_of_nothing_needed _ hnone
  · have hmake := (Prod.mk.inj ((Stage.outcome_ofExcept _ _).symm.trans hpolicy)).1
    rw [ExpirationPolicy.make_eq_ok hmake] at hlimit
    change (Authorization.resolveEntries _ p.env.recorded.signer p.config.networkPassphrase _ _
      _).outcome _ = _ at hentries
    have hshadows : Shadows p.env (fun _ => True) _ _ :=
      Authorization.shadows_resolveEntries p.env (fun _ _ _ _ => trivial) tx
        p.config.networkPassphrase limit [] ((requirements sim).getD tx.authEntries)
    -- The ledger that was asked for is still on record when the entries are resolved.
    have hgrows := hshadows.calls_subset { s₃ with log := s₃.log ++ [line] }
    rw [hentries] at hgrows
    exact Authorization.resolveEntries_forall₂ hsigner.recorded
      ((isLimit_of_expiration hlimit).mono hgrows) Authorization.genuine_nil hentries

end Pipeline
end LedgerFlow
