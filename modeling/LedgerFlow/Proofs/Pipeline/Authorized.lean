import LedgerFlow.Proofs.Assembly
import LedgerFlow.Proofs.Pipeline.Stages

/-!
# What is submitted is authorized and signed

`Pipeline.calls` are the calls of a run, in order, whether or not the run ends with a result.  The main
statement `sent_authorized` is about every call that sends an envelope, for every draft, configuration,
cancellation and node, and every signer whose answer depends on payload and address alone: no entry of
the sent transaction is unresolved, each was settled in one of the ways of `AuthEntry.Settled`, and the
envelope carries the one signature of its source account.

The proof follows the stages.  Only the submission sends anything, so every stage before it succeeded
(`Shadows.succeeds_before`).  A valid draft has one contract call at most and assembly keeps it so,
hence the entries that were resolved are all the entries of the transaction.
-/

namespace LedgerFlow

variable {ω τ : Type} {answer : Bytes → String → Except Fault Value} {passphrase : String}
  {isLimit : Int → Prop}

/-- The ways in which an entry of a submitted transaction is settled: the source account covers it, it
was signed in the draft or by the simulation already, or it carries the answer of the signer for the
payload of this very entry, up to one of the given limits. -/
inductive AuthEntry.Settled (answer : Bytes → String → Except Fault Value) (passphrase : String)
    (isLimit : Int → Prop) (draft : Transaction) (sim : Simulation) : AuthEntry → Prop where
  | sourceAccount {a : AuthEntry} (h : a.usesSourceAccount = true) :
      Settled answer passphrase isLimit draft sim a
  | signedBefore {a : AuthEntry} (hmem : a ∈ draft.authEntries ∨ a ∈ sim.auth)
      (hsigned : a.signature.isSome = true) : Settled answer passphrase isLimit draft sim a
  | signedNow {a : AuthEntry} {address : String} {sig : AuthSignature}
      (haddress : a.address.toText = .ok address) (hlimit : isLimit a.expiration)
      (hsig : Authorization.IsSignature answer (a.payload passphrase a.expiration) address sig)
      (hsigned : a.signature = some sig) : Settled answer passphrase isLimit draft sim a

namespace AuthEntry

variable {draft : Transaction} {sim : Simulation} {a : AuthEntry}

theorem Settled.isResolved (h : a.Settled answer passphrase isLimit draft sim) :
    a.isResolved = true := by
  cases h with
  | sourceAccount h => exact Bool.or_eq_true_iff.2 (.inl h)
  | signedBefore _ hsigned => exact Bool.or_eq_true_iff.2 (.inr hsigned)
  | signedNow _ _ _ hsigned =>
      refine Bool.or_eq_true_iff.2 (.inr ?_)
      rw [hsigned]
      rfl

theorem Settled.mono {isLimit' : Int → Prop} (h : a.Settled answer passphrase isLimit draft sim)
    (himp : ∀ limit, isLimit limit → isLimit' limit) :
    a.Settled answer passphrase isLimit' draft sim := by
  cases h with
  | sourceAccount h => exact .sourceAccount h
  | signedBefore hmem hsigned => exact .signedBefore hmem hsigned
  | signedNow haddress hlimit hsig hsigned =>
      exact .signedNow haddress (himp _ hlimit) hsig hsigned

/-- A resolved entry of the draft or the simulation is settled. -/
theorem settled_of_isResolved (hmem : a ∈ draft.authEntries ∨ a ∈ sim.auth)
    (h : a.isResolved = true) : a.Settled answer passphrase isLimit draft sim := by
  rcases Bool.or_eq_true_iff.1 h with hnull | hsigned
  · exact .sourceAccount hnull
  · exact .signedBefore hmem hsigned

end AuthEntry

namespace Transaction

variable {tx out draft : Transaction} {sim : Simulation} {e a : AuthEntry}

/-- A requirement of the draft or the simulation is settled however it was resolved. -/
theorem settled_of_resolvedAs
    (hfrom : ∀ x ∈ tx.authEntries, x ∈ draft.authEntries ∨ x ∈ sim.auth)
    (hmem : e ∈ draft.authEntries ∨ e ∈ sim.auth)
    (h : Authorization.ResolvedAs tx answer passphrase isLimit e a) :
    a.Settled answer passphrase isLimit draft sim := by
  cases h with
  | kept h => exact AuthEntry.settled_of_isResolved hmem h
  | prior h =>
      obtain ⟨hprior, hsigned⟩ := mem_of_signedEntry? h
      exact .signedBefore (hfrom a hprior) hsigned
  | signed haddress hlimit hsig => exact .signedNow haddress hlimit hsig rfl

/-- Once the requirements are resolved and attached, every entry is settled.  A transaction that had
equal entries already keeps its own, which are then resolved as well. -/
theorem settled_of_withAuth (hone : AtMostOneCall tx.operations) {requirements entries : List AuthEntry}
    (hfrom : ∀ x ∈ tx.authEntries, x ∈ draft.authEntries ∨ x ∈ sim.auth)
    (hrequired : ∀ x ∈ requirements, x ∈ draft.authEntries ∨ x ∈ sim.auth)
    (hresolved : List.Forall₂ (Authorization.ResolvedAs tx answer passphrase isLimit) requirements
      entries)
    (h : tx.withAuth entries = .ok out) (ha : a ∈ out.authEntries) :
    a.Settled answer passphrase isLimit draft sim := by
  have hentries : ∀ x ∈ entries, x.Settled answer passphrase isLimit draft sim :=
    Authorization.forall_mem_of_forall₂ hresolved fun e he x hx =>
      settled_of_resolvedAs hfrom (hrequired e he) hx
  rcases withAuth_eq_ok hone h with hout | ⟨rfl, hsame⟩
  · rw [hout] at ha
    exact hentries a ha
  · -- The entries that are kept only equal the settled ones, so they are settled by being resolved.
    have hpresent : ∀ x ∈ out.authEntries, x.isResolved = true :=
      Authorization.forall_mem_of_forall₂ (AuthEntry.sameAll_iff.1 hsame).flip fun e he x hx =>
        (AuthEntry.isResolved_eq_of_same hx).trans (hentries e he).isResolved
    exact AuthEntry.settled_of_isResolved (hfrom a ha) (hpresent a ha)

end Transaction

namespace Pipeline

variable [Timeline τ] {p : Pipeline ω τ}

/-- The calls of a run from a world and a log. -/
def calls (p : Pipeline ω τ) (draft : Transaction) (options : RunOptions) (w : ω)
    (log : List LogRecord) : List (Event ω τ) :=
  ((p.recorded.run draft options).outcome ⟨(w, []), log⟩).2.world.2

/-- Apart from the record, a recorded run ends as the run does: with the same result or fault, in the
same world, with the same log. -/
theorem outcome_run_recorded (p : Pipeline ω τ) (draft : Transaction) (options : RunOptions) (w : ω)
    (log : List LogRecord) :
    (p.recorded.run draft options).outcome ⟨(w, []), log⟩ =
      (((p.run draft options).outcome ⟨w, log⟩).1,
        ⟨(((p.run draft options).outcome ⟨w, log⟩).2.world, p.calls draft options w log),
          ((p.run draft options).outcome ⟨w, log⟩).2.log⟩) := by
  obtain ⟨new, hrun, -, -⟩ := (p.shadows_run draft options).outcome w [] log
  rw [calls, hrun]

/-- Only the submission sends anything: all stages before it have succeeded, and the envelope that is
sent is the one that was signed. -/
theorem stages_of_send {draft : Transaction} {options : RunOptions} {w before : ω}
    {log : List LogRecord} {e : Envelope} {timeout : Option τ} {reply : Except Fault SendReply}
    (hsend : .send before e timeout reply ∈ p.calls draft options w log) :
    ∃ sim assembled tx s₀ s₁ s₂ s₃ s₄,
      (p.recorded.simulate draft).outcome s₀ = (.ok sim, s₁) ∧
      (p.recorded.assemble draft sim options.instructions).outcome s₁ = (.ok assembled, s₂) ∧
      (p.recorded.authorize assembled sim options.expirationLedger).outcome s₂ = (.ok tx, s₃) ∧
      (p.recorded.sign tx none).outcome s₃ = (.ok e, s₄) ∧
      s₁.world.2 ⊆ s₃.world.2 ∧ s₃.world.2 ⊆ p.calls draft options w log := by
  obtain ⟨calls, hcalls⟩ : ∃ calls, p.calls draft options w log = calls := ⟨_, rfl⟩
  rw [hcalls] at hsend ⊢
  have hsent : ¬ (Event.send before e timeout reply : Event ω τ).SendsOnly fun _ => False :=
    not_false
  have hstart : Event.send before e timeout reply ∉ ([] : List (Event ω τ)) := List.not_mem_nil
  unfold Pipeline.calls run at hcalls
  obtain ⟨sim, s₁, hsim, hcalls, hs₁, -⟩ :=
    (p.shadows_simulate draft fun _ _ _ => trivial).succeeds_before hcalls hsent hstart hsend
  obtain ⟨assembled, s₂, hassembled, hcalls, hs₂, hgrows₂⟩ :=
    (p.shadows_assemble draft sim options.instructions).succeeds_before hcalls hsent hs₁ hsend
  split at hcalls
  · -- a read-only call that is skipped makes no further calls
    change s₂.world.2 = calls at hcalls
    rw [hcalls] at hs₂
    exact absurd hsend hs₂
  · obtain ⟨tx, s₃, htx, hcalls, hs₃, hgrows₃⟩ :=
      (p.shadows_authorize (fun _ _ _ _ => trivial) (fun _ _ _ => trivial) assembled sim
        options.expirationLedger).succeeds_before hcalls hsent hs₂ hsend
    obtain ⟨signed, s₄, hsigned, hcalls, hs₄, hgrows₄⟩ :=
      (p.shadows_sign (fun _ _ _ _ => trivial) tx none).succeeds_before hcalls hsent hs₃ hsend
    -- What is left submits the signed envelope and asks for its status.
    have htail : Shadows p.env (Event.SendsOnly fun sent => sent = signed) _ _ :=
      .bind (p.shadows_submit signed fun _ _ _ => rfl) fun submission =>
        .bind (.lift (p.mirrors_poll (fun _ _ _ _ => trivial) (fun _ _ => trivial) submission))
          fun ending => .bind (.ofExcept ending.2) fun _ =>
            .pure { simulation := sim, transaction := tx, envelope := some signed,
                    submission := some ending.1 : RunResult }
    have hmem : Event.send before e timeout reply ∈ s₄.world.2 ∨ e = signed := by
      rw [← hcalls] at hsend
      exact htail.mem_calls hsend
    have hgrows₅ : s₄.world.2 ⊆ calls := by
      rw [← hcalls]
      exact htail.calls_subset s₄
    obtain rfl := hmem.resolve_left hs₄
    exact ⟨sim, assembled, tx, _, s₁, s₂, s₃, s₄, hsim, hassembled, htx, hsigned,
      List.Subset.trans hgrows₂ hgrows₃, List.Subset.trans hgrows₄ hgrows₅⟩

/-- The entries of an authorized transaction are settled. -/
theorem settled_of_authorize (hsigner : p.env.signer.Answers answer) {tx out draft : Transaction}
    {sim : Simulation} {target : Option Int} {s s' : Session (Recorded ω τ)} {a : AuthEntry}
    (hone : AtMostOneCall tx.operations)
    (hfrom : ∀ x ∈ tx.authEntries, x ∈ draft.authEntries ∨ x ∈ sim.auth)
    (h : (p.recorded.authorize tx sim target).outcome s = (.ok out, s')) (ha : a ∈ out.authEntries) :
    a.Settled answer p.config.networkPassphrase (p.IsLimit target s'.world.2) draft sim := by
  obtain ⟨entries, hwith, hresolved⟩ := authorize_eq_ok hsigner h
  have hrequired : ∀ x ∈ (requirements sim).getD tx.authEntries,
      x ∈ draft.authEntries ∨ x ∈ sim.auth := by
    intro x hx
    unfold requirements at hx
    split at hx
    · exact hfrom x hx
    · exact .inr hx
  exact Transaction.settled_of_withAuth hone hfrom hrequired hresolved hwith ha

/-- **What is submitted is authorized and signed.**  The node answered a simulation for the draft, no
entry of the sent transaction is unresolved and every one is settled, and the envelope carries the one
signature of its source account. -/
theorem sent_authorized (hsigner : p.env.signer.Answers answer) {draft : Transaction}
    {options : RunOptions} {w before : ω} {log : List LogRecord} {e : Envelope} {timeout : Option τ}
    {reply : Except Fault SendReply}
    (hsend : .send before e timeout reply ∈ p.calls draft options w log) :
    ∃ sim, (∃ before timeout,
        .simulate before draft timeout (.ok sim) ∈ p.calls draft options w log) ∧
      e.tx.requiresAuth = false ∧
      (∀ a ∈ e.tx.authEntries, a.Settled answer p.config.networkPassphrase
        (p.IsLimit options.expirationLedger (p.calls draft options w log)) draft sim) ∧
      e.SignedBySource answer p.config.networkPassphrase := by
  obtain ⟨sim, assembled, tx, s₀, s₁, s₂, s₃, s₄, hsim, hassemble, hauthorize, hsign, hgrows, hlast⟩ :=
    stages_of_send hsend
  obtain ⟨hvalid, hsimulated⟩ := simulate_eq_ok hsim
  obtain ⟨-, -, base, budget, -, -, -, rfl⟩ :=
    Transaction.assembleReading_eq_ok_iff.1 (assemble_eq_ok hassemble)
  obtain ⟨rfl, hsigned⟩ := sign_eq_ok hsigner.recorded hsign
  have hone := Transaction.atMostOneCall_assembled
    (Transaction.atMostOneCall_of_validate hvalid) sim base budget
  have hsettled : ∀ a ∈ e.tx.authEntries, a.Settled answer p.config.networkPassphrase
      (p.IsLimit options.expirationLedger (p.calls draft options w log)) draft sim := by
    intro a ha
    have hsettled := settled_of_authorize hsigner hone
      (fun x hx => Transaction.mem_authEntries_assembled hx) hauthorize ha
    exact hsettled.mono fun limit hlimit => hlimit.mono hlast
  have hresolved : e.tx.requiresAuth = false := by
    rw [Transaction.requiresAuth, List.any_eq_false]
    intro a ha
    simp [(hsettled a ha).isResolved]
  obtain ⟨first, bound, hcall⟩ := hsimulated
  exact ⟨sim, ⟨first, bound, hlast (hgrows hcall)⟩, hresolved, hsettled, hsigned⟩

/-- A pipeline whose node requires an entry of another account, stands at ledger 100 and accepts
everything, and whose signer repeats the payload. -/
def agreeable : Pipeline Unit Rat where
  config :=
    { rpcUrl := none, networkPassphrase := "test", baseFee := 100, authHorizon := 60
      pollInterval := .whole 1, pollAttempts := 3, requestTimeout := 30, maxRetries := 0
      backoffFactor := 0, logLevel := "WARNING", userAgent := "" }
  env :=
    { node :=
        { simulate := fun _ _ =>
            let required : AuthEntry :=
              { invocation := .mk "C" "f" [.int 1] []
                address := .text "GAAQCAIBAEAQCAIBAEAQCAIBAEAQCAIBAEAQCAIBAEAQCAIBAEAQDZ7H" }
            pure { results := [{ auth := [required] }] }
          send := fun _ _ => pure { status := "PENDING", hash := "ab" }
          status := fun _ _ => pure { status := "SUCCESS" }
          latestLedger := fun _ => pure { sequence := 100 } }
      signer := fun payload _ => pure (.bytes payload)
      now := fun _ => 0
      cancellation := fun _ => none
      sleep := fun _ w => w }

/-- A contract call without entries reaches the submission, and the required entry is then signed up
to the latest ledger plus the horizon. -/
theorem sent_authorized_agreeable :
    let draft : Transaction :=
      { sourceAccount := "GAAAAAAAAAAAAAAAAAAAAAAAAAAAAAAAAAAAAAAAAAAAAAAAAAAAAWHF", seqNum := 1
        operations := [{ body := .invokeContract (.text "C") (.text "f") (.list [.int 1]) [] }] }
    let calls := agreeable.calls draft {} () []
    let answer : Bytes → String → Except Fault Value := fun payload _ => .ok (.bytes payload)
    ∃ e before timeout reply, .send before e timeout reply ∈ calls ∧
      (e.tx.authEntries.any fun a => a.signature.isSome && a.expiration == 160) = true ∧
      ∃ sim, (∃ before timeout, .simulate before draft timeout (.ok sim) ∈ calls) ∧
        e.tx.requiresAuth = false ∧
        (∀ a ∈ e.tx.authEntries,
          a.Settled answer "test" (agreeable.IsLimit none calls) draft sim) ∧
        e.SignedBySource answer "test" := by
  intro draft calls answer
  have hsend : (calls.any fun call => call.sent?.any fun e =>
      e.tx.authEntries.any fun a => a.signature.isSome && a.expiration == 160) = true := by
    decide +kernel
  obtain ⟨call, hmem, hcall⟩ := List.any_eq_true.1 hsend
  cases call with
  | send before e timeout reply =>
      exact ⟨e, before, timeout, reply, hmem, hcall, sent_authorized (fun _ _ _ => rfl) hmem⟩
  | _ => cases hcall

end Pipeline
end LedgerFlow
