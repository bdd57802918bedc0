import LedgerFlow.Proofs.Authorization
import LedgerFlow.Proofs.Codec.Hex
import LedgerFlow.Proofs.Pipeline.Calls

/-!
# The parts of stages

What a stage does around its calls: what it makes of the answer of a simulation and of a submission,
when it asks for the latest ledger, and how it looks at the cancellation.  A stage that looks at the
cancellation is stopped when that has fired, and is to blame for the failure of its call otherwise
(`Pipeline.outcome_guarded`).
-/

namespace LedgerFlow

variable {ω τ α : Type}

namespace Draft

/-- A simulation that is accepted is the answer. -/
theorem accept_eq_ok {sim out : Simulation} {s s' : Session ω}
    (h : (accept sim).outcome s = (.ok out, s')) : out = sim := by
  unfold accept at h
  split at h
  · obtain ⟨_, s₁, -, h⟩ := Stage.outcome_bind_eq_ok.1 h
    obtain ⟨_, s₂, -, h⟩ := Stage.outcome_bind_eq_ok.1 h
    cases h
  · obtain ⟨_, s₁, -, h⟩ := Stage.outcome_bind_eq_ok.1 h
    cases h
    rfl

end Draft

namespace Authorization

variable {tx : Transaction} {requirements : Option (List AuthEntry)} {policy : ExpirationPolicy}
  {known : Option Int}

/-- What resolving requirements does once the ledger is there: it signs up to the horizon. -/
def resolveFrom (tx : Transaction) (requirements : List AuthEntry) (signer : Signer ω)
    (policy : ExpirationPolicy) (passphrase : String) (count : Nat) (ledger : Value) :
    Stage ω Transaction := do
  let current ← Stage.ofExcept (ledger.toInt.mapError .malformed)
  let limit := current + policy.horizon
  Stage.record .debug ("resolving " ++ toString count ++ " authorization " ++ entriesWord count
    ++ ", expiration ledger " ++ toString limit)
  let entries ← resolveEntries tx signer passphrase limit [] requirements
  Stage.ofExcept (tx.withAuth entries)

/-- Without an explicit ledger, requirements that need signatures ask for the latest one. -/
theorem resolve_of_needed {first : AuthEntry} {more : List AuthEntry} (htarget : policy.target = none)
    (hneeds : (requirements.getD tx.authEntries).filter tx.needsSignature = first :: more)
    (signer : Signer ω) (passphrase : String) (ledger : Stage ω Value) :
    resolve tx requirements signer policy passphrase ledger known =
      Stage.ofExcept (first.address.toText.mapError .malformed) >>= fun _ => ledger >>=
        resolveFrom tx (requirements.getD tx.authEntries) signer policy passphrase
          (more.length + 1) := by
  unfold resolve expiration
  dsimp only
  rw [hneeds, htarget]
  simp only [bind_assoc, pure_bind]
  rfl

/-- Otherwise the ledger is not asked for. -/
theorem resolve_of_unneeded
    (h : policy.target ≠ none ∨ (requirements.getD tx.authEntries).filter tx.needsSignature = [])
    (signer : Signer ω) (passphrase : String) (ledger ledger' : Stage ω Value) :
    resolve tx requirements signer policy passphrase ledger known =
      resolve tx requirements signer policy passphrase ledger' known := by
  unfold resolve expiration
  dsimp only
  cases hneeds : (requirements.getD tx.authEntries).filter tx.needsSignature with
  | nil => rfl
  | cons first more =>
      cases htarget : policy.target with
      | some target => rfl
      | none => exact absurd htarget (h.resolve_right (by rw [hneeds]; nofun))

/-- Signing calls nothing but the signer. -/
theorem shadows_resolveFrom (env : Surroundings ω τ) (tx : Transaction) (policy : ExpirationPolicy)
    (requirements : List AuthEntry) (passphrase : String)
    (count : Nat) (ledger : Value) :
    Shadows env Event.IsSign
      (resolveFrom tx requirements env.recorded.signer policy passphrase count ledger)
      (resolveFrom tx requirements env.signer policy passphrase count ledger) :=
  .bind (.ofExcept _) fun _ => .bind (.record _ _) fun _ =>
    .bind (shadows_resolveEntries env (fun _ _ _ _ => trivial) tx passphrase _ [] requirements)
      fun _ => .ofExcept _

/-- Asking for the latest ledger is one call; what follows it only signs, and does not start when the
call fails. -/
theorem ledger_bind_calls {env : Surroundings ω τ} {timeout : Option τ}
    {ledger : Stage (Recorded ω τ) Value} {rest : Value → Stage (Recorded ω τ) Transaction}
    {plain : Value → Stage ω Transaction} (hrest : ∀ v, Shadows env Event.IsSign (rest v) (plain v))
    {s : Session (Recorded ω τ)}
    (hledger : ledger.outcome s = (recordCall (fun w => .latestLedger w timeout)
      (env.node.latestLedger timeout) >>= fun latest => pure (.int latest.sequence)).outcome s) :
    ∃ answer calls, ((ledger >>= rest).outcome s).2.world.2 =
        s.world.2 ++ .latestLedger s.world.1 timeout answer :: calls ∧
      (∀ c ∈ calls, c.IsSign) ∧
      ∀ fault, answer = .error fault → ((ledger >>= rest).outcome s).1 = .error fault := by
  have hsilent : ∀ (latest : LatestLedger) (s : Session (Recorded ω τ)),
      ((pure (.int latest.sequence) : Stage (Recorded ω τ) Value).outcome s).2.world = s.world :=
    fun _ _ => rfl
  obtain ⟨answer, s₂, hresult, hworld⟩ := outcome_recordCall_bind
    (fun w => .latestLedger w timeout) (env.node.latestLedger timeout) hsilent s
  rw [← hledger] at hresult hworld
  rcases hasked : ledger.outcome s with ⟨r, s₁⟩
  rw [hasked] at hresult hworld
  dsimp only at hresult hworld
  cases answer with
  | error fault =>
      have hfailed : ledger.outcome s = (.error fault, s₁) := by
        rw [hasked, hresult]
        rfl
      rw [Stage.outcome_bind_of_error hfailed]
      refine ⟨.error fault, [], ?_, List.forall_mem_nil _, ?_⟩
      · rw [hworld]
      · rintro fault' h
        rw [Except.error.inj h]
  | ok latest =>
      have hanswered : ledger.outcome s = (.ok (.int latest.sequence), s₁) := by
        rw [hasked, hresult]
        rfl
      rw [Stage.outcome_bind_of_ok hanswered]
      obtain ⟨calls, hcalls, -, hsign⟩ := (hrest (.int latest.sequence)).exists_calls s₁
      rw [hworld, List.append_assoc] at hcalls
      exact ⟨.ok latest, calls, hcalls, hsign, nofun⟩

/-- The calls of resolving requirements: signatures, and the ledger before them if it is needed. -/
theorem resolve_calls (env : Surroundings ω τ) (timeout : Option τ) {passphrase : String}
    {ledger : Stage (Recorded ω τ) Value} (s : Session (Recorded ω τ))
    {out : Except Fault Transaction × Session (Recorded ω τ)}
    (hout : (resolve tx requirements env.recorded.signer policy passphrase ledger known).outcome s =
      out)
    (hledger : ledger.outcome s = (recordCall (fun w => .latestLedger w timeout)
      (env.node.latestLedger timeout) >>= fun latest => pure (.int latest.sequence)).outcome s) :
    (∃ calls, out.2.world.2 = s.world.2 ++ calls ∧ ∀ c ∈ calls, c.IsSign) ∨
      policy.target = none ∧ (requirements.getD tx.authEntries).any tx.needsSignature = true ∧
      ∃ answer calls, out.2.world.2 = s.world.2 ++ .latestLedger s.world.1 timeout answer :: calls ∧
        (∀ c ∈ calls, c.IsSign) ∧ ∀ fault, answer = .error fault → out.1 = .error fault := by
  subst hout
  by_cases hneeded : policy.target ≠ none ∨
      (requirements.getD tx.authEntries).filter tx.needsSignature = []
  · -- The ledger is not asked for, so any other one does as well, and that one calls nothing.
    left
    have hnull : Shadows env Event.IsSign (pure .null : Stage (Recorded ω τ) Value) (pure .null) :=
      .pure _
    have hshadows := shadows_resolve env (fun _ _ _ _ => trivial) tx requirements policy passphrase
      hnull known
    obtain ⟨calls, hcalls, -, hsign⟩ := hshadows.exists_calls s
    rw [resolve_of_unneeded hneeded _ _ _ ledger] at hcalls
    exact ⟨calls, hcalls, hsign⟩
  · obtain ⟨htarget, hneeds⟩ := not_or.1 hneeded
    replace htarget := Decidable.not_not.1 htarget
    obtain ⟨first, more, hneeds⟩ := List.exists_cons_of_ne_nil hneeds
    have hfirst : first ∈ (requirements.getD tx.authEntries).filter tx.needsSignature := by
      rw [hneeds]
      exact List.mem_cons_self
    have hany : (requirements.getD tx.authEntries).any tx.needsSignature = true :=
      List.any_eq_true.2 ⟨first, List.mem_filter.1 hfirst⟩
    rw [resolve_of_needed htarget hneeds]
    cases haddress : first.address.toText.mapError Fault.malformed with
    | error fault => exact .inl ⟨[], (List.append_nil _).symm, List.forall_mem_nil _⟩
    | ok address =>
        right
        have hcalls := ledger_bind_calls (fun v => shadows_resolveFrom env tx policy
          (requirements.getD tx.authEntries) passphrase (more.length + 1) v) hledger
        exact ⟨htarget, hany, hcalls⟩

end Authorization

namespace Submission

variable {e : Envelope} {hash : String} {reply : SendReply}

/-- An answer that makes a submission makes a fresh one. -/
theorem classify_eq_ok {submission : Submission} {s s' : Session ω}
    (h : (classify e hash reply).outcome s = (.ok submission, s')) :
    submission = fresh hash (some e) (some reply) := by
  unfold classify at h
  split at h
  · obtain ⟨_, s₁, -, h⟩ := Stage.outcome_bind_eq_ok.1 h
    obtain ⟨_, s₂, -, h⟩ := Stage.outcome_bind_eq_ok.1 h
    cases h
  · cases h
  · split at h
    · cases h
    · split at h
      · cases h
      · split at h
        · obtain ⟨_, s₁, -, h⟩ := Stage.outcome_bind_eq_ok.1 h
          cases h
          rfl
        · obtain ⟨_, s₁, -, h⟩ := Stage.outcome_bind_eq_ok.1 h
          cases h
          rfl

/-- The answers that the envelope is taken, or known already, make a submission. -/
theorem exists_classify_eq_ok (hstatus : reply.status = "PENDING" ∨ reply.status = "DUPLICATE")
    (hhash : hash.isEmpty = false) (s : Session ω) :
    ∃ submission s', (classify e hash reply).outcome s = (.ok submission, s') := by
  unfold classify
  rcases hstatus with hstatus | hstatus
  · rw [hstatus]
    simp only [hhash]
    exact ⟨_, _, rfl⟩
  · rw [hstatus]
    simp only [hhash]
    exact ⟨_, _, rfl⟩

end Submission

/-- The hash of a transaction is never empty. -/
theorem Transaction.isEmpty_hash (tx : Transaction) (passphrase : String) :
    (tx.hash passphrase).isEmpty = false := by
  rw [Bool.eq_false_iff]
  intro hempty
  have hhash : Hex.encode (tx.hashBytes passphrase) = Hex.encode [] := String.isEmpty_iff.1 hempty
  have hlength : (tx.hashBytes passphrase).length = 32 := rfl
  rw [Hex.encode_injective hhash] at hlength
  cases hlength

/-- With a passphrase every submission has a hash. -/
theorem Submission.isEmpty_answeredHash (e : Envelope) (passphrase : String) (reply : SendReply) :
    (answeredHash e (some passphrase) reply).isEmpty = false := by
  unfold answeredHash
  split
  · exact e.tx.isEmpty_hash passphrase
  · next hhash => exact Bool.eq_false_iff.2 hhash

namespace Pipeline

variable {p : Pipeline ω τ}

/-- Signing leaves the transaction as it is. -/
theorem tx_of_sign {tx : Transaction} {e : Envelope} {s s' : Session ω}
    (h : (p.sign tx none).outcome s = (.ok e, s')) : e.tx = tx := by
  obtain ⟨address, s₁, -, h⟩ := Stage.outcome_bind_eq_ok.1 h
  obtain ⟨v, s₂, -, h⟩ := Stage.outcome_bind_eq_ok.1 h
  obtain ⟨hint, s₃, -, h⟩ := Stage.outcome_bind_eq_ok.1 h
  obtain ⟨sig, s₄, -, h⟩ := Stage.outcome_bind_eq_ok.1 h
  cases h
  rfl

/-! ## Guards -/

section Guards

variable [Timeline τ] (p : Pipeline ω τ)

/-- The timeout of a call that starts in a world. -/
def callTimeout (w : ω) : Option τ := p.env.bounded w (some p.config.requestTimeout)

/-- The fault of a stage whose call failed, in the world after the call. -/
def blame (stage : String) (hash : Option String) (fault : Fault) (w : ω) : Fault :=
  if fault.isUnreachable && p.env.hasFired w then .pipeline (.cancelled stage hash) else fault

theorem outcome_checkpoint (stage : String) (hash : Option String) (s : Session ω) :
    (p.checkpoint stage hash).outcome s =
      if p.env.hasFired s.world then (.error (.pipeline (.cancelled stage hash)), s)
      else (.ok (), s) := by
  unfold checkpoint
  rw [Stage.outcome_bind_of_ok (Stage.outcome_world s)]
  split <;> rfl

theorem outcome_cancellable (stage : String) (hash : Option String) (body : Stage ω α)
    (s : Session ω) :
    (p.cancellable stage hash body).outcome s =
      ((body.outcome s).1.mapError fun fault => p.blame stage hash fault (body.outcome s).2.world,
        (body.outcome s).2) := by
  unfold cancellable
  rw [Stage.outcome_bind_of_ok (Stage.outcome_attempt body s)]
  rcases body.outcome s with ⟨r, s'⟩
  cases r with
  | ok a => rfl
  | error fault =>
      dsimp only [Except.mapError]
      rw [Stage.outcome_bind_of_ok (Stage.outcome_world s')]
      unfold blame
      split <;> rfl

theorem outcome_timeout_bind (rest : Option τ → Stage ω α) (s : Session ω) :
    (p.timeout >>= rest).outcome s = (rest (p.callTimeout s.world)).outcome s := rfl

/-- A guarded stage is stopped when the cancellation has fired; otherwise its body is to blame. -/
theorem outcome_guarded (stage : String) (hash : Option String) (body : Stage ω α) (s : Session ω) :
    (p.checkpoint stage hash >>= fun _ => p.cancellable stage hash body).outcome s =
      if p.env.hasFired s.world then (.error (.pipeline (.cancelled stage hash)), s)
      else ((body.outcome s).1.mapError fun fault => p.blame stage hash fault (body.outcome s).2.world,
        (body.outcome s).2) := by
  rw [Stage.outcome_bind, outcome_checkpoint]
  cases p.env.hasFired s.world with
  | true => rfl
  | false => exact p.outcome_cancellable stage hash body s

/-- How an authorizing stage resolves requirements under a policy. -/
def resolving (tx : Transaction) (sim : Simulation) (policy : ExpirationPolicy) :
    Stage ω Transaction :=
  let ledger : Stage ω Value := do
    let latest ← p.env.node.latestLedger (← p.timeout)
    pure (.int latest.sequence)
  Authorization.resolve tx (requirements sim) p.env.signer policy p.config.networkPassphrase ledger
    (Draft.knownLedger sim.latestLedger)

/-- The policy is checked between the guard and what it guards. -/
theorem outcome_authorize (tx : Transaction) (sim : Simulation) (target : Option Int)
    (s : Session ω) :
    (p.authorize tx sim target).outcome s =
      if p.env.hasFired s.world then (.error (.pipeline (.cancelled "authorize" none)), s)
      else match ExpirationPolicy.make p.config.authHorizon target with
        | .error fault => (.error fault, s)
        | .ok policy =>
          (((p.resolving tx sim policy).outcome s).1.mapError fun fault =>
            p.blame "authorize" none fault ((p.resolving tx sim policy).outcome s).2.world,
            ((p.resolving tx sim policy).outcome s).2) := by
  refine (Stage.outcome_bind _ _ s).trans ?_
  rw [outcome_checkpoint]
  cases p.env.hasFired s.world with
  | true => rfl
  | false =>
      refine (Stage.outcome_bind _ _ s).trans ?_
      rw [Stage.outcome_ofExcept]
      cases ExpirationPolicy.make p.config.authHorizon target with
      | error fault => rfl
      | ok policy => exact p.outcome_cancellable "authorize" none (p.resolving tx sim policy) s

end Guards

end Pipeline
end LedgerFlow
