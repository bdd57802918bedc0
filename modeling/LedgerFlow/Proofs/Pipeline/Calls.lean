import LedgerFlow.Pipeline
import LedgerFlow.Proofs.Trace

/-!
# The calls of each stage

`Pipeline.recorded` is a pipeline in recorded surroundings.  Each of its stages does what the stage
of the plain pipeline does, and the calls that it writes down are of the kinds that belong to the
stage: a simulation of the given transaction, signatures and at most the ledger while authorizing,
signatures while signing, the given envelope while submitting, and nothing but status calls and waits
afterwards.
-/

namespace LedgerFlow

variable {ω τ α : Type}

/-- The envelope of a call that sends one. -/
def Event.sent? : Event ω τ → Option Envelope
  | .send _ envelope _ _ => some envelope
  | _ => none

/-- Whether a call asks a signer. -/
def Event.IsSign : Event ω τ → Prop
  | .sign .. => True
  | _ => False

/-- Whether a call sends nothing but certain envelopes. -/
def Event.SendsOnly (isSent : Envelope → Prop) (call : Event ω τ) : Prop :=
  call.sent?.elim True isSent

variable {env : Surroundings ω τ} {allowed : Event ω τ → Prop}

namespace Authorization

variable (env) (h : ∀ w payload address r, allowed (.sign w payload address r))

include h in
theorem shadows_askSigner (payload : Bytes) (address : String) :
    Shadows env allowed (askSigner env.recorded.signer payload address)
      (askSigner env.signer payload address) := by
  refine .bind (.attempt (.recordCall _ {} fun w r => h w payload address r)) fun r => ?_
  cases r with
  | ok answer => exact .pure answer
  | error fault =>
      cases fault with
      | pipeline e =>
          cases e with
          | _ => exact .bind (.record _ _) fun _ => .fail _
      | _ => exact .bind (.record _ _) fun _ => .fail _

include h in
theorem shadows_signatureFor (made : Made) (payload : Bytes) (address : String) :
    Shadows env allowed (signatureFor env.recorded.signer made payload address)
      (signatureFor env.signer made payload address) := by
  unfold signatureFor
  cases made.lookup (address, payload) with
  | some sig => exact .pure _
  | none =>
      exact .bind (shadows_askSigner env h payload address) fun _ =>
        .bind (.ofExcept _) fun _ => .bind (.ofExcept _) fun _ => .pure _

include h in
theorem shadows_resolveEntries (tx : Transaction) (passphrase : String) (limit : Int) (made : Made)
    (entries : List AuthEntry) :
    Shadows env allowed (resolveEntries tx env.recorded.signer passphrase limit made entries)
      (resolveEntries tx env.signer passphrase limit made entries) := by
  induction entries generalizing made with
  | nil => exact .pure _
  | cons e rest ih =>
      unfold resolveEntries
      cases e.isResolved with
      | true => exact .bind (ih made) fun _ => .pure _
      | false =>
          cases tx.signedEntry? e with
          | some prior => exact .bind (ih made) fun _ => .pure _
          | none =>
              exact .bind (.ofExcept _) fun address =>
                .bind (shadows_signatureFor env h made _ address) fun sig =>
                  .bind (ih sig.2) fun _ => .pure _

theorem shadows_expiration (policy : ExpirationPolicy) {rledger : Stage (Recorded ω τ) Value}
    {ledger : Stage ω Value} (hledger : Shadows env allowed rledger ledger) (known : Option Int)
    (first : String) :
    Shadows env allowed (expiration policy rledger known first) (expiration policy ledger known first) := by
  unfold expiration
  cases policy.target with
  | some target =>
      cases known with
      | some known =>
          dsimp only
          split
          · exact .fail _
          · exact .pure _
      | none => exact .pure _
  | none => exact .bind hledger fun _ => .bind (.ofExcept _) fun _ => .pure _

include h in
theorem shadows_resolve (tx : Transaction) (requirements : Option (List AuthEntry))
    (policy : ExpirationPolicy) (passphrase : String) {rledger : Stage (Recorded ω τ) Value}
    {ledger : Stage ω Value} (hledger : Shadows env allowed rledger ledger) (known : Option Int) :
    Shadows env allowed
      (resolve tx requirements env.recorded.signer policy passphrase rledger known)
      (resolve tx requirements env.signer policy passphrase ledger known) := by
  unfold resolve
  dsimp only
  cases (requirements.getD tx.authEntries).filter tx.needsSignature with
  | nil => exact .ofExcept _
  | cons first more =>
      exact .bind (.ofExcept _) fun address =>
        .bind (shadows_expiration env policy hledger known address) fun limit =>
          .bind (.record _ _) fun _ =>
            .bind (shadows_resolveEntries env h tx passphrase limit [] _) fun _ => .ofExcept _

end Authorization

namespace Draft

theorem shadows_recordSimulation (sim : Simulation) :
    Shadows env allowed (recordSimulation sim : Stage (Recorded ω τ) Unit)
      (recordSimulation sim) := by
  refine .bind (.recordEvents _ _ _) fun _ => .bind (.record _ _) fun _ => ?_
  cases sim.restorePreamble with
  | some preamble => exact .record _ _
  | none => exact .pure _

/-- What the answer to a simulation leads to. -/
def accept (sim : Simulation) : Stage ω Simulation :=
  match sim.error with
  | some message => do
    Stage.record .error ("simulation failed: " ++ message)
    Stage.recordEvents .error "simulation" sim.events
    Stage.fail (.simulationRejected message sim.events (knownLedger sim.latestLedger))
  | none => do
    recordSimulation sim
    pure sim

/-- Simulating a valid draft is one call; its answer decides on the rest alone. -/
theorem simulate_of_valid {tx : Transaction} (hvalid : tx.validate = .ok ()) (node : Node ω τ)
    (timeout : Option τ) : simulate node tx timeout = node.simulate tx timeout >>= accept := by
  unfold simulate
  rw [hvalid]
  rfl

theorem simulate_of_invalid {tx : Transaction} {e : PipelineError} (hvalid : tx.validate = .error e)
    (node : Node ω τ) (timeout : Option τ) : simulate node tx timeout = throw (refusal tx e) := by
  unfold simulate
  rw [hvalid]

theorem shadows_accept (env : Surroundings ω τ) (sim : Simulation) :
    Shadows env allowed (accept sim : Stage (Recorded ω τ) Simulation) (accept sim) := by
  unfold accept
  cases sim.error with
  | some message => exact .bind (.record _ _) fun _ => .bind (.recordEvents _ _ _) fun _ => .fail _
  | none => exact .bind (shadows_recordSimulation sim) fun _ => .pure _

end Draft

namespace Submission

/-- The hash of a sent envelope: that of the answer, or else the computed one. -/
def answeredHash (e : Envelope) (passphrase : Option String) (reply : SendReply) : String :=
  if reply.hash.isEmpty then passphrase.elim "" e.tx.hash else reply.hash

/-- What the answer to an envelope with a hash leads to. -/
def classify (e : Envelope) (hash : String) (reply : SendReply) : Stage ω Submission :=
  match reply.status with
  | "ERROR" => do
    Stage.record .error ("sendTransaction rejected " ++ (hash? hash).getD "-" ++ ": "
      ++ reply.errorResult.plainText)
    Stage.recordEvents .error "submission" reply.diagnosticEvents
    let reason :=
      if reply.errorResult.isTruthy then reply.errorResult else .text "transaction rejected"
    Stage.fail (.rejected reason (hash? hash) (some reply.status) reply.errorResult
      reply.diagnosticEvents)
  | "TRY_AGAIN_LATER" =>
    Stage.fail (.tryAgainLater "node asked to resubmit later" (some "sendTransaction") none)
  | status =>
    if status ≠ "PENDING" ∧ status ≠ "DUPLICATE" then
      Stage.fail (.unexpectedStatus status (hash? hash))
    else if hash.isEmpty then
      Stage.fail (.rpc ⟨some "sendTransaction", RpcCode.internalError.number,
        "sendTransaction returned no hash", .null, .null, none⟩)
    else do
      if status = "DUPLICATE" then
        Stage.record .info ("transaction " ++ hash ++ " already known to the node")
      else Stage.record .info ("submitted transaction " ++ hash)
      pure (fresh hash (some e) (some reply))

/-- Submitting is one call; its answer decides on the rest alone. -/
theorem submit_eq (node : Node ω τ) (e : Envelope) (passphrase : Option String)
    (timeout : Option τ) :
    submit node e passphrase timeout =
      node.send e timeout >>= fun reply => classify e (answeredHash e passphrase reply) reply :=
  rfl

theorem shadows_classify (env : Surroundings ω τ) (e : Envelope) (hash : String) (reply : SendReply) :
    Shadows env allowed (classify e hash reply : Stage (Recorded ω τ) Submission)
      (classify e hash reply) := by
  unfold classify
  generalize reply.status = status
  split
  · exact .bind (.record _ _) fun _ => .bind (.recordEvents _ _ _) fun _ => .fail _
  · exact .fail _
  · next herror hlater =>
      split
      · exact .fail _
      · split
        · exact .fail _
        · split
          · exact .bind (.record _ _) fun _ => .pure _
          · exact .bind (.record _ _) fun _ => .pure _

theorem shadows_submit (env : Surroundings ω τ) (e : Envelope) (passphrase : Option String)
    (timeout : Option τ) (h : ∀ w r, allowed (.send w e timeout r)) :
    Shadows env allowed (submit env.recorded.node e passphrase timeout)
      (submit env.node e passphrase timeout) := by
  rw [submit_eq, submit_eq]
  exact .bind (.recordCall _ {} h) fun reply => shadows_classify env e _ reply

end Submission

theorem Poll.mirrors_recordOutcome (o : Outcome) :
    Mirrors env allowed (Poll.recordOutcome o : StateM (Session (Recorded ω τ)) Unit)
      (Poll.recordOutcome o : StateM (Session ω) Unit) := by
  cases o with
  | failed a => exact .bind (.record _ _) fun _ => .recordEvents _ _ _
  | success a => exact .record _ _
  | _ => exact .pure _

section Polling

variable [Timeline τ] (env : Surroundings ω τ) (settings : PollSettings τ)
  (hstatus : ∀ w hash timeout r, allowed (.status w hash timeout r))
  (hsleep : ∀ w duration, allowed (.sleep w duration))

namespace Poll

include hsleep in
theorem mirrors_pause (budget : Cancellation τ) :
    Mirrors env allowed (pause env.recorded settings budget) (pause env settings budget) := by
  refine .world_bind fun w events => ?_
  -- The wait is bounded by the clock and the cancellation, which the record leaves alone.
  have hbounded : bounded env.recorded budget (w, events) (some settings.interval) =
      bounded env budget w (some settings.interval) := rfl
  rw [hbounded]
  cases bounded env budget w (some settings.interval) with
  | none => exact .pure _
  | some delay =>
      dsimp only
      split
      · exact .pure _
      · exact .wait env delay fun w => hsleep w delay

include hstatus in
theorem mirrors_attempt (budget : Cancellation τ) (number : Int) (progress : Progress) :
    Mirrors env allowed (attempt env.recorded settings budget number progress)
      (attempt env settings budget number progress) := by
  refine .world_bind fun w _ => ?_
  have hcall : Mirrors env allowed
      (env.recorded.node.status progress.submission.hash (bounded env budget w settings.timeout)).run
      (env.node.status progress.submission.hash (bounded env budget w settings.timeout)).run :=
    .recordCall _ {} fun w r => hstatus w _ _ r
  refine .bind hcall fun r => ?_
  cases r with
  | error fault =>
      dsimp only
      split
      · exact .bind (.record _ _) fun _ => .pure _
      · exact .pure _
  | ok reply =>
      dsimp only
      cases outcome? reply progress.submission.hash with
      | error e => exact .pure _
      | ok o =>
          cases o with
          | some o => exact .bind (mirrors_recordOutcome o) fun _ => .pure _
          | none => exact .bind (.record _ _) fun _ => .pure _

include hstatus hsleep in
theorem mirrors_attempts (budget : Cancellation τ) (left : Nat) (number : Int)
    (progress : Progress) :
    Mirrors env allowed (attempts env.recorded settings budget left number progress)
      (attempts env settings budget left number progress) := by
  induction left generalizing number progress with
  | zero => exact .pure _
  | succ left ih =>
      refine .world_bind fun w events => ?_
      have hover : isOver env.recorded budget (w, events) = isOver env budget w := rfl
      rw [hover]
      split
      · exact .bind (.record _ _) fun _ => .pure _
      · refine .bind (mirrors_attempt env settings hstatus budget number progress) fun step => ?_
        cases step with
        | ended e => exact .pure _
        | goOn progress =>
            dsimp only
            split
            · exact .bind (mirrors_pause env settings hsleep budget) fun _ => ih _ _
            · exact .bind (.pure _) fun _ => ih _ _

end Poll

include hstatus hsleep in
theorem Submission.mirrors_poll (s : Submission) :
    Mirrors env allowed (s.poll env.recorded settings) (s.poll env settings) := by
  unfold Submission.poll
  split
  · exact .pure _
  · split
    · exact .pure _
    · exact .world_bind fun w _ => Poll.mirrors_attempts env settings hstatus hsleep _ _ _ _

end Polling

namespace Pipeline

/-- The same pipeline, with every call on record. -/
def recorded (p : Pipeline ω τ) : Pipeline (Recorded ω τ) τ :=
  { config := p.config, env := p.env.recorded }

variable (p : Pipeline ω τ)

theorem shadows_assemble (tx : Transaction) (sim : Simulation)
    (instructions : Value.Read (Option Int)) :
    Shadows p.env allowed (p.recorded.assemble tx sim instructions) (p.assemble tx sim instructions) :=
  .bind (.ofExcept _) fun _ => .bind (.record _ _) fun _ => .pure _

/-- Signing an envelope calls nothing but the signer. -/
theorem shadows_sign (h : ∀ w payload address r, allowed (.sign w payload address r))
    (tx : Transaction) (signer : Option String) :
    Shadows p.env allowed (p.recorded.sign tx signer) (p.sign tx signer) := by
  have hsign : ∀ address, Shadows p.env allowed
      (Envelope.sign { tx } p.env.recorded.signer address p.config.networkPassphrase)
      (Envelope.sign { tx } p.env.signer address p.config.networkPassphrase) := fun address =>
    .bind (.recordCall _ {} fun w r => h w _ address r) fun _ =>
      .bind (.ofExcept _) fun _ => .bind (.ofExcept _) fun _ => .pure _
  unfold sign
  cases PipelineError.nonEmpty? signer with
  | some address => exact .bind (.pure _) hsign
  | none => exact .bind (.ofExcept _) hsign

variable [Timeline τ]

theorem shadows_timeout : Shadows p.env allowed p.recorded.timeout p.timeout :=
  .world_bind fun _ _ => .pure _

theorem shadows_checkpoint (stage : String) (txHash : Option String) :
    Shadows p.env allowed (p.recorded.checkpoint stage txHash) (p.checkpoint stage txHash) := by
  refine .world_bind fun w _ => ?_
  -- Whether the cancellation has fired does not depend on the record.
  show Shadows p.env allowed (if p.env.hasFired w then _ else _) (if p.env.hasFired w then _ else _)
  split
  · exact .fail _
  · exact .pure _

theorem shadows_cancellable (stage : String) (txHash : Option String)
    {x : Stage (Recorded ω τ) α} {y : Stage ω α} (h : Shadows p.env allowed x y) :
    Shadows p.env allowed (p.recorded.cancellable stage txHash x) (p.cancellable stage txHash y) := by
  refine .bind (.attempt h) fun r => ?_
  cases r with
  | ok a => exact .pure a
  | error fault =>
      refine .world_bind fun w _ => ?_
      show Shadows p.env allowed (if fault.isUnreachable && p.env.hasFired w then _ else _)
        (if fault.isUnreachable && p.env.hasFired w then _ else _)
      split
      · exact .fail _
      · exact .throw _

/-! ## The stages before submission -/

theorem shadows_simulate (tx : Transaction)
    (h : ∀ w timeout r, allowed (.simulate w tx timeout r)) :
    Shadows p.env allowed (p.recorded.simulate tx) (p.simulate tx) := by
  refine .bind (p.shadows_checkpoint _ _) fun _ => p.shadows_cancellable _ _ ?_
  refine .bind p.shadows_timeout fun timeout => ?_
  cases hvalid : tx.validate with
  | error e =>
      rw [Draft.simulate_of_invalid hvalid, Draft.simulate_of_invalid hvalid]
      exact .throw _
  | ok _ =>
      rw [Draft.simulate_of_valid hvalid, Draft.simulate_of_valid hvalid]
      exact .bind (.recordCall _ {} fun w r => h w timeout r) fun sim => Draft.shadows_accept p.env sim

theorem shadows_authorize (h : ∀ w payload address r, allowed (.sign w payload address r))
    (hledger : ∀ w timeout r, allowed (.latestLedger w timeout r)) (tx : Transaction)
    (sim : Simulation) (expirationLedger : Option Int) :
    Shadows p.env allowed (p.recorded.authorize tx sim expirationLedger)
      (p.authorize tx sim expirationLedger) := by
  refine .bind (p.shadows_checkpoint _ _) fun _ => .bind (.ofExcept _) fun policy =>
    p.shadows_cancellable _ _ (Authorization.shadows_resolve p.env h _ _ _ _ ?_ _)
  exact .bind p.shadows_timeout fun timeout =>
    .bind (.recordCall _ {} fun w r => hledger w timeout r) fun _ => .pure _

/-! ## Submission and polling -/

theorem shadows_submit (e : Envelope) (h : ∀ w timeout r, allowed (.send w e timeout r)) :
    Shadows p.env allowed (p.recorded.submit e) (p.submit e) := by
  refine .bind (p.shadows_checkpoint _ _) fun _ => p.shadows_cancellable _ _ ?_
  exact .bind p.shadows_timeout fun timeout =>
    Submission.shadows_submit p.env e _ timeout fun w r => h w timeout r

theorem mirrors_poll (hstatus : ∀ w hash timeout r, allowed (.status w hash timeout r))
    (hsleep : ∀ w duration, allowed (.sleep w duration)) (s : Submission) :
    Mirrors p.env allowed (p.recorded.poll s) (p.poll s) :=
  Submission.mirrors_poll p.env p.pollSettings hstatus hsleep s

/-! ## Complete runs -/

/-- A complete run is not disturbed by its record. -/
theorem shadows_run (draft : Transaction) (options : RunOptions) :
    Shadows p.env (fun _ => True) (p.recorded.run draft options) (p.run draft options) := by
  unfold run
  refine .bind (p.shadows_simulate draft fun _ _ _ => trivial) fun sim => ?_
  refine .bind (p.shadows_assemble draft sim options.instructions) fun out => ?_
  split
  · exact .bind (.record _ _) fun _ => .pure _
  · refine .bind (p.shadows_authorize (fun _ _ _ _ => trivial) (fun _ _ _ => trivial) _ _ _)
      fun tx => ?_
    refine .bind (p.shadows_sign (fun _ _ _ _ => trivial) tx none) fun e => ?_
    refine .bind (p.shadows_submit e fun _ _ _ => trivial) fun submission => ?_
    refine .bind (.lift (p.mirrors_poll (fun _ _ _ _ => trivial) (fun _ _ => trivial) submission))
      fun ending => ?_
    exact .bind (.ofExcept _) fun _ => .pure _

end Pipeline
end LedgerFlow
