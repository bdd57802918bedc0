import LedgerFlow.Proofs.Clock
import LedgerFlow.Proofs.Pipeline.Order
import LedgerFlow.Proofs.Submission.Ending

/-!
# Cancellation is safe

Once the caller's cancellation has fired a run calls the node no more.  If it fires before the envelope
is sent, the envelope is never sent; if it fires afterwards, it ends the poll and nothing else.

Three stages look at the cancellation, before they start (`Pipeline.guard?`) and when their call could
not reach the node (`Event.failed?`).  A run in which one of them finds it fired is `Stopped` there.
Nothing is assumed of the node, of the signer and of the clock except that the cancellation stays fired
(`Surroundings.StaysFired`).
-/

namespace LedgerFlow

variable {ω τ : Type}

namespace Surroundings

variable [Timeline τ] {env : Surroundings ω τ}

/-- No call and no wait undoes the caller's cancellation. -/
def StaysFired (env : Surroundings ω τ) : Prop :=
  ∀ (c : Event ω τ) (w' : ω), c.Leads env w' → env.hasFired c.before = true →
    env.hasFired w' = true

/-- That is so if the clock never goes back, the deadline stays, and a request is not taken back. -/
theorem staysFired_of_forward [Timeline.Linear τ]
    (hnow : ∀ (c : Event ω τ) w', c.Leads env w' → env.now c.before ≤ env.now w')
    (hdeadline : ∀ (c : Event ω τ) w', c.Leads env w' →
      (env.callerCancellation w').deadline = (env.callerCancellation c.before).deadline)
    (hrequested : ∀ (c : Event ω τ) w', c.Leads env w' →
      (env.callerCancellation c.before).requested = true →
        (env.callerCancellation w').requested = true) : env.StaysFired := by
  intro c w' hcall hfired
  rw [hasFired_eq] at hfired ⊢
  exact Cancellation.hasFired_mono (hnow c w' hcall) (hdeadline c w' hcall) (hrequested c w' hcall)
    hfired

end Surroundings

namespace Event

/-- The timeout of a call to a node. -/
def timeout? : Event ω τ → Option τ
  | .simulate _ _ timeout _ | .send _ _ timeout _ | .status _ _ timeout _
  | .latestLedger _ timeout _ => timeout
  | .sign .. | .sleep .. => none

/-- The stage that a failed call belongs to, with the hash that the stage reports, and the fault. -/
def failed? (passphrase : String) : Event ω τ → Option (String × Option String × Fault)
  | .simulate _ _ _ (.error fault) => some ("simulate", none, fault)
  | .latestLedger _ _ (.error fault) => some ("authorize", none, fault)
  | .send _ e _ (.error fault) => some ("submit", some (e.tx.hash passphrase), fault)
  | _ => none

/-- The status that an envelope gets when it is sent. -/
def sentStatus? : Event ω τ → Option String
  | .send _ _ _ (.ok reply) => some reply.status
  | _ => none

theorem failed?_of_isSign {passphrase : String} {c : Event ω τ} (h : c.IsSign) :
    c.failed? passphrase = none := by
  cases c with
  | sign => rfl
  | _ => exact absurd h not_false

end Event

namespace Pipeline

variable [Timeline τ] {p : Pipeline ω τ} {draft : Transaction} {options : RunOptions}
  {m : Milestone} {w w' : ω} {log : List LogRecord} {calls : List (Event ω τ)} {c : Event ω τ}
  {stage : String} {hash : Option String} {fault : Fault}

/-! ## Stages that are stopped -/

/-- A stage whose call fails is to blame. -/
theorem Step.eq_blame {r : Except Fault Milestone} (h : Step p draft options m w calls r w')
    (hcall : c ∈ calls) (hfailed : c.failed? p.config.networkPassphrase = some (stage, hash, fault)) :
    r = .error (p.blame stage hash fault w') := by
  have hsign : ¬ c.IsSign := by
    intro hsign
    rw [Event.failed?_of_isSign hsign] at hfailed
    cases hfailed
  cases h with
  | refused => cases hcall
  | @simulate _ _ answer _ _ _ hfail _ =>
      obtain rfl := List.mem_singleton.1 hcall
      cases answer with
      | ok => cases hfailed
      | error =>
          cases hfailed
          exact hfail fault rfl
  | assemble => cases hcall
  | skip => cases hcall
  | authorize hcalls => exact absurd (hcalls c hcall) hsign
  | @askLedger _ _ _ _ answer _ _ _ _ _ hfail hcalls _ =>
      rcases List.mem_cons.1 hcall with rfl | hcall
      · cases answer with
        | ok => cases hfailed
        | error =>
            cases hfailed
            exact hfail fault rfl
      · exact absurd (hcalls c hcall) hsign
  | sign hcalls => exact absurd (hcalls c hcall) hsign
  | @send _ _ _ _ _ answer _ _ hfail _ _ =>
      obtain rfl := List.mem_singleton.1 hcall
      cases answer with
      | ok => cases hfailed
      | error =>
          cases hfailed
          exact hfail fault rfl
  | poll _ hrounds =>
      cases hrounds.isCall c hcall with
      | status => cases hfailed
      | wait => cases hfailed
  | stay => cases hcall

/-- A run that makes these calls up to a world is stopped in a stage: the stage is entered after the
cancellation has fired, or its call cannot reach the node and the cancellation has fired by then. -/
inductive Stopped (p : Pipeline ω τ) (draft : Transaction) (options : RunOptions) (w : ω)
    (log : List LogRecord) (calls : List (Event ω τ)) (stop : ω) :
    String → Option String → Prop where
  | entered {m : Milestone} {s : Session (Recorded ω τ)} {stage : String} {hash : Option String}
      (hreached : p.Reaches draft options w log m s)
      (hguard : p.guard? options m = some (stage, hash))
      (hfired : p.env.hasFired s.world.1 = true) : Stopped p draft options w log calls stop stage hash
  | unreachable {before after : List (Event ω τ)} {c : Event ω τ} {stage : String}
      {hash : Option String} {fault : Fault} (hsplit : calls = before ++ c :: after)
      (hfailed : c.failed? p.config.networkPassphrase = some (stage, hash, fault))
      (hfault : fault.isUnreachable = true)
      (hfired : p.env.hasFired (Trail.start after stop) = true) :
      Stopped p draft options w log calls stop stage hash

/-- What has fired at some point of a run has fired before every later call, and in the end. -/
theorem fired_of_split (hstays : p.env.StaysFired) {before after : List (Event ω τ)}
    (hsplit : p.calls draft options w log = before ++ after)
    (hfired : p.env.hasFired (Trail.start after
      ((p.run draft options).outcome ⟨w, log⟩).2.world) = true) :
    (∀ c ∈ after, p.env.hasFired c.before = true) ∧
      p.env.hasFired ((p.run draft options).outcome ⟨w, log⟩).2.world = true := by
  have htrail := trail_calls p draft options w log
  rw [hsplit] at htrail
  exact htrail.split.2.forall_before (fun w => p.env.hasFired w = true) hstays hfired

/-- A run that is stopped in a stage is cancelled there. -/
theorem run_of_stopped (hstays : p.env.StaysFired)
    (h : Stopped p draft options w log (p.calls draft options w log)
      ((p.run draft options).outcome ⟨w, log⟩).2.world stage hash) :
    ((p.run draft options).outcome ⟨w, log⟩).1 = .error (.pipeline (.cancelled stage hash)) := by
  cases h with
  | @entered m s _ _ hreached hguard hfired =>
      have hnext : (p.recorded.next draft options m).outcome s = _ :=
        outcome_next_of_fired hguard hfired
      exact (calls_of_fails hreached hnext).1
  | @unreachable before after c _ _ fault hsplit hfailed hfault hfired =>
      have hcall : c ∈ p.calls draft options w log := by
        rw [hsplit]
        exact List.mem_append_right _ List.mem_cons_self
      obtain ⟨m, s, hreached, new, hnew, -, hstep⟩ := exists_madeBy_of_mem hcall
      have hblame := hstep.eq_blame hnew hfailed
      obtain ⟨hresult, hworld, -⟩ := calls_of_fails hreached (Prod.ext hblame rfl)
      -- The stage ends in the last world of the run, in which the cancellation still has fired.
      rw [← List.singleton_append, ← List.append_assoc] at hsplit
      have hstop := (fired_of_split hstays hsplit hfired).2
      rw [hworld] at hstop
      rw [hresult, blame, hfault, hstop]
      rfl

/-! ## Calls to the node -/

/-- A call to the node starts before the cancellation has fired, and its timeout is the time that remains
or one that this is not less than. -/
theorem start_of_method (hcall : c ∈ p.calls draft options w log) (hnode : c.method? ≠ none) :
    p.env.hasFired c.before = false ∧ ∃ t, c.timeout? = some t ∧ ∀ left,
      (p.env.callerCancellation c.before).remaining (p.env.now c.before) = some left →
        t = left ∨ ¬ left < t := by
  -- All timeouts are given ones that are bounded by the caller's cancellation last.
  have hbounded : ∀ (w : ω) (given : τ) (timeout : Option τ),
      timeout = (p.env.callerCancellation w).bounded (p.env.now w) (some given) →
      ∃ t, timeout = some t ∧ ∀ left,
        (p.env.callerCancellation w).remaining (p.env.now w) = some left → t = left ∨ ¬ left < t := by
    rintro w given _ rfl
    obtain ⟨t, ht⟩ := (p.env.callerCancellation w).exists_bounded (p.env.now w) given
    exact ⟨t, ht, fun left hleft => Cancellation.bounded_eq_or_not_lt hleft ht⟩
  obtain ⟨m, s, -, hof⟩ := exists_callOf_of_mem hcall
  cases hof with
  | sign h =>
      cases c with
      | sign => exact absurd rfl hnode
      | _ => exact absurd h not_false
  | simulate hstart => exact ⟨hstart, hbounded _ _ _ (p.env.bounded_eq _ _)⟩
  | latestLedger hstart => exact ⟨hstart, hbounded _ _ _ (p.env.bounded_eq _ _)⟩
  | send hstart => exact ⟨hstart, hbounded _ _ _ (p.env.bounded_eq _ _)⟩
  | poll _ h =>
      cases h with
      | @status w answer hstart =>
          obtain ⟨b, hb⟩ := (Poll.budget p.pollSettings (p.env.now s.world.1)).exists_bounded
            (p.env.now w) p.config.requestTimeout
          refine ⟨(Bool.or_eq_false_iff.1 hstart).2, hbounded w b _ ?_⟩
          show Poll.bounded p.env _ w (some p.config.requestTimeout) = _
          rw [Poll.bounded_eq, hb]
      | wait => exact absurd rfl hnode

/-- When the cancellation has fired at some point, no call to the node comes after it. -/
theorem method?_of_fired (hstays : p.env.StaysFired)
    {before after : List (Event ω τ)} (hsplit : p.calls draft options w log = before ++ after)
    (hfired : p.env.hasFired (Trail.start after
      ((p.run draft options).outcome ⟨w, log⟩).2.world) = true) : ∀ c ∈ after, c.method? = none := by
  intro c hc
  by_contra hnode
  have hcall : c ∈ p.calls draft options w log := by
    rw [hsplit]
    exact List.mem_append_right _ hc
  have hlate := (fired_of_split hstays hsplit hfired).1 c hc
  rw [(start_of_method hcall hnode).1] at hlate
  cases hlate

/-- How a run that makes these calls up to a world ends without a submission. -/
inductive EndsUnsent (p : Pipeline ω τ) (draft : Transaction) (options : RunOptions) (w : ω)
    (log : List LogRecord) (calls : List (Event ω τ)) (stop : ω) : Except Fault RunResult → Prop where
  | skipped {result : RunResult} (hview : result.IsSkippedView options) :
      EndsUnsent p draft options w log calls stop (.ok result)
  | cancelled {stage : String} {hash : Option String}
      (hstopped : Stopped p draft options w log calls stop stage hash) :
      EndsUnsent p draft options w log calls stop (.error (.pipeline (.cancelled stage hash)))
  /-- A stage fails before any of them is stopped. -/
  | failed {m : Milestone} {s s' : Session (Recorded ω τ)} {fault : Fault}
      (hreached : p.Reaches draft options w log m s)
      (hnext : (p.recorded.next draft options m).outcome s = (.error fault, s'))
      (hfirst : ∀ stage hash, ¬ Stopped p draft options w log calls stop stage hash) :
      EndsUnsent p draft options w log calls stop (.error fault)

theorem endsUnsent (hstays : p.env.StaysFired)
    (hunsent : ∀ c ∈ p.calls draft options w log, c.method? ≠ some .sendTransaction) :
    EndsUnsent p draft options w log (p.calls draft options w log)
      ((p.run draft options).outcome ⟨w, log⟩).2.world
      ((p.run draft options).outcome ⟨w, log⟩).1 := by
  obtain ⟨m, s, hreached, -, ⟨result, rfl, hresult⟩ | ⟨fault, hnext, hresult⟩⟩ :=
    exists_last p draft options w log
  · rw [hresult]
    rcases exists_submitted_of_ended hreached with hview | ⟨sim, tx, e, submission, s₁, hsubmitted⟩
    · exact .skipped hview
    · obtain ⟨before, timeout, answer, hsend⟩ := exists_send_of_submitted hsubmitted
      exact absurd rfl (hunsent _ (mem_calls_of_reached hsubmitted hsend))
  · by_cases hstopped : ∃ stage hash, Stopped p draft options w log (p.calls draft options w log)
        ((p.run draft options).outcome ⟨w, log⟩).2.world stage hash
    · obtain ⟨stage, hash, hstopped⟩ := hstopped
      rw [run_of_stopped hstays hstopped]
      exact .cancelled hstopped
    · rw [hresult]
      exact .failed hreached (Prod.ext hnext rfl) fun stage hash h => hstopped ⟨stage, hash, h⟩

/-! ## After the submission -/

/-- How a run that makes these calls ends after its submission. -/
inductive EndsPolled (env : Surroundings ω τ) (calls : List (Event ω τ)) :
    Except Fault RunResult → Prop where
  | timeout {result : RunResult} {s : Submission} {attempts : Int} {lastError : Option String}
      (hs : result.submission = some s) (houtcome : s.outcome = .timeout s.hash attempts lastError) :
      EndsPolled env calls (.ok result)
  /-- The node has answered, to a call that started before the cancellation had fired. -/
  | answered {result : RunResult} {s : Submission} {before : ω} {timeout : Option τ}
      {answer : Except Fault StatusReply} (hs : result.submission = some s)
      (hcall : .status before s.hash timeout answer ∈ calls) (hstart : env.hasFired before = false)
      (houtcome : (∃ a, s.outcome = .success a ∧ Poll.Reports s.hash "SUCCESS" a answer) ∨
        ∃ a, s.outcome = .failed a ∧ Poll.Reports s.hash "FAILED" a answer) :
      EndsPolled env calls (.ok result)
  /-- A status call has failed, or its answer is unknown. -/
  | failed {fault : Fault} {before : ω} {hash : String} {timeout : Option τ}
      {answer : Except Fault StatusReply} (hcall : .status before hash timeout answer ∈ calls)
      (hstart : env.hasFired before = false) (hfault : Poll.Breaks hash fault answer) :
      EndsPolled env calls (.error fault)

/-- A run that is cancelled after its submission was told so by the node. -/
theorem EndsPolled.status_of_cancelled {env : Surroundings ω τ}
    (h : EndsPolled env calls (.error (.pipeline (.cancelled stage hash)))) :
    ∃ before polled timeout,
      .status before polled timeout (.error (.pipeline (.cancelled stage hash))) ∈ calls := by
  cases h with
  | @failed _ before polled timeout answer hcall hstart hfault =>
      rcases hfault with ⟨reply, -, -, hunknown⟩ | ⟨rfl, -⟩
      · cases hunknown
      · exact ⟨before, polled, timeout, hcall⟩

/-- A run that has submitted its envelope ends as the poll does. -/
theorem run_of_polled {sim : Simulation} {tx : Transaction} {e : Envelope} {submission : Submission}
    {ending : Poll.Ending} {s s' : Session (Recorded ω τ)}
    (h : p.Reaches draft options w log (.submitted sim tx e submission) s)
    (hnext : (p.recorded.next draft options (.submitted sim tx e submission)).outcome s =
      (ending.2.map fun _ => .ended ⟨sim, tx, some e, some ending.1⟩, s')) :
    ((p.run draft options).outcome ⟨w, log⟩).1 =
      ending.2.map fun _ => ⟨sim, tx, some e, some ending.1⟩ := by
  obtain ⟨polled, r⟩ := ending
  cases r with
  | error fault => exact (calls_of_fails h hnext).1
  | ok o =>
      have hrun := run_eq_ok (h.step hnext)
      rw [outcome_run_recorded] at hrun
      exact hrun

/-- The end of the poll of a submission is one of the ends of a run. -/
theorem endsPolled_of_submitted (haccepted : p.pollSettings.refusal? = none) {sim : Simulation}
    {tx : Transaction} {e : Envelope} {submission : Submission} {s : Session (Recorded ω τ)}
    (h : p.Reaches draft options w log (.submitted sim tx e submission) s) :
    EndsPolled p.env (p.calls draft options w log) ((p.run draft options).outcome ⟨w, log⟩).1 := by
  obtain ⟨-, hash, reply, rfl⟩ := h.isCoherent
  have hpending : (Submission.fresh hash (some e) (some reply)).isTerminal = false := rfl
  obtain ⟨calls, ending, s', hnext, hcalls, hrounds⟩ := exists_rounds haccepted hpending s
  have hmem : ∀ c ∈ calls, c ∈ p.calls draft options w log := by
    intro c hc
    refine (next_prefix_calls h).subset ?_
    rw [hnext]
    show c ∈ s'.world.2
    rw [hcalls]
    exact List.mem_append_right _ hc
  obtain ⟨hconcluded, hsettles⟩ := hrounds.settles hpending rfl
  rw [run_of_polled h hnext]
  rcases hsettles with ⟨-, -, htimeout⟩ | ⟨earlier, last, hsplit, -, hlast⟩
  · rw [htimeout] at hconcluded ⊢
    rw [hconcluded]
    exact .timeout rfl rfl
  · -- The last answer is that of a status call, which no attempt starts after firing.
    have hanswer : last ∈ statusAnswers calls := by
      rw [hsplit]
      exact List.mem_append_right _ List.mem_cons_self
    obtain ⟨before, hash', timeout, hcall⟩ := exists_of_mem_statusAnswers hanswer
    cases hrounds.isCall _ hcall with
    | status hstart =>
        have hunfired := (Bool.or_eq_false_iff.1 hstart).2
        rcases Poll.conclusion_eq_iff.1 hlast with
          ⟨a, ha, hreports⟩ | ⟨a, ha, hreports⟩ | ⟨fault, hfault, hbreaks⟩
        · rw [ha] at hconcluded ⊢
          rw [hconcluded]
          exact .answered rfl (hmem _ hcall) hunfired (.inl ⟨a, rfl, hreports⟩)
        · rw [ha] at hconcluded ⊢
          rw [hconcluded]
          exact .answered rfl (hmem _ hcall) hunfired (.inr ⟨a, rfl, hreports⟩)
        · rw [hfault]
          exact .failed (hmem _ hcall) hunfired hbreaks

/-- A run whose poll is refused ends with the fault, and asks for no status. -/
theorem run_of_refused (hrefused : p.pollSettings.refusal? = some fault) {sim : Simulation}
    {tx : Transaction} {e : Envelope} {submission : Submission} {s : Session (Recorded ω τ)}
    (h : p.Reaches draft options w log (.submitted sim tx e submission) s) :
    ((p.run draft options).outcome ⟨w, log⟩).1 = .error fault ∧
      ∀ c ∈ p.calls draft options w log, c.method? ≠ some .getTransaction := by
  obtain ⟨-, hash, reply, rfl⟩ := h.isCoherent
  constructor
  · exact (calls_of_fails h (next_submitted_of_refused hrefused rfl s)).1
  · intro c hc hmethod
    obtain ⟨m, s, -, hof⟩ := exists_callOf_of_mem hc
    cases hof with
    | sign hsign =>
        cases c with
        | sign => cases hmethod
        | _ => exact absurd hsign not_false
    | simulate => cases hmethod
    | latestLedger => cases hmethod
    | send => cases hmethod
    | poll haccepted =>
        rw [hrefused] at haccepted
        cases haccepted

/-- A stage whose envelope is accepted leads to a submission. -/
theorem Step.of_accepted {r : Except Fault Milestone} (h : Step p draft options m w calls r w')
    {before : ω} {e : Envelope} {timeout : Option τ} {reply : SendReply}
    (hsend : .send before e timeout (.ok reply) ∈ calls)
    (hstatus : reply.status = "PENDING" ∨ reply.status = "DUPLICATE") :
    ∃ sim tx submission, r = .ok (.submitted sim tx e submission) := by
  have hof := h.callOf _ hsend
  cases hof with
  | sign hsign => exact absurd hsign not_false
  | poll _ hcall => cases hcall
  | send =>
      cases h with
      | refused => cases hsend
      | send _ _ hresult haccepted =>
          cases List.mem_singleton.1 hsend
          obtain ⟨m', hm'⟩ := haccepted reply rfl hstatus
          obtain ⟨reply', hash, -, rfl⟩ := hresult m' hm'
          exact ⟨_, _, _, hm'⟩

/-- An accepted envelope is a submission. -/
theorem exists_submitted_of_accepted {before : ω} {e : Envelope} {timeout : Option τ}
    {reply : SendReply} (hsend : .send before e timeout (.ok reply) ∈ p.calls draft options w log)
    (hstatus : reply.status = "PENDING" ∨ reply.status = "DUPLICATE") :
    ∃ sim tx submission s, p.Reaches draft options w log (.submitted sim tx e submission) s := by
  obtain ⟨m, s, hreached, calls, hmem, -, hstep⟩ := exists_madeBy_of_mem hsend
  obtain ⟨sim, tx, submission, hresult⟩ := hstep.of_accepted hmem hstatus
  exact ⟨sim, tx, submission, _, hreached.step (Prod.ext hresult rfl)⟩

/-! ## Safety -/

/-- What a cancellation does to a run that makes these calls up to a world and has this result. -/
structure SafelyCancelled (p : Pipeline ω τ) (draft : Transaction) (options : RunOptions) (w : ω)
    (log : List LogRecord) (calls : List (Event ω τ)) (stop : ω) (result : Except Fault RunResult) :
    Prop where
  /-- Once the cancellation has fired the node is not called any more. -/
  not_called : ∀ before after, calls = before ++ after →
    p.env.hasFired (Trail.start after stop) = true → ∀ c ∈ after, c.method? = none
  /-- A call to the node has a timeout, and it is the time that remains or one that this is not less than. -/
  timeout_bounded : ∀ c ∈ calls, c.method? ≠ none → ∃ t, c.timeout? = some t ∧ ∀ left,
    (p.env.callerCancellation c.before).remaining (p.env.now c.before) = some left →
      t = left ∨ ¬ left < t
  /-- If the cancellation has fired before the envelope is sent, it is never sent. -/
  not_sent : ∀ before after, calls = before ++ after →
    p.env.hasFired (Trail.start after stop) = true →
    (∀ c ∈ before, c.method? ≠ some .sendTransaction) →
      (∀ c ∈ calls, c.method? ≠ some .sendTransaction) ∧
        EndsUnsent p draft options w log calls stop result
  /-- A run that is stopped in a stage fails there, so no other stage can be stopped as well. -/
  cancelled : ∀ stage hash, Stopped p draft options w log calls stop stage hash →
    result = .error (.pipeline (.cancelled stage hash))
  /-- After an accepted submission the run ends as its poll does, and a poll whose time is too large to be
  computed fails without a call.  The run is not cancelled, unless that is what the node itself answers. -/
  accepted : ∀ before e timeout reply, .send before e timeout (.ok reply) ∈ calls →
    reply.status = "PENDING" ∨ reply.status = "DUPLICATE" →
      (p.pollSettings.isTooLong = false → EndsPolled p.env calls result) ∧
        (p.pollSettings.isTooLong = true → result = .error (.malformed .tooLarge) ∧
          ∀ c ∈ calls, c.method? ≠ some .getTransaction) ∧
        ∀ stage hash, result = .error (.pipeline (.cancelled stage hash)) →
          ∃ before polled timeout,
            .status before polled timeout (.error (.pipeline (.cancelled stage hash))) ∈ calls

/-- In a linear order, no timeout of a call to the node is longer than the time that remains. -/
theorem SafelyCancelled.timeout_le [Timeline.Linear τ] {stop : ω} {result : Except Fault RunResult}
    (h : SafelyCancelled p draft options w log calls stop result) (hcall : c ∈ calls)
    (hnode : c.method? ≠ none) : ∃ t, c.timeout? = some t ∧ ∀ left,
      (p.env.callerCancellation c.before).remaining (p.env.now c.before) = some left → t ≤ left := by
  obtain ⟨t, htimeout, ht⟩ := h.timeout_bounded c hcall hnode
  refine ⟨t, htimeout, fun left hleft => ?_⟩
  rcases ht left hleft with rfl | hnot
  · exact Timeline.Linear.le_refl t
  · exact Timeline.Linear.le_of_not_lt hnot

/-- An answer that takes two seconds. -/
def slowly {α : Type} (answer : α) : Stage Rat α := do
  modify fun s => { s with world := s.world + 2 }
  pure answer

theorem le_of_slowly {α : Type} {answer : α} {r : Except Fault α} {w w' : Rat}
    {log log' : List LogRecord} (h : (slowly answer).outcome ⟨w, log⟩ = (r, ⟨w', log'⟩)) : w ≤ w' := by
  have hworld : w + 2 = w' := congrArg (fun o => o.2.world) h
  linarith

/-- A pipeline with a clock and a deadline.  Every call to the node takes two seconds; the node accepts
every envelope and knows no transaction. -/
def delayed (deadline : Rat) : Pipeline Rat Rat where
  config := agreeable.config
  env :=
    { node :=
        { simulate := fun _ _ => slowly {}
          send := fun _ _ => slowly { status := "PENDING", hash := "ab" }
          status := fun _ _ => slowly { status := "NOT_FOUND" }
          latestLedger := fun _ => slowly { sequence := 100 } }
      signer := fun payload _ => pure (.bytes payload)
      now := fun w => w
      cancellation := fun _ => some { deadline := some deadline, requested := false }
      sleep := fun duration w => w + Cancellation.clampToZero duration }

theorem staysFired_delayed (deadline : Rat) : (delayed deadline).env.StaysFired := by
  refine Surroundings.staysFired_of_forward ?_ (fun _ _ _ => rfl) (fun _ _ _ h => h)
  intro c w' hcall
  cases c with
  | sign =>
      obtain ⟨log, log', hout⟩ := hcall
      exact le_of_eq (congrArg (fun o => o.2.world) hout)
  | sleep before duration =>
      obtain rfl : w' = before + Cancellation.clampToZero duration := hcall
      have hnonneg := Cancellation.clampToZero_nonneg duration
      show before ≤ before + Cancellation.clampToZero duration
      linarith
  | _ =>
      obtain ⟨log, log', hout⟩ := hcall
      exact le_of_slowly hout

/-- A contract call of one account. -/
def lonelyDraft : Transaction where
  sourceAccount := "GAAAAAAAAAAAAAAAAAAAAAAAAAAAAAAAAAAAAAAAAAAAAAAAAAAAAWHF"
  seqNum := 1
  operations := [{ body := .invokeContract (.text "C") (.text "f") (.list [.int 1]) [] }]

/-- A pipeline with a deadline that is far away, and more attempts than the arithmetic of its clock can
count. -/
def endless : Pipeline Unit Limited where
  config :=
    { rpcUrl := none, networkPassphrase := "test", baseFee := 100, authHorizon := 60
      pollInterval := .real 1, pollAttempts := 10 ^ 309, requestTimeout := ⟨30⟩, maxRetries := 0
      backoffFactor := 0, logLevel := "WARNING", userAgent := "" }
  env := { Poll.prompt with cancellation := fun _ => some { deadline := some ⟨1000⟩ } }

end Pipeline
end LedgerFlow
