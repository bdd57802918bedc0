import LedgerFlow.Proofs.Pipeline.Course
import LedgerFlow.Proofs.Pipeline.Parts
import LedgerFlow.Proofs.Submission.Rounds

/-!
# The steps of a run

`Pipeline.Step` says which calls the stage after a milestone makes, one constructor for each way in
which a stage can go: it fails before it calls anything, it asks the node once, it asks signers, it
polls.  It also says what holds where a call starts, and what a failed call makes of the stage.
`exists_step` is the one lemma about the stages: in recorded surroundings each of them is such a step.
-/

namespace LedgerFlow

variable {ω τ α β : Type}

/-- One milestone follows another in a run. -/
inductive Milestone.Follows (options : RunOptions) : Milestone → Milestone → Prop where
  | simulated {sim : Simulation} : Follows options .drafted (.simulated sim)
  | assembled {sim : Simulation} {tx : Transaction} :
      Follows options (.simulated sim) (.assembled sim tx)
  /-- A read-only call is not submitted. -/
  | skipped {sim : Simulation} {tx : Transaction} (hskip : options.skipView = true)
      (hview : tx.isView = true) :
      Follows options (.assembled sim tx) (.ended { simulation := sim, transaction := tx })
  | authorized {sim : Simulation} {tx out : Transaction} :
      Follows options (.assembled sim tx) (.authorized sim out)
  | signed {sim : Simulation} {tx : Transaction} {e : Envelope} (htx : e.tx = tx) :
      Follows options (.authorized sim tx) (.signed sim tx e)
  | submitted {sim : Simulation} {tx : Transaction} {e : Envelope} {hash : String}
      {reply : SendReply} : Follows options (.signed sim tx e)
        (.submitted sim tx e (.fresh hash (some e) (some reply)))
  | polled {sim : Simulation} {tx : Transaction} {e : Envelope} {s polled : Submission} :
      Follows options (.submitted sim tx e s) (.ended ⟨sim, tx, some e, some polled⟩)
  | stayed {result : RunResult} : Follows options (.ended result) (.ended result)

namespace Pipeline

variable {p : Pipeline ω τ}

/-- The calls that the stage after a milestone makes, from a world to a world, and its result. -/
inductive Step [Timeline τ] (p : Pipeline ω τ) (draft : Transaction) (options : RunOptions) :
    Milestone → ω → List (Event ω τ) → Except Fault Milestone → ω → Prop where
  /-- A stage fails before it calls anything. -/
  | refused {m : Milestone} {w : ω} {fault : Fault} : Step p draft options m w [] (.error fault) w
  /-- The node is asked to simulate a valid draft. -/
  | simulate {w w' : ω} {answer : Except Fault Simulation} {r : Except Fault Milestone}
      (hstart : p.env.hasFired w = false) (hvalid : draft.validate = .ok ())
      (hfail : ∀ fault, answer = .error fault → r = .error (p.blame "simulate" none fault w'))
      (hresult : ∀ m, r = .ok m → ∃ sim, answer = .ok sim ∧ m = .simulated sim) :
      Step p draft options .drafted w [.simulate w draft (p.callTimeout w) answer] r w'
  | assemble {sim : Simulation} {tx : Transaction} {w : ω} :
      Step p draft options (.simulated sim) w [] (.ok (.assembled sim tx)) w
  /-- A read-only call ends the run. -/
  | skip {sim : Simulation} {tx : Transaction} {w : ω} (hskip : options.skipView = true)
      (hview : tx.isView = true) : Step p draft options (.assembled sim tx) w []
        (.ok (.ended { simulation := sim, transaction := tx })) w
  /-- Requirements are signed up to an explicit ledger, or nothing needs a signature. -/
  | authorize {sim : Simulation} {tx : Transaction} {w w' : ω} {calls : List (Event ω τ)}
      {r : Except Fault Milestone} (hcalls : ∀ c ∈ calls, c.IsSign)
      (hresult : ∀ m, r = .ok m → ∃ out, m = .authorized sim out) :
      Step p draft options (.assembled sim tx) w calls r w'
  /-- The node is asked for its latest ledger, and then requirements are signed. -/
  | askLedger {sim : Simulation} {tx : Transaction} {w w' : ω} {answer : Except Fault LatestLedger}
      {calls : List (Event ω τ)} {r : Except Fault Milestone} (hstart : p.env.hasFired w = false)
      (htarget : options.expirationLedger = none)
      (hneeds : ((requirements sim).getD tx.authEntries).any tx.needsSignature = true)
      (hfail : ∀ fault, answer = .error fault → r = .error (p.blame "authorize" none fault w'))
      (hcalls : ∀ c ∈ calls, c.IsSign)
      (hresult : ∀ m, r = .ok m → ∃ out, m = .authorized sim out) :
      Step p draft options (.assembled sim tx) w
        (.latestLedger w (p.callTimeout w) answer :: calls) r w'
  /-- The envelope of the authorized transaction is signed. -/
  | sign {sim : Simulation} {tx : Transaction} {w w' : ω} {calls : List (Event ω τ)}
      {r : Except Fault Milestone} (hcalls : ∀ c ∈ calls, c.IsSign)
      (hresult : ∀ m, r = .ok m → ∃ e, m = .signed sim tx e ∧ e.tx = tx) :
      Step p draft options (.authorized sim tx) w calls r w'
  /-- The signed envelope is sent. -/
  | send {sim : Simulation} {tx : Transaction} {e : Envelope} {w w' : ω}
      {answer : Except Fault SendReply} {r : Except Fault Milestone}
      (hstart : p.env.hasFired w = false)
      (hfail : ∀ fault, answer = .error fault →
        r = .error (p.blame "submit" (some (e.tx.hash p.config.networkPassphrase)) fault w'))
      (hresult : ∀ m, r = .ok m → ∃ reply hash, answer = .ok reply ∧
        m = .submitted sim tx e (.fresh hash (some e) (some reply)))
      (haccepted : ∀ reply, answer = .ok reply →
        reply.status = "PENDING" ∨ reply.status = "DUPLICATE" → ∃ m, r = .ok m) :
      Step p draft options (.signed sim tx e) w [.send w e (p.callTimeout w) answer] r w'
  /-- The submission is polled in rounds. -/
  | poll {sim : Simulation} {tx : Transaction} {e : Envelope} {s : Submission} {w w' : ω}
      {calls : List (Event ω τ)} {ending : Poll.Ending} (haccepted : p.pollSettings.refusal? = none)
      (hrounds : Poll.Rounds p.env p.pollSettings (Poll.budget p.pollSettings (p.env.now w))
        p.config.pollAttempts.toNat 1 { submission := s } w calls w' ending) :
      Step p draft options (.submitted sim tx e s) w calls
        (ending.2.map fun _ => .ended ⟨sim, tx, some e, some ending.1⟩) w'
  | stay {result : RunResult} {w : ω} :
      Step p draft options (.ended result) w [] (.ok (.ended result)) w

/-! ## Guards -/

/-- The stage that looks at the cancellation when a run is at a milestone, with the hash that it
reports. -/
def guard? (p : Pipeline ω τ) (options : RunOptions) : Milestone → Option (String × Option String)
  | .drafted => some ("simulate", none)
  | .assembled _ tx => if options.skipView && tx.isView then none else some ("authorize", none)
  | .signed _ _ e => some ("submit", some (e.tx.hash p.config.networkPassphrase))
  | _ => none

section Steps

variable [Timeline τ] {draft : Transaction} {options : RunOptions}

/-- A stage that finds the cancellation fired fails, and calls nothing. -/
theorem outcome_next_of_fired {m : Milestone} {s : Session ω} {stage : String} {hash : Option String}
    (hguard : p.guard? options m = some (stage, hash))
    (hfired : p.env.hasFired s.world = true) :
    (p.next draft options m).outcome s = (.error (.pipeline (.cancelled stage hash)), s) := by
  cases m with
  | drafted =>
      cases hguard
      refine (Stage.outcome_bind_pure _ _ s).trans ?_
      rw [simulate, outcome_guarded, if_pos hfired]
      rfl
  | assembled sim tx =>
      by_cases hview : (options.skipView && tx.isView) = true
      · rw [guard?, if_pos hview] at hguard
        cases hguard
      · rw [guard?, if_neg hview] at hguard
        cases hguard
        rw [next, if_neg hview, Stage.outcome_bind_pure, outcome_authorize, if_pos hfired]
        rfl
  | signed sim tx e =>
      cases hguard
      refine (Stage.outcome_bind_pure _ _ s).trans ?_
      rw [submit, outcome_guarded, if_pos hfired]
      rfl
  | _ => cases hguard

/-! ## What steps lead to -/

variable {m m' : Milestone} {w w' : ω} {calls : List (Event ω τ)} {sim : Simulation}
  {tx : Transaction} {e : Envelope} {submission : Submission}

/-- A step that succeeds leads to the milestone that follows. -/
theorem Step.follows (h : Step p draft options m w calls (.ok m') w') :
    Milestone.Follows options m m' := by
  generalize hr : (Except.ok m' : Except Fault Milestone) = r at h
  cases h with
  | refused => cases hr
  | simulate _ _ _ hresult =>
      obtain ⟨out, -, rfl⟩ := hresult m' hr.symm
      exact .simulated
  | assemble =>
      cases hr
      exact .assembled
  | skip hskip hview =>
      cases hr
      exact .skipped hskip hview
  | authorize _ hresult =>
      obtain ⟨out, rfl⟩ := hresult m' hr.symm
      exact .authorized
  | askLedger _ _ _ _ _ hresult =>
      obtain ⟨out, rfl⟩ := hresult m' hr.symm
      exact .authorized
  | sign _ hresult =>
      obtain ⟨out, rfl, htx⟩ := hresult m' hr.symm
      exact .signed htx
  | send _ _ hresult =>
      obtain ⟨reply, hash, -, rfl⟩ := hresult m' hr.symm
      exact .submitted
  | poll =>
      obtain ⟨o, -, rfl⟩ := exists_of_map_eq_ok hr.symm
      exact .polled
  | stay =>
      cases hr
      exact .stayed

/-- What leads to a submission sends its envelope. -/
theorem Step.exists_send
    (h : Step p draft options m w calls (.ok (.submitted sim tx e submission)) w') :
    ∃ timeout answer, calls = [.send w e timeout answer] := by
  obtain rfl : m = .signed sim tx e := by
    cases h.follows
    rfl
  generalize hr : (Except.ok (Milestone.submitted sim tx e submission) : Except Fault Milestone) = r
    at h
  cases h with
  | refused => cases hr
  | send => exact ⟨_, _, rfl⟩

/-- A submission leads to the end of its poll. -/
theorem Step.of_submitted
    (h : Step p draft options (.submitted sim tx e submission) w calls (.ok m') w') :
    ∃ ending : Poll.Ending, Poll.Rounds p.env p.pollSettings
        (Poll.budget p.pollSettings (p.env.now w)) p.config.pollAttempts.toNat 1
        { submission := submission } w calls w' ending ∧
      m' = .ended ⟨sim, tx, some e, some ending.1⟩ := by
  generalize hr : (Except.ok m' : Except Fault Milestone) = r at h
  cases h with
  | refused => cases hr
  | @poll _ _ _ _ _ _ _ ending _ hrounds =>
      obtain ⟨o, -, hm⟩ := exists_of_map_eq_ok hr.symm
      exact ⟨ending, hrounds, hm.symm⟩

/-! ## Stages are steps -/

/-- The stage after a milestone is a step from a session. -/
def Steps (p : Pipeline ω τ) (draft : Transaction) (options : RunOptions) (m : Milestone)
    (s : Session (Recorded ω τ)) : Prop :=
  ∃ calls, ((p.recorded.next draft options m).outcome s).2.world.2 = s.world.2 ++ calls ∧
    Step p draft options m s.world.1 calls ((p.recorded.next draft options m).outcome s).1
      ((p.recorded.next draft options m).outcome s).2.world.1

theorem steps_of_refused {m : Milestone} {s : Session (Recorded ω τ)} (fault : Fault)
    (h : (p.recorded.next draft options m).outcome s = (.error fault, s)) :
    Steps p draft options m s := by
  refine ⟨[], ?_, ?_⟩
  · rw [h, List.append_nil]
  · rw [h]
    exact .refused

/-- A guarded stage that fails before it calls anything is a step. -/
theorem steps_of_guarded_fault {m : Milestone} {s : Session (Recorded ω τ)} {stage : String}
    {hash : Option String} {body : Stage (Recorded ω τ) β} {toMilestone : β → Milestone}
    (fault : Fault)
    (hnext : p.recorded.next draft options m = (p.recorded.checkpoint stage hash >>= fun _ =>
      p.recorded.cancellable stage hash body) >>= fun b => pure (toMilestone b))
    (hstart : p.env.hasFired s.world.1 = false) (hbody : body.outcome s = (.error fault, s)) :
    Steps p draft options m s := by
  have hstage := p.recorded.outcome_guarded stage hash body s
  have hfired : p.recorded.env.hasFired s.world = false := hstart
  rw [hfired, if_neg Bool.false_ne_true, hbody] at hstage
  refine steps_of_refused (p.recorded.blame stage hash fault s.world) ?_
  rw [hnext, Stage.outcome_bind_pure, hstage]
  rfl

/-- A guarded stage that makes one call is a step, if it is one however the call is answered. -/
theorem steps_of_guarded_call {m : Milestone} {s : Session (Recorded ω τ)} {stage : String}
    {hash : Option String} (event : ω → Except Fault α → Event ω τ) (x : Stage ω α)
    (rest : α → Stage (Recorded ω τ) β) {body : Stage (Recorded ω τ) β} {toMilestone : β → Milestone}
    (hnext : p.recorded.next draft options m = (p.recorded.checkpoint stage hash >>= fun _ =>
      p.recorded.cancellable stage hash body) >>= fun b => pure (toMilestone b))
    (hstart : p.env.hasFired s.world.1 = false)
    (hbody : body.outcome s = (recordCall event x >>= rest).outcome s)
    (hrest : ∀ a s, ((rest a).outcome s).2.world = s.world)
    (hstep : ∀ answer s₁ w', Step p draft options m s.world.1 [event s.world.1 answer]
      (((answer.bind fun a => ((rest a).outcome s₁).1).mapError fun fault =>
        p.blame stage hash fault w').map toMilestone) w') : Steps p draft options m s := by
  have hstage := p.recorded.outcome_guarded stage hash body s
  have hfired : p.recorded.env.hasFired s.world = false := hstart
  rw [hfired, if_neg Bool.false_ne_true, hbody] at hstage
  obtain ⟨answer, s₁, hresult, hworld⟩ := outcome_recordCall_bind event x hrest s
  have houtcome := Stage.outcome_bind_pure (p.recorded.checkpoint stage hash >>= fun _ =>
    p.recorded.cancellable stage hash body) toMilestone s
  rw [← hnext, hstage, hresult, hworld] at houtcome
  refine ⟨[event s.world.1 answer], ?_, ?_⟩
  · rw [houtcome]
    exact congrArg Prod.snd hworld
  · rw [houtcome, hworld]
    exact hstep answer s₁ s₁.world.1

/-- What a successful stage of one call has got and made. -/
theorem exists_of_answer {answer : Except Fault α} {rest : α → Except Fault β}
    {blame : Fault → Fault} {toMilestone : β → Milestone} {m : Milestone}
    (h : ((answer.bind rest).mapError blame).map toMilestone = .ok m) :
    ∃ a b, answer = .ok a ∧ rest a = .ok b ∧ m = toMilestone b := by
  cases answer with
  | error fault => cases h
  | ok a =>
      change ((rest a).mapError blame).map toMilestone = .ok m at h
      cases hrest : rest a with
      | error fault =>
          rw [hrest] at h
          cases h
      | ok b =>
          rw [hrest] at h
          exact ⟨a, b, rfl, hrest, (Except.ok.inj h).symm⟩

theorem steps_drafted {s : Session (Recorded ω τ)} (hstart : p.env.hasFired s.world.1 = false) :
    Steps p draft options .drafted s := by
  cases hvalid : draft.validate with
  | error e =>
      refine steps_of_guarded_fault (Draft.refusal draft e) rfl hstart ?_
      rw [outcome_timeout_bind, Draft.simulate_of_invalid hvalid]
      rfl
  | ok _ =>
      refine steps_of_guarded_call (fun w => .simulate w draft (p.callTimeout s.world.1))
        (p.env.node.simulate draft (p.callTimeout s.world.1)) Draft.accept rfl hstart ?_
        (fun sim s => (Draft.shadows_accept p.env sim).world_eq s) ?_
      · rw [outcome_timeout_bind, Draft.simulate_of_valid hvalid]
        rfl
      · intro answer s₁ w'
        refine .simulate hstart hvalid ?_ ?_
        · rintro fault rfl
          rfl
        · intro m hm
          obtain ⟨sim, out, hanswer, hout, rfl⟩ := exists_of_answer hm
          obtain rfl := Draft.accept_eq_ok (Prod.ext hout rfl)
          exact ⟨_, hanswer, rfl⟩

theorem steps_signed (sim : Simulation) (tx : Transaction) (e : Envelope)
    {s : Session (Recorded ω τ)} (hstart : p.env.hasFired s.world.1 = false) :
    Steps p draft options (.signed sim tx e) s := by
  refine steps_of_guarded_call (fun w => .send w e (p.callTimeout s.world.1))
    (p.env.node.send e (p.callTimeout s.world.1))
    (fun reply => Submission.classify e
      (Submission.answeredHash e (some p.config.networkPassphrase) reply) reply) rfl hstart ?_
    (fun reply s => (Submission.shadows_classify p.env e _ reply).world_eq s) ?_
  · rfl
  · intro answer s₁ w'
    refine .send hstart ?_ ?_ ?_
    · rintro fault rfl
      rfl
    · intro m hm
      obtain ⟨reply, submission, hanswer, hsubmission, rfl⟩ := exists_of_answer hm
      obtain rfl := Submission.classify_eq_ok (Prod.ext hsubmission rfl)
      exact ⟨reply, _, hanswer, rfl⟩
    · rintro reply rfl hstatus
      obtain ⟨submission, s', hclassify⟩ := Submission.exists_classify_eq_ok hstatus
        (Submission.isEmpty_answeredHash e p.config.networkPassphrase reply) s₁
      exact ⟨_, congrArg (fun r : Except Fault Submission × Session (Recorded ω τ) =>
        (r.1.mapError _).map _) hclassify⟩

theorem steps_simulated (sim : Simulation) (s : Session (Recorded ω τ)) :
    Steps p draft options (.simulated sim) s := by
  have hnext : (p.recorded.next draft options (.simulated sim)).outcome s =
      (((p.recorded.assemble draft sim options.instructions).outcome s).1.map (.assembled sim),
        ((p.recorded.assemble draft sim options.instructions).outcome s).2) :=
    Stage.outcome_bind_pure _ _ s
  have hworld := Shadows.world_eq (p.shadows_assemble draft sim options.instructions) s
  rcases hout : (p.recorded.assemble draft sim options.instructions).outcome s with ⟨r, s'⟩
  rw [hout] at hnext hworld
  dsimp only at hworld
  refine ⟨[], ?_, ?_⟩
  · rw [hnext, hworld, List.append_nil]
  · rw [hnext, hworld]
    cases r with
    | error fault => exact .refused
    | ok tx => exact .assemble

theorem steps_authorized (sim : Simulation) (tx : Transaction) (s : Session (Recorded ω τ)) :
    Steps p draft options (.authorized sim tx) s := by
  have hnext : (p.recorded.next draft options (.authorized sim tx)).outcome s =
      (((p.recorded.sign tx none).outcome s).1.map (.signed sim tx),
        ((p.recorded.sign tx none).outcome s).2) := Stage.outcome_bind_pure _ _ s
  have hshadows : Shadows p.env Event.IsSign (p.recorded.sign tx none) (p.sign tx none) :=
    p.shadows_sign (fun _ _ _ _ => trivial) tx none
  obtain ⟨calls, hcalls, -, hsign⟩ := hshadows.exists_calls s
  rcases hout : (p.recorded.sign tx none).outcome s with ⟨r, s'⟩
  rw [hout] at hnext hcalls
  refine ⟨calls, ?_, ?_⟩
  · rw [hnext, hcalls]
  · rw [hnext]
    refine .sign hsign ?_
    intro m hm
    cases r with
    | error fault => cases hm
    | ok e => exact ⟨e, (Except.ok.inj hm).symm, tx_of_sign hout⟩

theorem steps_ended (result : RunResult) (s : Session (Recorded ω τ)) :
    Steps p draft options (.ended result) s :=
  ⟨[], (List.append_nil _).symm, .stay⟩

/-- A submission leads to the end of its poll. -/
theorem next_submitted {sim : Simulation} {tx : Transaction} {e : Envelope} {submission : Submission}
    {ending : Poll.Ending} {s s' : Session ω} (hpoll : (p.poll submission).run s = (ending, s')) :
    (p.next draft options (.submitted sim tx e submission)).outcome s =
      (ending.2.map fun _ => .ended ⟨sim, tx, some e, some ending.1⟩, s') := by
  have hlift : (liftM (p.poll submission) : Stage ω Poll.Ending).outcome s = (.ok ending, s') := by
    rw [Stage.outcome_monadLift, hpoll]
  refine (Stage.outcome_bind_of_ok hlift).trans ?_
  rw [Stage.outcome_bind, Stage.outcome_ofExcept]
  cases ending.2 <;> rfl

/-- With settings that are not refused, the stage after a submission polls in rounds. -/
theorem exists_rounds (haccepted : p.pollSettings.refusal? = none) (hpending : submission.isTerminal = false)
    (s : Session (Recorded ω τ)) :
    ∃ calls ending s', (p.recorded.next draft options (.submitted sim tx e submission)).outcome s =
        (ending.2.map fun _ => .ended ⟨sim, tx, some e, some ending.1⟩, s') ∧
      s'.world.2 = s.world.2 ++ calls ∧
      Poll.Rounds p.env p.pollSettings (Poll.budget p.pollSettings (p.env.now s.world.1))
        p.config.pollAttempts.toNat 1 { submission := submission } s.world.1 calls s'.world.1
        ending := by
  obtain ⟨calls, hcalls, hrounds⟩ :=
    Submission.rounds_poll_recorded p.env p.pollSettings haccepted hpending s
  exact ⟨calls, _, _, next_submitted rfl, hcalls, hrounds⟩

/-- With other settings, it fails before it asks the node. -/
theorem next_submitted_of_refused {fault : Fault} (hrefused : p.pollSettings.refusal? = some fault)
    (hpending : submission.isTerminal = false) (s : Session (Recorded ω τ)) :
    (p.recorded.next draft options (.submitted sim tx e submission)).outcome s = (.error fault, s) := by
  have hpoll : (p.recorded.poll submission).run s = ((submission, .error fault), s) :=
    Submission.run_poll_of_refused p.env.recorded hpending hrefused s
  exact next_submitted hpoll

theorem steps_submitted (sim : Simulation) (tx : Transaction) (e : Envelope) {submission : Submission}
    (hpending : submission.isTerminal = false) (s : Session (Recorded ω τ)) :
    Steps p draft options (.submitted sim tx e submission) s := by
  cases hsettings : p.pollSettings.refusal? with
  | none =>
      obtain ⟨calls, ending, s', hnext, hcalls, hrounds⟩ := exists_rounds hsettings hpending s
      refine ⟨calls, ?_, ?_⟩
      · rw [hnext]
        exact hcalls
      · rw [hnext]
        exact .poll hsettings hrounds
  | some fault => exact steps_of_refused fault (next_submitted_of_refused hsettings hpending s)

/-- What a successful stage has made. -/
theorem exists_of_map {r : Except Fault α} {blame : Fault → Fault} {toMilestone : α → Milestone}
    {m : Milestone} (h : (r.mapError blame).map toMilestone = .ok m) : ∃ a, m = toMilestone a := by
  obtain ⟨a, -, ha⟩ := exists_of_map_eq_ok h
  exact ⟨a, ha.symm⟩

theorem resolving_calls (tx : Transaction) (sim : Simulation) (policy : ExpirationPolicy)
    (s : Session (Recorded ω τ)) {out : Except Fault Transaction × Session (Recorded ω τ)}
    (hout : (p.recorded.resolving tx sim policy).outcome s = out) :
    (∃ calls, out.2.world.2 = s.world.2 ++ calls ∧ ∀ c ∈ calls, c.IsSign) ∨
      policy.target = none ∧
      ((requirements sim).getD tx.authEntries).any tx.needsSignature = true ∧
      ∃ answer calls, out.2.world.2 = s.world.2 ++
          .latestLedger s.world.1 (p.callTimeout s.world.1) answer :: calls ∧
        (∀ c ∈ calls, c.IsSign) ∧ ∀ fault, answer = .error fault → out.1 = .error fault := by
  unfold resolving at hout
  exact Authorization.resolve_calls p.env (p.callTimeout s.world.1) s hout rfl

/-- A read-only call that is skipped ends the run, whatever the cancellation says. -/
theorem steps_skipped (sim : Simulation) {tx : Transaction} (hskip : options.skipView = true)
    (hview : tx.isView = true) (s : Session (Recorded ω τ)) :
    Steps p draft options (.assembled sim tx) s := by
  have hstage : p.recorded.next draft options (.assembled sim tx) = _ :=
    if_pos (Bool.and_eq_true_iff.2 ⟨hskip, hview⟩)
  have hnext : (p.recorded.next draft options (.assembled sim tx)).outcome s =
      (.ok (.ended { simulation := sim, transaction := tx }),
        { s with log := s.log ++ [⟨.info, "read-only call; not submitting"⟩] }) := by
    rw [hstage]
    rfl
  refine ⟨[], ?_, ?_⟩
  · rw [hnext, List.append_nil]
  · rw [hnext]
    exact .skip hskip hview

/-- Requirements that are resolved under a policy make a step. -/
theorem steps_of_resolving {sim : Simulation} {tx : Transaction} {policy : ExpirationPolicy}
    {s : Session (Recorded ω τ)} (hstart : p.env.hasFired s.world.1 = false)
    (htarget : policy.target = options.expirationLedger)
    (hnext : (p.recorded.next draft options (.assembled sim tx)).outcome s =
      ((((p.recorded.resolving tx sim policy).outcome s).1.mapError fun fault =>
          p.recorded.blame "authorize" none fault
            ((p.recorded.resolving tx sim policy).outcome s).2.world).map (.authorized sim),
        ((p.recorded.resolving tx sim policy).outcome s).2)) :
    Steps p draft options (.assembled sim tx) s := by
  rcases resolving_calls tx sim policy s rfl with
    ⟨calls, hcalls, hsign⟩ | ⟨hnone, hneeds, answer, calls, hcalls, hsign, hfail⟩
  · refine ⟨calls, ?_, ?_⟩
    · rw [hnext, hcalls]
    · rw [hnext]
      exact .authorize hsign fun m hm => exists_of_map hm
  · rw [htarget] at hnone
    refine ⟨.latestLedger s.world.1 (p.callTimeout s.world.1) answer :: calls, ?_, ?_⟩
    · rw [hnext, hcalls]
    · rw [hnext]
      refine .askLedger hstart hnone hneeds ?_ hsign fun m hm => exists_of_map hm
      intro fault hfault
      rw [hfail fault hfault]
      rfl

theorem steps_authorizing (sim : Simulation) {tx : Transaction} {s : Session (Recorded ω τ)}
    (hview : ¬ (options.skipView && tx.isView) = true) (hstart : p.env.hasFired s.world.1 = false) :
    Steps p draft options (.assembled sim tx) s := by
  have hstage : p.recorded.next draft options (.assembled sim tx) = _ := if_neg hview
  have hnext : (p.recorded.next draft options (.assembled sim tx)).outcome s =
      (((p.recorded.authorize tx sim options.expirationLedger).outcome s).1.map (.authorized sim),
        ((p.recorded.authorize tx sim options.expirationLedger).outcome s).2) := by
    rw [hstage, Stage.outcome_bind_pure]
  have hfired : p.recorded.env.hasFired s.world = false := hstart
  rw [outcome_authorize, hfired, if_neg Bool.false_ne_true] at hnext
  cases hpolicy : ExpirationPolicy.make p.recorded.config.authHorizon options.expirationLedger with
  | error fault =>
      rw [hpolicy] at hnext
      exact steps_of_refused _ hnext
  | ok policy =>
      rw [hpolicy] at hnext
      have htarget : policy.target = options.expirationLedger := by
        rw [ExpirationPolicy.make_eq_ok hpolicy]
      exact steps_of_resolving hstart htarget hnext

/-- Every stage is a step; one that polls polls a pending submission. -/
theorem exists_step {m : Milestone}
    (hpending : ∀ sim tx e submission, m = .submitted sim tx e submission →
      submission.isTerminal = false) (s : Session (Recorded ω τ)) : Steps p draft options m s := by
  -- A stage that looks at the cancellation does so first, so what follows starts before it fires.
  by_cases hstop : (p.guard? options m).isSome = true ∧ p.env.hasFired s.world.1 = true
  · obtain ⟨hguarded, hfired⟩ := hstop
    obtain ⟨⟨stage, hash⟩, hguard⟩ := Option.isSome_iff_exists.1 hguarded
    have hnext : (p.recorded.next draft options m).outcome s = _ :=
      outcome_next_of_fired hguard hfired
    exact steps_of_refused _ hnext
  · have hstart : (p.guard? options m).isSome = true → p.env.hasFired s.world.1 = false :=
      fun hguarded => Bool.eq_false_iff.2 fun hfired => hstop ⟨hguarded, hfired⟩
    cases m with
    | drafted => exact steps_drafted (hstart rfl)
    | simulated sim => exact steps_simulated sim s
    | assembled sim tx =>
        by_cases hview : (options.skipView && tx.isView) = true
        · obtain ⟨hskip, hview⟩ := Bool.and_eq_true_iff.1 hview
          exact steps_skipped sim hskip hview s
        · refine steps_authorizing sim hview (hstart ?_)
          rw [guard?, if_neg hview]
          rfl
    | authorized sim tx => exact steps_authorized sim tx s
    | signed sim tx e => exact steps_signed sim tx e (hstart rfl)
    | submitted sim tx e submission => exact steps_submitted sim tx e (hpending _ _ _ _ rfl) s
    | ended result => exact steps_ended result s

end Steps

end Pipeline
end LedgerFlow
