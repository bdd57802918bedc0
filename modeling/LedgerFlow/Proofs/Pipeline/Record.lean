import LedgerFlow.Proofs.Pipeline.Authorized
import LedgerFlow.Proofs.Pipeline.Steps
import Mathlib.Logic.Relation

/-!
# The record of a run

Every call of a run was made by a stage that the run reached (`exists_madeBy_of_mem`), and what holds
of the calls of each kind is read off the steps that can make them (`Step.callOf`).  The record is
moreover a `Trail`, and a run reaches at most one submission (`Reached.submission_unique`).
-/

namespace LedgerFlow

variable {ω τ : Type}

/-- Whether a run ends with a read-only call that it does not submit. -/
def RunResult.IsSkippedView (options : RunOptions) (result : RunResult) : Prop :=
  options.skipView = true ∧ result.transaction.isView = true ∧ result.envelope = none ∧
    result.submission = none

/-- What a milestone says about what it was made of. -/
def Milestone.IsCoherent : Milestone → Prop
  | .signed _ tx e => e.tx = tx
  | .submitted _ tx e s => e.tx = tx ∧ ∃ hash reply, s = .fresh hash (some e) (some reply)
  | _ => True

theorem Milestone.IsCoherent.isTerminal {m : Milestone} (hm : m.IsCoherent) :
    ∀ sim tx e submission, m = .submitted sim tx e submission → submission.isTerminal = false := by
  rintro sim tx e submission rfl
  obtain ⟨-, hash, reply, rfl⟩ := hm
  rfl

namespace Pipeline

variable [Timeline τ] {p : Pipeline ω τ} {draft : Transaction} {options : RunOptions}
  {m m' : Milestone} {w w' : ω} {log : List LogRecord} {calls : List (Event ω τ)}
  {s s' : Session (Recorded ω τ)}

theorem Step.isCoherent (h : Step p draft options m w calls (.ok m') w') (hm : m.IsCoherent) :
    m'.IsCoherent := by
  cases h.follows with
  | signed htx => exact htx
  | submitted => exact ⟨hm, _, _, rfl⟩
  | _ => trivial

/-- What a run reaches is coherent. -/
theorem Reached.isCoherent {s₀ : Session (Recorded ω τ)}
    (h : p.recorded.Reached draft options s₀ m s) : m.IsCoherent := by
  induction h with
  | start => trivial
  | @step m m' s s' h hnext ih =>
      have hsteps : Steps p draft options m s := exists_step ih.isTerminal s
      obtain ⟨calls, -, hstep⟩ := hsteps
      rw [hnext] at hstep
      exact hstep.isCoherent ih

/-- The stage after a milestone that a run reaches is a step. -/
theorem Reached.steps {s₀ : Session (Recorded ω τ)} (h : p.recorded.Reached draft options s₀ m s) :
    Steps p draft options m s :=
  exists_step h.isCoherent.isTerminal s

/-! ## Calls -/

/-- Whether a call was made by the stage after a milestone that a run reaches. -/
def MadeBy (p : Pipeline ω τ) (draft : Transaction) (options : RunOptions)
    (s₀ : Session (Recorded ω τ)) (call : Event ω τ) (m : Milestone) (s : Session (Recorded ω τ)) :
    Prop :=
  p.recorded.Reached draft options s₀ m s ∧
    ∃ calls, call ∈ calls ∧
      ((p.recorded.next draft options m).outcome s).2.world.2 = s.world.2 ++ calls ∧
      Step p draft options m s.world.1 calls ((p.recorded.next draft options m).outcome s).1
        ((p.recorded.next draft options m).outcome s).2.world.1

/-- A call on record after a stage was on record before, or the stage made it. -/
theorem Reached.mem_next {s₀ : Session (Recorded ω τ)} (h : p.recorded.Reached draft options s₀ m s)
    {call : Event ω τ}
    (hcall : call ∈ ((p.recorded.next draft options m).outcome s).2.world.2) :
    call ∈ s.world.2 ∨ MadeBy p draft options s₀ call m s := by
  obtain ⟨calls, hcalls, hstep⟩ := h.steps
  rw [hcalls] at hcall
  exact (List.mem_append.1 hcall).imp_right fun hnew => ⟨h, calls, hnew, hcalls, hstep⟩

/-- Every call on record was made by a stage, if none was on record at the start. -/
theorem Reached.exists_madeBy {s₀ : Session (Recorded ω τ)} (hstart : s₀.world.2 = [])
    (h : p.recorded.Reached draft options s₀ m s) {call : Event ω τ} (hcall : call ∈ s.world.2) :
    ∃ m s, MadeBy p draft options s₀ call m s := by
  induction h with
  | start =>
      rw [hstart] at hcall
      exact absurd hcall List.not_mem_nil
  | @step m m' s s' h hnext ih =>
      have hcall' : call ∈ ((p.recorded.next draft options m).outcome s).2.world.2 := by
        rw [hnext]
        exact hcall
      rcases h.mem_next hcall' with hold | hmade
      · exact ih hold
      · exact ⟨_, _, hmade⟩

/-- A run from a world and a log reaches a milestone; the session holds the calls made so far. -/
abbrev Reaches (p : Pipeline ω τ) (draft : Transaction) (options : RunOptions) (w : ω)
    (log : List LogRecord) (m : Milestone) (s : Session (Recorded ω τ)) : Prop :=
  p.recorded.Reached draft options ⟨(w, []), log⟩ m s

/-- A stage that fails ends the run, and nothing is called after it. -/
theorem calls_of_fails {fault : Fault} (h : p.Reaches draft options w log m s)
    (hnext : (p.recorded.next draft options m).outcome s = (.error fault, s')) :
    ((p.run draft options).outcome ⟨w, log⟩).1 = .error fault ∧
      ((p.run draft options).outcome ⟨w, log⟩).2.world = s'.world.1 ∧
      p.calls draft options w log = s'.world.2 := by
  have hrun := run_eq_error h hnext
  rw [outcome_run_recorded] at hrun
  obtain ⟨hresult, rfl⟩ := Prod.mk.inj hrun
  exact ⟨hresult, rfl, rfl⟩

/-- The last stage of a run: the stage of the end, or one that fails. -/
theorem exists_last (p : Pipeline ω τ) (draft : Transaction) (options : RunOptions) (w : ω)
    (log : List LogRecord) :
    ∃ m s, p.Reaches draft options w log m s ∧
      ((p.recorded.next draft options m).outcome s).2.world =
        (((p.run draft options).outcome ⟨w, log⟩).2.world, p.calls draft options w log) ∧
      ((∃ result, m = .ended result ∧ ((p.run draft options).outcome ⟨w, log⟩).1 = .ok result) ∨
        ∃ fault, ((p.recorded.next draft options m).outcome s).1 = .error fault ∧
          ((p.run draft options).outcome ⟨w, log⟩).1 = .error fault) := by
  have hends := ends_run p.recorded draft options ⟨(w, []), log⟩
  rw [outcome_run_recorded] at hends
  rcases exists_reached_of_ends .start hends with
    ⟨result, hresult, hreached⟩ | ⟨m, s, fault, hresult, hreached, hnext⟩
  · exact ⟨_, _, hreached, rfl, .inl ⟨result, rfl, hresult⟩⟩
  · exact ⟨m, s, hreached, by rw [hnext], .inr ⟨fault, by rw [hnext], hresult⟩⟩

/-- The record of a run starts with that of every stage. -/
theorem prefix_of_ends {s₀ : Session (Recorded ω τ)} {r : Except Fault RunResult}
    (hreached : p.recorded.Reached draft options s₀ m s)
    (h : Ends p.recorded draft options m s r s') :
    ((p.recorded.next draft options m).outcome s).2.world.2 <+: s'.world.2 := by
  induction h with
  | ended => exact List.prefix_refl _
  | fails hnext => simp only [hnext, List.prefix_refl]
  | @goesOn m m' s s₁ s' r hnext hrest ih =>
      have hreached' := hreached.step hnext
      obtain ⟨calls, hcalls, -⟩ := hreached'.steps
      -- The next stage adds its calls to those of this one, and the rest of the run adds to them.
      rw [hnext]
      exact List.IsPrefix.trans (hcalls ▸ List.prefix_append _ _) (ih hreached')

/-- The calls up to and including a stage that a run reaches are the first calls of the run. -/
theorem next_prefix_calls (h : p.Reaches draft options w log m s) :
    ((p.recorded.next draft options m).outcome s).2.world.2 <+: p.calls draft options w log :=
  prefix_of_ends h (ends_of_reached h)

/-- A call on record when a run reaches a milestone is one of the run. -/
theorem mem_calls_of_reached (h : p.Reaches draft options w log m s) {call : Event ω τ}
    (hcall : call ∈ s.world.2) : call ∈ p.calls draft options w log := by
  obtain ⟨calls, hcalls, -⟩ := h.steps
  refine (next_prefix_calls h).subset ?_
  rw [hcalls]
  exact List.mem_append_left _ hcall

/-- A submission has been sent. -/
theorem exists_send_of_submitted {sim : Simulation} {tx : Transaction} {e : Envelope}
    {submission : Submission}
    (h : p.Reaches draft options w log (.submitted sim tx e submission) s) :
    ∃ before timeout answer, .send before e timeout answer ∈ s.world.2 := by
  cases h with
  | @step m _ s₁ _ h hnext =>
      have hsteps : Steps p draft options m s₁ := Reached.steps h
      obtain ⟨calls, hcalls, hstep⟩ := hsteps
      rw [hnext] at hcalls hstep
      obtain ⟨timeout, answer, rfl⟩ := hstep.exists_send
      refine ⟨s₁.world.1, timeout, answer, ?_⟩
      rw [show s.world.2 = _ from hcalls]
      exact List.mem_append_right _ List.mem_cons_self

/-- A run that ends without a fault has skipped a read-only call or submitted an envelope. -/
theorem exists_submitted_of_ended {result : RunResult} {s₀ : Session (Recorded ω τ)}
    (h : p.recorded.Reached draft options s₀ (.ended result) s) :
    result.IsSkippedView options ∨ ∃ sim tx e submission s₁,
      p.recorded.Reached draft options s₀ (.submitted sim tx e submission) s₁ := by
  generalize hm : Milestone.ended result = m at h
  induction h with
  | start => cases hm
  | @step m m' s s' h hnext ih =>
      subst hm
      obtain ⟨calls, -, hstep⟩ := h.steps
      rw [hnext] at hstep
      generalize hm' : Milestone.ended result = m' at hstep
      cases hstep.follows with
      | skipped hskip hview =>
          cases hm'
          exact .inl ⟨hskip, hview, rfl, rfl⟩
      | polled => exact .inr ⟨_, _, _, _, s, h⟩
      | stayed =>
          cases hm'
          exact ih rfl
      | _ => cases hm'

/-- Every call of a run was made by a stage. -/
theorem exists_madeBy_of_mem {call : Event ω τ} (hcall : call ∈ p.calls draft options w log) :
    ∃ m s, MadeBy p draft options ⟨(w, []), log⟩ call m s := by
  obtain ⟨m, s, hreached, hworld, -⟩ := exists_last p draft options w log
  have hcall' : call ∈ ((p.recorded.next draft options m).outcome s).2.world.2 := by
    rw [hworld]
    exact hcall
  rcases hreached.mem_next hcall' with hold | hmade
  · exact hreached.exists_madeBy rfl hold
  · exact ⟨m, s, hmade⟩

/-- A call of the stage after a milestone that starts in a world, with what holds where it is made. -/
inductive CallOf (p : Pipeline ω τ) (draft : Transaction) (options : RunOptions) :
    Milestone → ω → Event ω τ → Prop where
  | sign {m : Milestone} {w : ω} {call : Event ω τ} (h : call.IsSign) :
      CallOf p draft options m w call
  | simulate {w : ω} {answer : Except Fault Simulation} (hstart : p.env.hasFired w = false)
      (hvalid : draft.validate = .ok ()) :
      CallOf p draft options .drafted w (.simulate w draft (p.callTimeout w) answer)
  | latestLedger {sim : Simulation} {tx : Transaction} {w : ω} {answer : Except Fault LatestLedger}
      (hstart : p.env.hasFired w = false) (htarget : options.expirationLedger = none)
      (hneeds : ((requirements sim).getD tx.authEntries).any tx.needsSignature = true) :
      CallOf p draft options (.assembled sim tx) w (.latestLedger w (p.callTimeout w) answer)
  | send {sim : Simulation} {tx : Transaction} {e : Envelope} {w : ω}
      {answer : Except Fault SendReply} (hstart : p.env.hasFired w = false) :
      CallOf p draft options (.signed sim tx e) w (.send w e (p.callTimeout w) answer)
  | poll {sim : Simulation} {tx : Transaction} {e : Envelope} {submission : Submission} {w : ω}
      {call : Event ω τ} (haccepted : p.pollSettings.refusal? = none) (h : Poll.IsCall p.env p.pollSettings
        (Poll.budget p.pollSettings (p.env.now w)) submission.hash call) :
      CallOf p draft options (.submitted sim tx e submission) w call

theorem Step.callOf {r : Except Fault Milestone} (h : Step p draft options m w calls r w') :
    ∀ call ∈ calls, CallOf p draft options m w call := by
  cases h with
  | refused => exact List.forall_mem_nil _
  | simulate hstart hvalid => exact List.forall_mem_singleton.2 (.simulate hstart hvalid)
  | assemble => exact List.forall_mem_nil _
  | skip => exact List.forall_mem_nil _
  | authorize hcalls => exact fun call hcall => .sign (hcalls call hcall)
  | askLedger hstart htarget hneeds _ hcalls =>
      exact List.forall_mem_cons.2 ⟨.latestLedger hstart htarget hneeds,
        fun call hcall => .sign (hcalls call hcall)⟩
  | sign hcalls => exact fun call hcall => .sign (hcalls call hcall)
  | send hstart => exact List.forall_mem_singleton.2 (.send hstart)
  | poll haccepted hrounds => exact fun call hcall => .poll haccepted (hrounds.isCall call hcall)
  | stay => exact List.forall_mem_nil _

/-- Every call of a run is one of the stage after a milestone that the run reaches. -/
theorem exists_callOf_of_mem {call : Event ω τ} (hcall : call ∈ p.calls draft options w log) :
    ∃ m s, p.Reaches draft options w log m s ∧ CallOf p draft options m s.world.1 call := by
  obtain ⟨m, s, hreached, calls, hmem, -, hstep⟩ := exists_madeBy_of_mem hcall
  exact ⟨m, s, hreached, hstep.callOf call hmem⟩

/-- The calls of a run follow one another. -/
theorem trail_calls (p : Pipeline ω τ) (draft : Transaction) (options : RunOptions) (w : ω)
    (log : List LogRecord) :
    Trail p.env w (p.calls draft options w log)
      ((p.run draft options).outcome ⟨w, log⟩).2.world := by
  obtain ⟨calls, hcalls, htrail, -⟩ := (p.shadows_run draft options).exists_calls ⟨(w, []), log⟩
  rw [outcome_run_recorded] at hcalls htrail
  change p.calls draft options w log = calls at hcalls
  rw [hcalls]
  exact htrail

/-! ## The one submission -/

/-- One milestone leads on to another. -/
def LeadsOn (p : Pipeline ω τ) (draft : Transaction) (options : RunOptions)
    (a b : Milestone × Session ω) : Prop :=
  (p.next draft options a.1).outcome a.2 = (.ok b.1, b.2)

theorem Reached.leadsOn {p : Pipeline ω τ} {s₀ s : Session ω} (h : p.Reached draft options s₀ m s) :
    Relation.ReflTransGen (p.LeadsOn draft options) (.drafted, s₀) (m, s) := by
  induction h with
  | start => exact .refl
  | step h hnext ih => exact ih.tail hnext

theorem leadsOn_rightUnique (p : Pipeline ω τ) :
    Relator.RightUnique (p.LeadsOn draft options) := by
  rintro a ⟨m, s⟩ ⟨m', s'⟩ h h'
  obtain ⟨hm, hs⟩ := Prod.mk.inj (h.symm.trans h')
  exact Prod.ext (Except.ok.inj hm) hs

/-- Nothing but its end comes after a submission. -/
theorem eq_or_ended_of_leadsOn {p : Pipeline ω τ} {sim : Simulation} {tx : Transaction} {e : Envelope}
    {submission : Submission} {s : Session ω} {b : Milestone × Session ω}
    (h : Relation.ReflTransGen (p.LeadsOn draft options) (.submitted sim tx e submission, s) b) :
    b = (.submitted sim tx e submission, s) ∨ ∃ result, b.1 = .ended result := by
  induction h with
  | refl => exact .inl rfl
  | @tail b c hpath hnext ih =>
      right
      rcases ih with rfl | ⟨result, hended⟩
      · have hpoll := (next_submitted rfl).symm.trans hnext
        obtain ⟨o, -, ho⟩ := exists_of_map_eq_ok (Prod.mk.inj hpoll).1
        exact ⟨_, ho.symm⟩
      · unfold LeadsOn at hnext
        rw [hended] at hnext
        exact ⟨result, (Except.ok.inj (Prod.mk.inj hnext).1).symm⟩

/-- A run reaches one submission at most. -/
theorem Reached.submission_unique {p : Pipeline ω τ} {s₀ s s' : Session ω} {sim sim' : Simulation}
    {tx tx' : Transaction} {e e' : Envelope} {submission submission' : Submission}
    (h : p.Reached draft options s₀ (.submitted sim tx e submission) s)
    (h' : p.Reached draft options s₀ (.submitted sim' tx' e' submission') s') :
    submission = submission' := by
  -- One of the two comes after the other, since stages are deterministic.
  rcases Relation.ReflTransGen.total_of_right_unique p.leadsOn_rightUnique h.leadsOn h'.leadsOn with
    hpath | hpath
  · rcases eq_or_ended_of_leadsOn hpath with heq | ⟨result, hended⟩
    · cases heq
      rfl
    · cases hended
  · rcases eq_or_ended_of_leadsOn hpath with heq | ⟨result, hended⟩
    · cases heq
      rfl
    · cases hended

end Pipeline
end LedgerFlow
