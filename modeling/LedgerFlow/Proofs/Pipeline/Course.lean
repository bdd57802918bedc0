import LedgerFlow.Pipeline
import LedgerFlow.Proofs.Session

/-!
# The course of a run

A run goes from milestone to milestone: `Pipeline.next` is the stage that leads on from each of them,
and `Pipeline.Reached` says which milestones a run has come to, in which sessions.  What every stage
preserves therefore holds of all that a run reaches, by induction on `Reached`.

`ends_of_reached` ties milestones to the outcome of the run: however far a run has come, it ends as its
next stages do.  In particular a stage that fails ends the run, with its fault and in its session.
-/

namespace LedgerFlow

/-- How far a run has come, with what it has produced. -/
inductive Milestone where
  | drafted
  | simulated (sim : Simulation)
  | assembled (sim : Simulation) (tx : Transaction)
  | authorized (sim : Simulation) (tx : Transaction)
  | signed (sim : Simulation) (tx : Transaction) (e : Envelope)
  | submitted (sim : Simulation) (tx : Transaction) (e : Envelope) (s : Submission)
  | ended (result : RunResult)

namespace Pipeline

variable {ω τ α : Type} [Timeline τ]

/-- The stage of a run that leads on from a milestone. -/
def next (p : Pipeline ω τ) (draft : Transaction) (options : RunOptions) :
    Milestone → Stage ω Milestone
  | .drafted => do return .simulated (← p.simulate draft)
  | .simulated sim => do return .assembled sim (← p.assemble draft sim options.instructions)
  | .assembled sim tx =>
    if options.skipView && tx.isView then do
      Stage.record .info "read-only call; not submitting"
      return .ended { simulation := sim, transaction := tx }
    else do return .authorized sim (← p.authorize tx sim options.expirationLedger)
  | .authorized sim tx => do return .signed sim tx (← p.sign tx none)
  | .signed sim tx e => do return .submitted sim tx e (← p.submit e)
  | .submitted sim tx e s => do
    let (s, ending) ← p.poll s
    let _ ← Stage.ofExcept ending
    return .ended { simulation := sim, transaction := tx, envelope := some e, submission := some s }
  | .ended result => return .ended result

/-- A run from a session comes to a milestone, in another session. -/
inductive Reached (p : Pipeline ω τ) (draft : Transaction) (options : RunOptions) (s₀ : Session ω) :
    Milestone → Session ω → Prop where
  | start : Reached p draft options s₀ .drafted s₀
  | step {m m' : Milestone} {s s' : Session ω} (h : Reached p draft options s₀ m s)
      (hnext : (p.next draft options m).outcome s = (.ok m', s')) :
      Reached p draft options s₀ m' s'

/-- From a milestone and a session the stages end with a result or a fault, in another session. -/
inductive Ends (p : Pipeline ω τ) (draft : Transaction) (options : RunOptions) :
    Milestone → Session ω → Except Fault RunResult → Session ω → Prop where
  | ended {result : RunResult} {s : Session ω} :
      Ends p draft options (.ended result) s (.ok result) s
  | fails {m : Milestone} {s s' : Session ω} {fault : Fault}
      (hnext : (p.next draft options m).outcome s = (.error fault, s')) :
      Ends p draft options m s (.error fault) s'
  | goesOn {m m' : Milestone} {s s₁ s' : Session ω} {r : Except Fault RunResult}
      (hnext : (p.next draft options m).outcome s = (.ok m', s₁))
      (hrest : Ends p draft options m' s₁ r s') : Ends p draft options m s r s'

variable {p : Pipeline ω τ} {draft : Transaction} {options : RunOptions} {m m' : Milestone}
  {s₀ s s' : Session ω} {r : Except Fault RunResult} {fault : Fault}

/-- A part of the run is a stage that leads on, followed by stages that end as the rest does. -/
theorem ends_bind {x : Stage ω α} {toMilestone : α → Milestone} {rest : α → Stage ω RunResult}
    (hnext : p.next draft options m = x >>= fun a => pure (toMilestone a))
    (hrest : ∀ a s₁, Ends p draft options (toMilestone a) s₁ ((rest a).outcome s₁).1
      ((rest a).outcome s₁).2) (s : Session ω) :
    Ends p draft options m s ((x >>= rest).outcome s).1 ((x >>= rest).outcome s).2 := by
  rcases hx : x.outcome s with ⟨result, s₁⟩
  cases result with
  | error fault =>
      rw [Stage.outcome_bind_of_error hx]
      exact .fails (by rw [hnext, Stage.outcome_bind_of_error hx])
  | ok a =>
      rw [Stage.outcome_bind_of_ok hx]
      exact .goesOn (by rw [hnext, Stage.outcome_bind_of_ok hx, Stage.outcome_pure]) (hrest a s₁)

/-- The last part of a run is the stage that ends it. -/
theorem ends_last {x : Stage ω RunResult}
    (hnext : p.next draft options m = x >>= fun result => pure (.ended result)) (s : Session ω) :
    Ends p draft options m s (x.outcome s).1 (x.outcome s).2 := by
  have h : Ends p draft options m s ((x >>= pure).outcome s).1 ((x >>= pure).outcome s).2 :=
    ends_bind hnext (fun result s => .ended) s
  rw [bind_pure] at h
  exact h

/-- A run ends as its stages do. -/
theorem ends_run (p : Pipeline ω τ) (draft : Transaction) (options : RunOptions) (s : Session ω) :
    Ends p draft options .drafted s ((p.run draft options).outcome s).1
      ((p.run draft options).outcome s).2 := by
  unfold run
  refine ends_bind rfl (fun sim s => ?_) s
  refine ends_bind rfl (fun tx s => ?_) s
  by_cases hview : (options.skipView && tx.isView) = true
  · rw [if_pos hview]
    refine ends_last ?_ s
    show (if _ then _ else _) = _
    rw [if_pos hview, bind_assoc]
    simp only [pure_bind]
  · rw [if_neg hview]
    have hnext : p.next draft options (.assembled sim tx) =
        p.authorize tx sim options.expirationLedger >>= fun tx => pure (.authorized sim tx) :=
      if_neg hview
    refine ends_bind hnext (fun tx s => ?_) s
    refine ends_bind rfl (fun e s => ?_) s
    refine ends_bind rfl (fun submission s => ?_) s
    refine ends_last ?_ s
    simp only [next, bind_assoc, pure_bind]

/-- However far a run has come, it ends as its next stages do. -/
theorem ends_of_reached (h : Reached p draft options s₀ m s) :
    Ends p draft options m s ((p.run draft options).outcome s₀).1
      ((p.run draft options).outcome s₀).2 := by
  induction h with
  | start => exact ends_run p draft options s₀
  | step h hnext ih =>
      -- The stage that led on is also the one that the run goes on with.
      generalize ((p.run draft options).outcome s₀).1 = r at ih
      generalize ((p.run draft options).outcome s₀).2 = last at ih
      cases ih with
      | ended =>
          cases hnext
          exact .ended
      | fails hfault =>
          rw [hfault] at hnext
          cases hnext
      | goesOn hnext' hrest =>
          rw [hnext'] at hnext
          cases hnext
          exact hrest

/-- A stage that fails ends the run. -/
theorem run_eq_error (h : Reached p draft options s₀ m s)
    (hnext : (p.next draft options m).outcome s = (.error fault, s')) :
    (p.run draft options).outcome s₀ = (.error fault, s') := by
  have hends := ends_of_reached h
  generalize (p.run draft options).outcome s₀ = outcome at hends ⊢
  obtain ⟨r, last⟩ := outcome
  cases hends with
  | ended => cases hnext
  | fails hfault =>
      rw [hfault] at hnext
      cases hnext
      rfl
  | goesOn hnext' hrest =>
      rw [hnext'] at hnext
      cases hnext

theorem Ends.eq_of_ended {result : RunResult} (h : Ends p draft options (.ended result) s r s') :
    r = .ok result := by
  generalize hm : Milestone.ended result = m at h
  induction h with
  | ended =>
      cases hm
      rfl
  | fails hnext =>
      subst hm
      cases hnext
  | goesOn hnext hrest ih =>
      subst hm
      cases hnext
      exact ih rfl

/-- A stage that leads to the end leads to the result of the run. -/
theorem run_eq_ok {result : RunResult} (h : Reached p draft options s₀ (.ended result) s) :
    ((p.run draft options).outcome s₀).1 = .ok result :=
  (ends_of_reached h).eq_of_ended

/-- A run ends at a milestone that it has reached: the last one, or one whose stage fails. -/
theorem exists_reached_of_ends (hreached : Reached p draft options s₀ m s)
    (h : Ends p draft options m s r s') :
    (∃ result, r = .ok result ∧ Reached p draft options s₀ (.ended result) s') ∨
      ∃ m₁ s₁ fault, r = .error fault ∧ Reached p draft options s₀ m₁ s₁ ∧
        (p.next draft options m₁).outcome s₁ = (.error fault, s') := by
  induction h with
  | ended => exact .inl ⟨_, rfl, hreached⟩
  | fails hnext => exact .inr ⟨_, _, _, rfl, hreached, hnext⟩
  | goesOn hnext hrest ih => exact ih (.step hreached hnext)

end Pipeline
end LedgerFlow
