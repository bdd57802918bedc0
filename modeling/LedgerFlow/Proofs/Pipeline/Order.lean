import LedgerFlow.Proofs.Pipeline.Record

/-!
# The order of node calls

A run calls the node in one order: it asks for a simulation, then possibly for the latest ledger, then
it sends one envelope, and then it asks for the status of that submission, as often as the configuration
allows.  A run that is stopped or that fails has made the first of these calls only (`InOrder`).

`Milestone.Ordered` is the invariant: which methods have been called when a run reaches a milestone.
`Step.ordered` says that every step keeps it.  What holds of a single call, such as the envelope that
is sent or the hash that is asked for, is read off the step that made it.
-/

namespace LedgerFlow

variable {ω τ : Type}

/-- The calls that the pipeline makes to a node, by name. -/
inductive NodeMethod where
  | simulateTransaction
  | getLatestLedger
  | sendTransaction
  | getTransaction
  deriving DecidableEq, Repr

/-- The method of a call, if it is one to a node. -/
def Event.method? : Event ω τ → Option NodeMethod
  | .simulate .. => some .simulateTransaction
  | .latestLedger .. => some .getLatestLedger
  | .send .. => some .sendTransaction
  | .status .. => some .getTransaction
  | .sign .. | .sleep .. => none

/-- The methods that were called, in order. -/
def methods (calls : List (Event ω τ)) : List NodeMethod := calls.filterMap Event.method?

@[simp] theorem methods_nil : methods ([] : List (Event ω τ)) = [] := rfl

@[simp] theorem methods_append (a b : List (Event ω τ)) :
    methods (a ++ b) = methods a ++ methods b :=
  List.filterMap_append

/-- Signers are no nodes. -/
theorem methods_of_isSign {calls : List (Event ω τ)} (h : ∀ c ∈ calls, c.IsSign) :
    methods calls = [] := by
  rw [methods, List.filterMap_eq_nil_iff]
  intro c hc
  cases c with
  | sign => rfl
  | _ => exact absurd (h _ hc) not_false

/-- Whether methods were called in the order of a run with a number of attempts, up to some call. -/
def InOrder (attempts : Nat) (called : List NodeMethod) : Prop :=
  ∃ asked, (asked = [] ∨ asked = [.getLatestLedger]) ∧
    called <+: .simulateTransaction ::
      (asked ++ .sendTransaction :: List.replicate attempts .getTransaction)

namespace Poll

variable [Timeline τ] {env : Surroundings ω τ} {settings : PollSettings τ} {budget : Cancellation τ}
  {hash : String}

/-- A poll asks for the status only. -/
theorem methods_of_isCall {calls : List (Event ω τ)}
    (h : ∀ c ∈ calls, IsCall env settings budget hash c) :
    methods calls = List.replicate (statusAnswers calls).length .getTransaction := by
  induction calls with
  | nil => rfl
  | cons c calls ih =>
      rw [List.forall_mem_cons] at h
      obtain ⟨hc, hcalls⟩ := h
      cases hc with
      | status => exact congrArg (NodeMethod.getTransaction :: ·) (ih hcalls)
      | wait => exact ih hcalls

end Poll

/-- The methods that were called when a run is at a milestone. -/
def Milestone.Ordered (attempts : Nat) (called : List NodeMethod) : Milestone → Prop
  | .drafted => called = []
  | .simulated _ | .assembled _ _ => called = [.simulateTransaction]
  | .authorized _ _ | .signed _ _ _ =>
    ∃ asked, (asked = [] ∨ asked = [.getLatestLedger]) ∧ called = .simulateTransaction :: asked
  | .submitted _ _ _ _ =>
    ∃ asked, (asked = [] ∨ asked = [.getLatestLedger]) ∧
      called = .simulateTransaction :: (asked ++ [.sendTransaction])
  | .ended _ => InOrder attempts called

/-- The methods that the stage after a milestone calls, whether it fails or not. -/
def Milestone.Calls (attempts : Nat) (called : List NodeMethod) : Milestone → Prop
  | .drafted => called = [] ∨ called = [.simulateTransaction]
  | .assembled _ _ => called = [] ∨ called = [.getLatestLedger]
  | .signed _ _ _ => called = [] ∨ called = [.sendTransaction]
  | .submitted _ _ _ _ => ∃ k ≤ attempts, called = List.replicate k .getTransaction
  | .simulated _ | .authorized _ _ | .ended _ => called = []

/-- The next calls are in order when those so far are. -/
theorem Milestone.Ordered.inOrder {attempts : Nat} {called more : List NodeMethod} {m : Milestone}
    (h : m.Ordered attempts called) (hmore : m.Calls attempts more) :
    InOrder attempts (called ++ more) := by
  cases m with
  | drafted =>
      obtain rfl : called = [] := h
      rcases hmore with rfl | rfl
      · exact ⟨[], .inl rfl, List.nil_prefix⟩
      · exact ⟨[], .inl rfl, _, rfl⟩
  | simulated sim =>
      obtain rfl : called = [.simulateTransaction] := h
      obtain rfl : more = [] := hmore
      exact ⟨[], .inl rfl, _, rfl⟩
  | assembled sim tx =>
      obtain rfl : called = [.simulateTransaction] := h
      rcases hmore with rfl | rfl
      · exact ⟨[], .inl rfl, _, rfl⟩
      · exact ⟨[.getLatestLedger], .inr rfl, _, rfl⟩
  | authorized sim tx =>
      obtain ⟨asked, hasked, rfl⟩ := h
      obtain rfl : more = [] := hmore
      rw [List.append_nil]
      exact ⟨asked, hasked, _, rfl⟩
  | signed sim tx e =>
      obtain ⟨asked, hasked, rfl⟩ := h
      refine ⟨asked, hasked, ?_⟩
      rcases hmore with rfl | rfl <;> simp
  | submitted sim tx e submission =>
      obtain ⟨asked, hasked, rfl⟩ := h
      obtain ⟨k, hk, rfl⟩ := hmore
      refine ⟨asked, hasked, List.replicate (attempts - k) .getTransaction, ?_⟩
      have hattempts : List.replicate k NodeMethod.getTransaction ++
          List.replicate (attempts - k) .getTransaction = List.replicate attempts .getTransaction := by
        rw [List.replicate_append_replicate, Nat.add_sub_cancel' hk]
      simp [hattempts]
  | ended result =>
      obtain rfl : more = [] := hmore
      rw [List.append_nil]
      exact h

namespace Pipeline

variable [Timeline τ] {p : Pipeline ω τ} {draft : Transaction} {options : RunOptions}
  {m m' : Milestone} {w w' : ω} {log : List LogRecord} {calls new : List (Event ω τ)}
  {s s' : Session (Recorded ω τ)} {r : Except Fault Milestone}

/-- A step calls the methods of its stage. -/
theorem Step.methods_calls (h : Step p draft options m w new r w') :
    m.Calls p.config.pollAttempts.toNat (methods new) := by
  cases h with
  | refused => cases m <;> first | exact rfl | exact .inl rfl | exact ⟨0, Nat.zero_le _, rfl⟩
  | simulate => exact .inr rfl
  | assemble => exact rfl
  | skip => exact .inl rfl
  | authorize hcalls => exact .inl (methods_of_isSign hcalls)
  | askLedger _ _ _ _ hcalls =>
      exact .inr (congrArg (NodeMethod.getLatestLedger :: ·) (methods_of_isSign hcalls))
  | sign hcalls => exact methods_of_isSign hcalls
  | send => exact .inr rfl
  | poll _ hrounds => exact ⟨_, hrounds.length_le, Poll.methods_of_isCall hrounds.isCall⟩
  | stay => exact rfl

/-- The methods after a step that leads on are those of the next milestone. -/
theorem Step.ordered (h : Step p draft options m w new (.ok m') w')
    (hm : m.Ordered p.config.pollAttempts.toNat (methods calls)) :
    m'.Ordered p.config.pollAttempts.toNat (methods (calls ++ new)) := by
  have hinOrder := hm.inOrder h.methods_calls
  generalize hr : (Except.ok m' : Except Fault Milestone) = r at h
  rw [methods_append]
  cases h with
  | refused => cases hr
  | simulate _ _ _ hresult =>
      obtain ⟨sim, -, rfl⟩ := hresult m' hr.symm
      rw [show methods calls = [] from hm]
      rfl
  | assemble =>
      cases hr
      rw [methods_nil, List.append_nil]
      exact hm
  | skip =>
      cases hr
      exact hinOrder
  | authorize hcalls hresult =>
      obtain ⟨out, rfl⟩ := hresult m' hr.symm
      rw [methods_of_isSign hcalls]
      exact ⟨[], .inl rfl, by rw [List.append_nil]; exact hm⟩
  | askLedger _ _ _ _ hcalls hresult =>
      obtain ⟨out, rfl⟩ := hresult m' hr.symm
      refine ⟨[.getLatestLedger], .inr rfl, ?_⟩
      rw [show methods calls = [.simulateTransaction] from hm]
      exact congrArg (NodeMethod.simulateTransaction :: .getLatestLedger :: ·)
        (methods_of_isSign hcalls)
  | sign hcalls hresult =>
      obtain ⟨e, rfl, -⟩ := hresult m' hr.symm
      rw [methods_of_isSign hcalls, List.append_nil]
      exact hm
  | send _ _ hresult =>
      obtain ⟨reply, hash, -, rfl⟩ := hresult m' hr.symm
      obtain ⟨asked, hasked, hcalled⟩ := hm
      exact ⟨asked, hasked, by rw [hcalled]; rfl⟩
  | poll _ hrounds =>
      -- The end of a run asks for no more than that its calls are in order.
      obtain ⟨o, -, rfl⟩ := exists_of_map_eq_ok hr.symm
      exact hinOrder
  | stay =>
      cases hr
      exact hinOrder

/-- The methods that a run has called when it reaches a milestone. -/
theorem Reaches.ordered (h : p.Reaches draft options w log m s) :
    m.Ordered p.config.pollAttempts.toNat (methods s.world.2) := by
  induction h with
  | start => exact rfl
  | @step m m' s s' h hnext ih =>
      obtain ⟨calls, hcalls, hstep⟩ := h.steps
      rw [hnext] at hcalls hstep
      rw [hcalls]
      exact hstep.ordered ih

/-- The methods that a run calls. -/
theorem inOrder_calls (p : Pipeline ω τ) (draft : Transaction) (options : RunOptions) (w : ω)
    (log : List LogRecord) :
    InOrder p.config.pollAttempts.toNat (methods (p.calls draft options w log)) := by
  obtain ⟨m, s, hreached, hworld, -⟩ := exists_last p draft options w log
  obtain ⟨calls, hcalls, hstep⟩ := hreached.steps
  rw [hworld] at hcalls
  change p.calls draft options w log = _ at hcalls
  rw [hcalls, methods_append]
  exact hreached.ordered.inOrder hstep.methods_calls

/-! ## What is called -/

/-- Only the signing of the authorized transaction leads to a signed envelope. -/
theorem exists_authorized_of_signed {sim : Simulation} {tx : Transaction} {e : Envelope}
    (h : p.Reaches draft options w log (.signed sim tx e) s) :
    ∃ s₁, p.Reaches draft options w log (.authorized sim tx) s₁ ∧
      (p.recorded.sign tx none).outcome s₁ = (.ok e, s) := by
  cases h with
  | @step m _ s₁ _ h hnext =>
      have hsteps : Steps p draft options m s₁ := Reached.steps h
      obtain ⟨calls, -, hstep⟩ := hsteps
      rw [hnext] at hstep
      obtain rfl : m = .authorized sim tx := by
        cases hstep.follows
        rfl
      have hsigned := (Stage.outcome_bind_pure _ _ s₁).symm.trans hnext
      obtain ⟨hresult, hs⟩ := Prod.mk.inj hsigned
      obtain ⟨e', he, hmilestone⟩ := exists_of_map_eq_ok hresult
      cases hmilestone
      exact ⟨s₁, h, Prod.ext he hs⟩

/-- After a submission, a result of the run has the submission and what it was made of. -/
theorem result_of_submitted {sim : Simulation} {tx : Transaction} {e : Envelope}
    {submission : Submission} {result : RunResult}
    (h : p.Reaches draft options w log (.submitted sim tx e submission) s)
    (hresult : ((p.run draft options).outcome ⟨w, log⟩).1 = .ok result) :
    result.transaction = tx ∧ result.envelope = some e ∧
      ∃ polled, result.submission = some polled ∧ polled.hash = submission.hash := by
  have hends := ends_of_reached h
  rw [outcome_run_recorded, hresult] at hends
  cases hends with
  | goesOn hnext hrest =>
      obtain ⟨calls, -, hstep⟩ := h.steps
      rw [hnext] at hstep
      obtain ⟨ending, hrounds, rfl⟩ := hstep.of_submitted
      obtain rfl := Except.ok.inj hrest.eq_of_ended
      exact ⟨rfl, rfl, ending.1, rfl, hrounds.hash_eq (h.isCoherent.isTerminal _ _ _ _ rfl)⟩

/-- After an envelope is signed, a result of the run has that envelope and its transaction. -/
theorem result_of_signed {sim : Simulation} {tx : Transaction} {e : Envelope} {result : RunResult}
    (h : p.Reaches draft options w log (.signed sim tx e) s)
    (hresult : ((p.run draft options).outcome ⟨w, log⟩).1 = .ok result) :
    result.transaction = tx ∧ result.envelope = some e := by
  have hends := ends_of_reached h
  rw [outcome_run_recorded, hresult] at hends
  cases hends with
  | goesOn hnext hrest =>
      have hreached := Reached.step h hnext
      -- A result needs a submission after the signature, and that has both.
      have hsubmitted := (Stage.outcome_bind_pure _ _ s).symm.trans hnext
      obtain ⟨submission, -, rfl⟩ := exists_of_map_eq_ok (Prod.mk.inj hsubmitted).1
      obtain ⟨htx, he, -⟩ := result_of_submitted hreached hresult
      exact ⟨htx, he⟩

/-- What the calls of a run say about it, for the result that it has. -/
structure Disciplined (p : Pipeline ω τ) (draft : Transaction) (options : RunOptions) (w : ω)
    (log : List LogRecord) (calls : List (Event ω τ)) (result : Except Fault RunResult) : Prop where
  /-- One simulation, the latest ledger perhaps, one envelope, then as many status calls as are
  configured; or the first of these calls. -/
  inOrder : InOrder p.config.pollAttempts.toNat (methods calls)
  /-- What is simulated is the draft, and it is valid. -/
  of_simulate : ∀ before tx timeout answer, .simulate before tx timeout answer ∈ calls →
    tx = draft ∧ draft.validate = .ok ()
  /-- The latest ledger is asked for where something needs a signature and no ledger is given. -/
  of_latestLedger : ∀ before timeout answer, .latestLedger before timeout answer ∈ calls →
    options.expirationLedger = none ∧
      ∃ sim tx s, p.Reaches draft options w log (.assembled sim tx) s ∧ s.world.1 = before ∧
        ((requirements sim).getD tx.authEntries).any tx.needsSignature = true
  /-- What is sent is the envelope that was signed for the authorized transaction, and the one of the
  result. -/
  of_send : ∀ before e timeout answer, .send before e timeout answer ∈ calls →
    ∃ sim tx s₁ s, p.Reaches draft options w log (.authorized sim tx) s₁ ∧
      (p.recorded.sign tx none).outcome s₁ = (.ok e, s) ∧ s.world.1 = before ∧ e.tx = tx ∧
      ∀ r, result = .ok r → r.envelope = some e ∧ r.transaction = tx
  /-- Every status call is one for the submission, of which there is only one. -/
  of_status : ∀ before hash timeout answer, .status before hash timeout answer ∈ calls →
    (∃ sim tx e submission s, p.Reaches draft options w log (.submitted sim tx e submission) s) ∧
      (∀ sim tx e submission s, p.Reaches draft options w log (.submitted sim tx e submission) s →
        hash = submission.hash) ∧
      ∀ r, result = .ok r → ∃ submission, r.submission = some submission ∧ submission.hash = hash
  /-- A stage that fails ends the run: nothing is called after it. -/
  of_fails : ∀ m s s' fault, p.Reaches draft options w log m s →
    (p.recorded.next draft options m).outcome s = (.error fault, s') →
      result = .error fault ∧ calls = s'.world.2

/-- **The order and the number of node calls**, and what they are given. -/
theorem calls_disciplined (p : Pipeline ω τ) (draft : Transaction) (options : RunOptions) (w : ω)
    (log : List LogRecord) :
    Disciplined p draft options w log (p.calls draft options w log)
      ((p.run draft options).outcome ⟨w, log⟩).1 := by
  constructor
  case inOrder => exact inOrder_calls p draft options w log
  case of_simulate =>
    intro before tx timeout answer hcall
    obtain ⟨m, s, -, hof⟩ := exists_callOf_of_mem hcall
    cases hof with
    | sign h => cases h
    | simulate hstart hvalid => exact ⟨rfl, hvalid⟩
    | poll _ h => cases h
  case of_latestLedger =>
    intro before timeout answer hcall
    obtain ⟨m, s, hreached, hof⟩ := exists_callOf_of_mem hcall
    generalize hworld : s.world.1 = start at hof
    cases hof with
    | sign h => cases h
    | latestLedger hstart htarget hneeds => exact ⟨htarget, _, _, s, hreached, hworld, hneeds⟩
    | poll _ h => cases h
  case of_send =>
    intro before e timeout answer hcall
    obtain ⟨m, s, hreached, hof⟩ := exists_callOf_of_mem hcall
    generalize hworld : s.world.1 = start at hof
    cases hof with
    | sign h => cases h
    | poll _ h => cases h
    | @send sim tx =>
        obtain ⟨s₁, hauthorized, hsigned⟩ := exists_authorized_of_signed hreached
        exact ⟨sim, tx, s₁, s, hauthorized, hsigned, hworld, hreached.isCoherent,
          fun r hr => (result_of_signed hreached hr).symm⟩
  case of_status =>
    intro before hash timeout answer hcall
    obtain ⟨m, s, hreached, hof⟩ := exists_callOf_of_mem hcall
    cases hof with
    | sign h => cases h
    | @poll sim tx e submission _ _ _ h =>
        cases h
        refine ⟨⟨sim, tx, e, submission, s, hreached⟩, ?_, ?_⟩
        · intro sim' tx' e' submission' s' hreached'
          rw [hreached.submission_unique hreached']
        · intro r hr
          exact (result_of_submitted hreached hr).2.2
  case of_fails =>
    intro m s s' fault hreached hnext
    obtain ⟨hresult, -, hcalls⟩ := calls_of_fails hreached hnext
    exact ⟨hresult, hcalls⟩

/-- A call whose entry is required by the node and signed up to the latest ledger is polled until it is
applied: all four methods are called, each once. -/
example :
    let draft : Transaction :=
      { sourceAccount := "GAAAAAAAAAAAAAAAAAAAAAAAAAAAAAAAAAAAAAAAAAAAAAAAAAAAAWHF", seqNum := 1
        operations := [{ body := .invokeContract (.text "C") (.text "f") (.list [.int 1]) [] }] }
    methods (agreeable.calls draft {} () []) =
      [.simulateTransaction, .getLatestLedger, .sendTransaction, .getTransaction] := by
  decide +kernel

end Pipeline
end LedgerFlow
