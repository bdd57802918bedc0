import LedgerFlow.Proofs.Submission.Ending

/-!
# The life of a submission

A submission is polled, and advanced by whoever learns an outcome in another way, any number of times
and in any order.  Each poll has surroundings, settings and a session of its own, so nothing is assumed
of the node, the clock or the cancellation, nor of what they do between two polls.

* `poll_of_pending`, `finish_of_pending` — what one move makes of a pending submission;
* `apply_of_terminal` — a terminal submission is a fixed point of every move;
* `apply_consistent`, `after_consistent` — one move, and a run of moves, keep the outcome one of the
  submission's own transaction.

The main statement is `lifecycle_after`, for every run of moves from a fresh submission.
-/

namespace LedgerFlow

variable {ω τ : Type}

namespace Submission

/-- What can be done with a submission. -/
inductive Move (ω τ : Type) where
  | poll (env : Surroundings ω τ) (settings : PollSettings τ) (start : Session ω)
  | advance (o : Outcome)

variable [Timeline τ]

/-- The submission after a move, and what the move answers. -/
def apply (s : Submission) : Move ω τ → Poll.Ending
  | .poll env settings start => ((s.poll env settings).run start).1
  | .advance o => Poll.finish s o

/-- The submission after a run of moves, whether they succeed or not. -/
def after (s : Submission) (moves : List (Move ω τ)) : Submission :=
  moves.foldl (fun s m => (s.apply m).1) s

/-- What holds of a submission of a transaction at any point of its life. -/
structure Lifecycle (ω τ : Type) [Timeline τ] (hash : String) (s : Submission) : Prop where
  hash_eq : s.hash = hash
  outcome_hash : s.outcome.hash = s.hash
  /-- Whatever is done to a terminal submission, nothing of it changes. -/
  final : s.isTerminal = true → ∀ later : List (Move ω τ), s.after later = s
  advance_final : s.isTerminal = true → ∀ o, ∃ fault, s.advance o = .error fault ∧
    fault.kind = "RuntimeError"
  /-- A poll of a terminal submission answers its outcome, makes no call and leaves the session and the
  submission, its attempts included, as they were. -/
  poll_final : s.isTerminal = true → ∀ (env : Surroundings ω τ) (settings : PollSettings τ)
    (start : Session ω), (s.poll env settings).run start = ((s, .ok s.outcome), start) ∧
      s.pollCalls env settings start.world start.log = []
  /-- A poll or an advance that ends with a fault leaves the outcome as it was. -/
  fault_keeps : ∀ (m : Move ω τ) (fault : Fault), (s.apply m).2 = .error fault →
    (s.apply m).1.outcome = s.outcome
  /-- A poll that answers an outcome leaves the submission terminal with that outcome. -/
  poll_returns : ∀ (env : Surroundings ω τ) (settings : PollSettings τ) (start : Session ω)
    (o : Outcome), ((s.poll env settings).run start).1.2 = .ok o →
    ((s.poll env settings).run start).1.1.outcome = o ∧ o.isTerminal = true

/-! ## Moves of a pending submission -/

/-- The outcome that an answer ends a poll with is a final one of the same transaction. -/
theorem final_of_conclusion {hash : String} {answer : Except Fault StatusReply} {o : Outcome}
    (hanswer : Poll.isInconclusive answer = false) (ho : Poll.conclusion hash answer = .ok o) :
    o.isTerminal = true ∧ o.hash = hash := by
  rcases Poll.conclusion_eq_iff.1 ⟨hanswer, ho⟩ with
    ⟨a, ha, reply, -, -, rfl⟩ | ⟨a, ha, reply, -, -, rfl⟩ | ⟨fault, hfault, -⟩
  · cases ha
    exact ⟨rfl, rfl⟩
  · cases ha
    exact ⟨rfl, rfl⟩
  · cases hfault

/-- A poll of a pending submission counts attempts, and ends with a fault or with a final outcome of
the same transaction. -/
theorem poll_of_pending {s : Submission} (hpending : s.isTerminal = false) (env : Surroundings ω τ)
    (settings : PollSettings τ) (start : Session ω) :
    ∃ attempts r, ((s.poll env settings).run start).1 = Poll.concluded { s with attempts } r ∧
      ∀ o, r = .ok o → o.isTerminal = true ∧ o.hash = s.hash := by
  cases hsettings : settings.refusal? with
  | none =>
      rcases (rounds_poll env settings s start.world start.log hsettings hpending).ending hpending with
        ⟨-, -, hend⟩ | ⟨-, answer, -, -, hanswer, hend⟩
      · refine ⟨_, _, hend, fun o ho => ?_⟩
        cases ho
        exact ⟨rfl, rfl⟩
      · exact ⟨_, _, hend, fun o ho => final_of_conclusion hanswer ho⟩
  | some fault =>
      refine ⟨s.attempts, .error fault, ?_, nofun⟩
      rw [run_poll_of_refused env hpending hsettings]
      rfl

/-- Advancing a pending submission takes an outcome of the same transaction and refuses others. -/
theorem finish_of_pending {s : Submission} (hpending : s.isTerminal = false) (o : Outcome) :
    Poll.finish s o = Poll.concluded s
      (if o.hash = s.hash then .ok o else .error (.foreignOutcome o.hash s.hash)) := by
  by_cases hhash : o.hash = s.hash
  · rw [if_pos hhash, Poll.finish_eq_concluded hpending hhash]
  · simp [Poll.finish, advance, hpending, hhash, Poll.concluded]

/-- Any move ends a pending submission with a fault or with an outcome of the same transaction. -/
theorem apply_of_pending {s : Submission} (hpending : s.isTerminal = false) (m : Move ω τ) :
    ∃ attempts r, s.apply m = Poll.concluded { s with attempts } r ∧
      ∀ o, r = .ok o → o.hash = s.hash := by
  cases m with
  | poll env settings start =>
      obtain ⟨attempts, r, hend, hr⟩ := poll_of_pending hpending env settings start
      exact ⟨attempts, r, hend, fun o ho => (hr o ho).2⟩
  | advance o =>
      refine ⟨s.attempts, _, finish_of_pending hpending o, fun o' ho' => ?_⟩
      split at ho'
      · next hhash =>
          cases ho'
          exact hhash
      · cases ho'

/-! ## Moves of a terminal submission -/

theorem advance_of_terminal {s : Submission} (hterminal : s.isTerminal = true) (o : Outcome) :
    s.advance o = .error (.alreadyTerminal s.hash s.outcome.name) :=
  if_pos hterminal

/-- The terminal outcome is looked at first, before the settings are. -/
theorem run_poll_of_terminal {s : Submission} (hterminal : s.isTerminal = true)
    (env : Surroundings ω τ) (settings : PollSettings τ) (start : Session ω) :
    (s.poll env settings).run start = ((s, .ok s.outcome), start) := by
  unfold poll
  rw [if_pos hterminal]
  rfl

theorem pollCalls_of_terminal {s : Submission} (hterminal : s.isTerminal = true)
    (env : Surroundings ω τ) (settings : PollSettings τ) (w : ω) (log : List LogRecord) :
    s.pollCalls env settings w log = [] :=
  congrArg (fun e => e.2.world.2) (run_poll_of_terminal hterminal env.recorded settings _)

theorem apply_of_terminal {s : Submission} (hterminal : s.isTerminal = true) (m : Move ω τ) :
    (s.apply m).1 = s := by
  cases m with
  | poll env settings start =>
      exact congrArg (fun e => e.1.1) (run_poll_of_terminal hterminal env settings start)
  | advance o =>
      show (Poll.finish s o).1 = s
      rw [Poll.finish, advance_of_terminal hterminal]

/-! ## Runs of moves -/

/-- The outcome of a submission is one of the transaction that it follows. -/
def Consistent (hash : String) (s : Submission) : Prop :=
  s.hash = hash ∧ s.outcome.hash = s.hash

theorem apply_consistent {hash : String} {s : Submission} (h : s.Consistent hash) (m : Move ω τ) :
    (s.apply m).1.Consistent hash := by
  cases hstate : s.isTerminal with
  | true =>
      rw [apply_of_terminal hstate m]
      exact h
  | false =>
      obtain ⟨attempts, r, hend, hr⟩ := apply_of_pending hstate m
      rw [hend]
      cases r with
      | ok o => exact ⟨h.1, hr o rfl⟩
      | error fault => exact h

theorem after_consistent {hash : String} {s : Submission} (h : s.Consistent hash)
    (moves : List (Move ω τ)) : (s.after moves).Consistent hash := by
  induction moves generalizing s with
  | nil => exact h
  | cons m moves ih => exact ih (apply_consistent h m)

theorem after_of_terminal {s : Submission} (hterminal : s.isTerminal = true)
    (moves : List (Move ω τ)) : s.after moves = s := by
  induction moves with
  | nil => rfl
  | cons m moves ih =>
      show after (s.apply m).1 moves = s
      rw [apply_of_terminal hterminal m]
      exact ih

theorem fault_keeps_outcome (s : Submission) (m : Move ω τ) {fault : Fault}
    (h : (s.apply m).2 = .error fault) : (s.apply m).1.outcome = s.outcome := by
  cases hstate : s.isTerminal with
  | true => rw [apply_of_terminal hstate m]
  | false =>
      obtain ⟨attempts, r, hend, -⟩ := apply_of_pending hstate m
      rw [hend] at h ⊢
      cases r with
      | ok o => cases h
      | error fault => rfl

theorem poll_answers_final (s : Submission) (env : Surroundings ω τ) (settings : PollSettings τ)
    (start : Session ω) {o : Outcome} (h : ((s.poll env settings).run start).1.2 = .ok o) :
    ((s.poll env settings).run start).1.1.outcome = o ∧ o.isTerminal = true := by
  cases hstate : s.isTerminal with
  | true =>
      rw [run_poll_of_terminal hstate] at h ⊢
      obtain rfl : s.outcome = o := Except.ok.inj h
      exact ⟨rfl, hstate⟩
  | false =>
      obtain ⟨attempts, r, hend, hr⟩ := poll_of_pending hstate env settings start
      rw [hend] at h ⊢
      cases r with
      | ok o' =>
          obtain rfl : o' = o := Except.ok.inj h
          exact ⟨rfl, (hr o' rfl).1⟩
      | error fault => cases h

theorem lifecycle_of_consistent {hash : String} {s : Submission} (h : s.Consistent hash) :
    Lifecycle ω τ hash s where
  hash_eq := h.1
  outcome_hash := h.2
  final := after_of_terminal
  advance_final hterminal o := ⟨_, advance_of_terminal hterminal o, rfl⟩
  poll_final hterminal env settings start :=
    ⟨run_poll_of_terminal hterminal env settings start,
      pollCalls_of_terminal hterminal env settings start.world start.log⟩
  fault_keeps m _ := fault_keeps_outcome s m
  poll_returns env settings start _ := poll_answers_final s env settings start

/-- **The states of a submission.**  Whatever polls and advances a fresh submission has been through,
its outcome is one of its own transaction; once that is final it is never replaced, further advances
are refused, and further polls answer it without any call; a fault changes no outcome, and a poll that
answers leaves the submission with the final outcome that it answers. -/
theorem lifecycle_after (hash : String) (envelope : Option Envelope) (response : Option SendReply)
    (moves : List (Move ω τ)) :
    Lifecycle ω τ hash ((fresh hash envelope response).after moves) :=
  lifecycle_of_consistent (after_consistent ⟨rfl, rfl⟩ moves)

/-- An outcome of another transaction is refused, a poll runs out of time, and then the success comes
too late. -/
example :
    ((fresh "ab" none none).after [.advance (.success { hash := "cd" }),
      .poll Poll.hesitant ⟨.whole 4, 3, some 3⟩ ⟨(0, 0), []⟩,
      .advance (.success { hash := "ab" })]).outcome.name = "timeout" := by
  decide +kernel

end Submission
end LedgerFlow
