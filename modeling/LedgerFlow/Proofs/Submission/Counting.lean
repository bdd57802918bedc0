import LedgerFlow.Proofs.Submission.Lifecycle

/-!
# What a timeout counts

A timeout reports a number of attempts and a transport failure.  The failure is the last one of the
poll that ends with the timeout.  The number is kept by the submission: every attempt of a poll writes
its own number there, and a poll without attempts writes nothing (`attempts_apply`).  So it is the
number of attempts of the last poll that made any (`attempts_after`).  That is the poll that times out,
unless this one was stopped before its first call.

The main statement is `timeout_tally`, for every run of moves from a fresh submission and every further
poll.
-/

namespace LedgerFlow

variable {ω τ : Type}

namespace Poll

/-- A transport failure is reported if and only if an answer is one. -/
theorem lastFailure?_ne_none_iff {answers : List (Except Fault StatusReply)} :
    lastFailure? answers ≠ none ↔ ∃ fault, .error fault ∈ answers ∧ fault.isUnreachable = true := by
  constructor
  · intro h
    obtain ⟨text, hmem⟩ := List.exists_mem_of_ne_nil _ (mt List.getLast?_eq_none_iff.2 h)
    obtain ⟨answer, hanswer, htext⟩ := List.mem_filterMap.1 hmem
    unfold failureText? at htext
    split at htext
    · cases htext
    · next fault =>
        split at htext
        · next hfault => exact ⟨fault, hanswer, hfault⟩
        · cases htext
  · rintro ⟨fault, hanswer, hfault⟩ hnone
    have hmem : fault.message ∈ answers.filterMap failureText? :=
      List.mem_filterMap.2 ⟨_, hanswer, if_pos hfault⟩
    rw [List.getLast?_eq_none_iff.1 hnone] at hmem
    cases hmem

theorem attempts_attempted_one (s : Submission) (k : Nat) :
    (attempted s 1 k).attempts = if k = 0 then s.attempts else k := by
  unfold attempted
  dsimp only
  split <;> omega

variable [Timeline τ] {env : Surroundings ω τ} {settings : PollSettings τ} {budget : Cancellation τ}
  {left : Nat} {number : Int} {p : Progress} {w w' : ω} {calls : List (Event ω τ)} {e : Ending}

/-- Rounds get no answer exactly if there is no first attempt. -/
theorem Rounds.answers_eq_nil_iff (h : Rounds env settings budget left number p w calls w' e) :
    statusAnswers calls = [] ↔ left = 0 ∨ isOver env budget w = true := by
  cases h with
  | exhausted => simp
  | stopped hover => simp [hover]
  | ended hstart => simp [hstart]
  | again hstart => simp [hstart]

end Poll

namespace Submission

/-! ## Counts -/

/-- The count of the last poll that made a call. -/
def lastCount (counts : List Nat) : Option Nat := (counts.filter (0 < ·)).getLast?

theorem lastCount_cons (k : Nat) (counts : List Nat) :
    lastCount (k :: counts) = (lastCount counts).or (if k = 0 then none else some k) := by
  unfold lastCount
  by_cases hk : k = 0
  · simp [hk]
  · rw [List.filter_cons_of_pos (by simpa using Nat.pos_of_ne_zero hk), List.getLast?_cons, if_neg hk]
    cases (counts.filter (0 < ·)).getLast? <;> rfl

/-- The last count is nothing exactly if no poll made a call. -/
theorem lastCount_getD_eq_zero_iff {counts : List Nat} :
    (lastCount counts).getD 0 = 0 ↔ ∀ k ∈ counts, k = 0 := by
  cases hlast : lastCount counts with
  | none => simpa [lastCount] using hlast
  | some k =>
      obtain ⟨hmem, hpos⟩ := List.mem_filter.1 (List.mem_of_getLast? hlast)
      have hne : k ≠ 0 := Nat.ne_of_gt (of_decide_eq_true hpos)
      exact iff_of_false hne fun hzero => hne (hzero k hmem)

variable [Timeline τ]

/-- The answers to the status calls of a move. -/
def answers (s : Submission) : Move ω τ → List (Except Fault StatusReply)
  | .poll env settings start => statusAnswers (s.pollCalls env settings start.world start.log)
  | .advance _ => []

/-- The number of status calls of each move of a run. -/
def counts (s : Submission) : List (Move ω τ) → List Nat
  | [] => []
  | m :: moves => (s.answers m).length :: counts (s.apply m).1 moves

/-! ## The counter -/

variable {s : Submission}

/-- A poll of a pending submission counts its answers, if there are any.  If it times out, then with
this count and its last failure; and it got no answer only if it was stopped before the first call. -/
theorem apply_poll_of_pending (hpending : s.isTerminal = false) (env : Surroundings ω τ)
    (settings : PollSettings τ) (start : Session ω) :
    let answers := s.answers (.poll env settings start)
    let counted := Poll.attempted s 1 answers.length
    ∃ r, s.apply (.poll env settings start) = Poll.concluded counted r ∧
      ∀ hash attempts lastError, r = .ok (.timeout hash attempts lastError) →
        hash = s.hash ∧ attempts = counted.attempts ∧ lastError = Poll.lastFailure? answers ∧
          (Poll.isOver env (Poll.budget settings (env.now start.world)) start.world = true ↔
            answers = []) := by
  cases hsettings : settings.refusal? with
  | none =>
      obtain ⟨hmax, -⟩ := PollSettings.refusal?_eq_none_iff.1 hsettings
      have hrounds := rounds_poll env settings s start.world start.log hsettings hpending
      have hstopped := hrounds.answers_eq_nil_iff
      rw [or_iff_right (by omega)] at hstopped
      rcases hrounds.ending hpending with
        ⟨-, -, hend⟩ | ⟨earlier, answer, hsplit, hearlier, hanswer, hend⟩
      · rw [Option.or_none] at hend
        refine ⟨_, hend, ?_⟩
        rintro hash attempts lastError ⟨⟩
        exact ⟨rfl, rfl, rfl, hstopped.symm⟩
      · -- An answer that ends a poll does not end it with a timeout.
        refine ⟨_, hend, fun hash attempts lastError htimeout => ?_⟩
        obtain ⟨a, ha | ha⟩ :=
          Poll.EndsIn.applied ⟨earlier, answer, hsplit, hearlier, hanswer, htimeout⟩
        · cases ha
        · cases ha
  | some fault =>
      have hanswers : s.answers (.poll env settings start) = [] := by
        rw [answers, pollCalls_of_refused env _ _ hpending hsettings, statusAnswers_nil]
      have hrefused := run_poll_of_refused env hpending hsettings start
      dsimp only
      rw [hanswers]
      refine ⟨.error fault, congrArg (fun e => e.1) hrefused, ?_⟩
      rintro hash attempts lastError ⟨⟩

/-- **The counter and one move.**  A poll that makes calls leaves their number, any other move leaves
the number that was there. -/
theorem attempts_apply (s : Submission) (m : Move ω τ) :
    (s.apply m).1.attempts =
      if (s.answers m).length = 0 then s.attempts else (s.answers m).length := by
  cases hstate : s.isTerminal with
  | true =>
      have hanswers : s.answers m = [] := by
        cases m with
        | poll env settings start => rw [answers, pollCalls_of_terminal hstate, statusAnswers_nil]
        | advance o => rfl
      rw [apply_of_terminal hstate, hanswers, if_pos List.length_nil]
  | false =>
      cases m with
      | poll env settings start =>
          obtain ⟨r, hend, -⟩ := apply_poll_of_pending hstate env settings start
          rw [hend, Poll.attempts_concluded, Poll.attempts_attempted_one]
      | advance o =>
          show (Poll.finish s o).1.attempts = s.attempts
          rw [finish_of_pending hstate, Poll.attempts_concluded]

/-- **The counter and a run.**  After a run of moves the number is that of the last poll that made a
call, or the first number if there was none. -/
theorem attempts_after (s : Submission) (moves : List (Move ω τ)) :
    (s.after moves).attempts = (lastCount (s.counts moves)).elim s.attempts Nat.cast := by
  induction moves generalizing s with
  | nil => rfl
  | cons m moves ih =>
      show (after (s.apply m).1 moves).attempts = _
      rw [ih, counts, lastCount_cons, attempts_apply]
      cases lastCount ((s.apply m).1.counts moves) with
      | some k => rfl
      | none =>
          rw [Option.none_or]
          split <;> rfl

/-! ## Timeouts -/

/-- What a timeout tells about the answers of its poll, given the counts of the moves before it and
whether the poll was stopped before its first call. -/
structure Tally (earlier : List Nat) (isStopped : Bool) (answers : List (Except Fault StatusReply))
    (attempts : Int) (lastError : Option String) : Prop where
  isStopped_iff : isStopped = true ↔ answers = []
  /-- A poll that made calls counts these and no others. -/
  attempts_of_called : isStopped = false → attempts = answers.length
  /-- A poll that made none reports what the last poll that made any had counted. -/
  attempts_of_stopped : isStopped = true → attempts = (lastCount earlier).getD 0
  /-- So the number is that of the calls of the poll, unless the poll was stopped before its first call
  and an earlier one was not. -/
  attempts_eq_iff : attempts = answers.length ↔ isStopped = false ∨ ∀ k ∈ earlier, k = 0
  lastError_eq : lastError = Poll.lastFailure? answers
  unreachable_iff : lastError ≠ none ↔ ∃ fault, .error fault ∈ answers ∧ fault.isUnreachable = true

/-- A count that is kept while there are no answers. -/
theorem tally_of_count {earlier : List Nat} {isStopped : Bool}
    {answers : List (Except Fault StatusReply)} (hstopped : isStopped = true ↔ answers = []) :
    Tally earlier isStopped answers
      (if answers.length = 0 then (lastCount earlier).getD 0 else answers.length)
      (Poll.lastFailure? answers) := by
  have hlength : isStopped = true ↔ answers.length = 0 := hstopped.trans List.length_eq_zero_iff.symm
  constructor
  case isStopped_iff => exact hstopped
  case attempts_of_called =>
    rintro rfl
    rw [if_neg (by simp [← hlength])]
  case attempts_of_stopped =>
    rintro rfl
    rw [if_pos (hlength.1 rfl)]
  case attempts_eq_iff =>
    rw [← lastCount_getD_eq_zero_iff]
    cases isStopped with
    | false =>
        rw [if_neg (by simp [← hlength])]
        simp
    | true =>
        rw [if_pos (hlength.1 rfl), hlength.1 rfl]
        simp
  case lastError_eq => rfl
  case unreachable_iff => exact Poll.lastFailure?_ne_none_iff

/-- **What a timeout counts.**  Whatever polls and advances a submission has been through, if a further
poll of it times out, then it does for the same transaction; the failure is the last one of this poll,
and the attempts are those of this poll, or of the last one with attempts if this one was stopped before
its first call. -/
theorem timeout_tally (hash : String) (envelope : Option Envelope) (response : Option SendReply)
    (moves : List (Move ω τ)) (env : Surroundings ω τ) (settings : PollSettings τ) (start : Session ω)
    {hash' : String} {attempts : Int} {lastError : Option String}
    (hpending : ((fresh hash envelope response).after moves).isTerminal = false)
    (htimeout : ((((fresh hash envelope response).after moves).poll env settings).run start).1.2 =
      .ok (.timeout hash' attempts lastError)) :
    hash' = hash ∧ Tally ((fresh hash envelope response).counts moves)
      (Poll.isOver env (Poll.budget settings (env.now start.world)) start.world)
      (statusAnswers (((fresh hash envelope response).after moves).pollCalls env settings start.world
        start.log)) attempts lastError := by
  have hhash := (after_consistent (s := fresh hash envelope response) ⟨rfl, rfl⟩ moves).1
  have hcount : ((fresh hash envelope response).after moves).attempts =
      (lastCount ((fresh hash envelope response).counts moves)).getD 0 := by
    rw [attempts_after]
    cases lastCount ((fresh hash envelope response).counts moves) <;> rfl
  obtain ⟨r, hend, hr⟩ := apply_poll_of_pending hpending env settings start
  have hresult : r = .ok (.timeout hash' attempts lastError) := by
    rw [← htimeout, ← Poll.result_concluded _ r, ← hend]
    rfl
  obtain ⟨rfl, rfl, rfl, hstopped⟩ := hr _ _ _ hresult
  rw [Poll.attempts_attempted_one, hcount]
  exact ⟨hhash, tally_of_count hstopped⟩

end Submission

/-- Surroundings whose world is whether the caller has cancelled, and a node that answers with a status
of its own. -/
def Poll.limbo : Surroundings Bool Rat where
  node :=
    { simulate := fun _ _ => pure {}
      send := fun _ _ => pure { status := "PENDING", hash := "ab" }
      status := fun _ _ => pure { status := "LIMBO" }
      latestLedger := fun _ => pure { sequence := 100 } }
  signer := fun payload _ => pure (.bytes payload)
  now := fun _ => 0
  cancellation := fun requested => some { requested }
  sleep := fun _ requested => requested

namespace Submission

/-- A poll ends with a fault after one call, and the next one is stopped before its first. -/
theorem timeout_tally_limbo :
    let settings : PollSettings Rat := ⟨.whole 0, 3, none⟩
    let moves : List (Move Bool Rat) := [.poll Poll.limbo settings ⟨false, []⟩]
    let s := (fresh "ab" none none).after moves
    s.isTerminal = false ∧
      ((s.poll Poll.limbo settings).run ⟨true, []⟩).1.2 = .ok (.timeout "ab" 1 none) ∧
      (fresh "ab" none none).counts moves = [1] ∧
      Tally ((fresh "ab" none none).counts moves) true
        (statusAnswers (s.pollCalls Poll.limbo settings true [])) 1 none := by
  intro settings moves s
  have hpending : s.isTerminal = false := rfl
  have htimeout : ((s.poll Poll.limbo settings).run ⟨true, []⟩).1.2 = .ok (.timeout "ab" 1 none) :=
    rfl
  have hover : Poll.isOver Poll.limbo (Poll.budget settings (Poll.limbo.now true)) true = true := by
    decide +kernel
  obtain ⟨-, htally⟩ :=
    timeout_tally "ab" none none moves Poll.limbo settings ⟨true, []⟩ hpending htimeout
  exact ⟨hpending, htimeout, by decide +kernel, hover ▸ htally⟩

/-- The call that is counted is not one of the poll that timed out. -/
theorem timeout_counts_earlier :
    let settings : PollSettings Rat := ⟨.whole 0, 3, none⟩
    let s := (fresh "ab" none none).after [.poll Poll.limbo settings ⟨false, []⟩]
    s.isTerminal = false ∧
      ((s.poll Poll.limbo settings).run ⟨true, []⟩).1.2 = .ok (.timeout "ab" 1 none) ∧
      (statusAnswers (s.pollCalls Poll.limbo settings true [])).length = 0 :=
  ⟨rfl, rfl, by decide +kernel⟩

end Submission
end LedgerFlow
