import LedgerFlow.Proofs.Pipeline.Calls

/-!
# The rounds of a poll

A poll is a sequence of rounds: a status call, and a wait when more attempts are left.  `Poll.Rounds`
says which calls are made, in which worlds, and how the poll ends; `Poll.rounds_attempts` says that the
attempts of a poll in recorded surroundings are such rounds.  What holds of all polls is then proved by
induction on the rounds, without running anything.

An answer is inconclusive when the poll goes on after it: the transaction is not known yet or is
pending, or the node could not be reached.  `Rounds.ending` is the main statement about endings: either
all answers were inconclusive, or exactly the last one was not.
-/

namespace LedgerFlow

variable {ω τ α : Type}

namespace Event

/-- The answer of a status call. -/
def status? : Event ω τ → Option (Except Fault StatusReply)
  | .status _ _ _ answer => some answer
  | _ => none

/-- Whether a call is a wait. -/
def isWait : Event ω τ → Bool
  | .sleep .. => true
  | _ => false

end Event

/-- The answers to status calls, in order. -/
def statusAnswers (calls : List (Event ω τ)) : List (Except Fault StatusReply) :=
  calls.filterMap Event.status?

@[simp] theorem statusAnswers_nil : statusAnswers ([] : List (Event ω τ)) = [] := rfl

@[simp] theorem statusAnswers_append (a b : List (Event ω τ)) :
    statusAnswers (a ++ b) = statusAnswers a ++ statusAnswers b :=
  List.filterMap_append

@[simp] theorem statusAnswers_status (w : ω) (hash : String) (timeout : Option τ)
    (answer : Except Fault StatusReply) (calls : List (Event ω τ)) :
    statusAnswers (.status w hash timeout answer :: calls) = answer :: statusAnswers calls := rfl

@[simp] theorem statusAnswers_sleep (w : ω) (delay : τ) (calls : List (Event ω τ)) :
    statusAnswers (.sleep w delay :: calls) = statusAnswers calls := rfl

@[simp] theorem statusAnswers_waits (w : ω) (delays : List τ) :
    statusAnswers (delays.map (Event.sleep w)) = [] := by
  simp [statusAnswers, Event.status?]

/-- An answer to a status call is that of a call. -/
theorem exists_of_mem_statusAnswers {calls : List (Event ω τ)} {answer : Except Fault StatusReply}
    (h : answer ∈ statusAnswers calls) :
    ∃ before hash timeout, .status before hash timeout answer ∈ calls := by
  obtain ⟨c, hc, hanswer⟩ := List.mem_filterMap.1 h
  cases c with
  | status before hash timeout =>
      obtain rfl := Option.some.inj hanswer
      exact ⟨before, hash, timeout, hc⟩
  | _ => cases hanswer

/-- A record in which a status has been answered starts with its first call. -/
theorem exists_cons_of_answered {c : Event ω τ} {calls before after : List (Event ω τ)}
    (hsplit : c :: calls = before ++ after) (hanswered : 0 < (statusAnswers before).length) :
    ∃ rest, before = c :: rest ∧ calls = rest ++ after := by
  rcases List.append_eq_cons_iff.1 hsplit.symm with ⟨rfl, -⟩ | ⟨rest, hbefore, hcalls⟩
  · cases hanswered
  · exact ⟨rest, hbefore, hcalls⟩

namespace Poll

/-! ## Answers -/

/-- Whether a poll goes on after an answer. -/
def isInconclusive : Except Fault StatusReply → Bool
  | .ok reply => reply.status == "NOT_FOUND" || reply.status == "PENDING"
  | .error fault => fault.isUnreachable

/-- The text of a transport failure. -/
def failureText? : Except Fault StatusReply → Option String
  | .ok _ => none
  | .error fault => if fault.isUnreachable then some fault.message else none

/-- The text of the last transport failure. -/
def lastFailure? (answers : List (Except Fault StatusReply)) : Option String :=
  (answers.filterMap failureText?).getLast?

theorem lastFailure?_cons (answer : Except Fault StatusReply)
    (answers : List (Except Fault StatusReply)) :
    lastFailure? (answer :: answers) = (lastFailure? answers).or (failureText? answer) := by
  unfold lastFailure?
  rw [List.filterMap_cons]
  cases failureText? answer with
  | none => exact (Option.or_none).symm
  | some text =>
      dsimp only
      rw [List.getLast?_cons]
      cases (answers.filterMap failureText?).getLast? <;> rfl

/-- What an answer after which a poll does not go on ends it with. -/
def conclusion (hash : String) : Except Fault StatusReply → Except Fault Outcome
  | .ok reply =>
    match outcome? reply hash with
    | .ok o => .ok (o.getD (.pending hash))
    | .error e => .error (.pipeline e)
  | .error fault => .error fault

/-- How a poll ends with an outcome or a fault; a fault leaves the outcome of the submission alone. -/
def concluded (s : Submission) : Except Fault Outcome → Ending
  | .ok o => ({ s with outcome := o }, .ok o)
  | .error fault => (s, .error fault)

theorem hash_concluded (s : Submission) (r : Except Fault Outcome) :
    (concluded s r).1.hash = s.hash := by
  cases r <;> rfl

theorem attempts_concluded (s : Submission) (r : Except Fault Outcome) :
    (concluded s r).1.attempts = s.attempts := by
  cases r <;> rfl

/-- What a poll is concluded with is its result. -/
theorem result_concluded (s : Submission) (r : Except Fault Outcome) : (concluded s r).2 = r := by
  cases r <;> rfl

theorem finish_eq_concluded {s : Submission} {o : Outcome} (hpending : s.isTerminal = false)
    (hhash : o.hash = s.hash) : finish s o = concluded s (.ok o) := by
  simp [finish, Submission.advance, hpending, hhash, concluded]

/-- Nothing is made of an inconclusive status. -/
theorem isInconclusive_ok_iff {reply : StatusReply} {hash : String} :
    isInconclusive (.ok reply) = true ↔ outcome? reply hash = .ok none := by
  unfold outcome? isInconclusive
  dsimp only
  split <;> simp_all

/-- The outcome that a status stands for is one of the same transaction. -/
theorem hash_of_outcome? {reply : StatusReply} {hash : String} {o : Outcome}
    (h : outcome? reply hash = .ok (some o)) : o.hash = hash := by
  unfold outcome? at h
  dsimp only at h
  split at h <;> simp at h <;> subst h <;> rfl

/-- What an attempt leads to, by the answer to its call. -/
def Progress.after (p : Progress) (number : Int) (answer : Except Fault StatusReply) : Step :=
  let s := { p.submission with attempts := number }
  if isInconclusive answer then .goOn ⟨s, (failureText? answer).or p.lastError⟩
  else .ended (concluded s (conclusion s.hash answer))

/-! ## Rounds -/

variable [Timeline τ]

/-- The wait before the next attempt, if more are left and there is time. -/
def delay? (env : Surroundings ω τ) (settings : PollSettings τ) (budget : Cancellation τ)
    (left : Nat) (w : ω) : Option τ :=
  if 0 < left then
    (bounded env budget w (some settings.interval)).filter fun delay => !isNothing delay
  else none

/-- The calls of the attempts that are left, the first of them with the given number: from a world to
a world, up to the ending. -/
inductive Rounds (env : Surroundings ω τ) (settings : PollSettings τ) (budget : Cancellation τ) :
    Nat → Int → Progress → ω → List (Event ω τ) → ω → Ending → Prop where
  /-- No attempt is left. -/
  | exhausted {number : Int} {p : Progress} {w : ω} :
      Rounds env settings budget 0 number p w [] w (giveUp p)
  /-- The budget or the caller's cancellation stops the next attempt. -/
  | stopped {left : Nat} {number : Int} {p : Progress} {w : ω} (hover : isOver env budget w = true) :
      Rounds env settings budget (left + 1) number p w [] w (giveUp p)
  /-- The answer to the next attempt ends the poll. -/
  | ended {left : Nat} {number : Int} {p : Progress} {w w' : ω} {answer : Except Fault StatusReply}
      {e : Ending} (hstart : isOver env budget w = false)
      (hcall : (env.node.status p.submission.hash (bounded env budget w settings.timeout)).Leads w
        answer w') (hend : p.after number answer = .ended e) :
      Rounds env settings budget (left + 1) number p w
        [.status w p.submission.hash (bounded env budget w settings.timeout) answer] w' e
  /-- The poll goes on, after a wait if there is one. -/
  | again {left : Nat} {number : Int} {p p' : Progress} {w w₁ w' : ω}
      {answer : Except Fault StatusReply} {rest : List (Event ω τ)} {e : Ending}
      (hstart : isOver env budget w = false)
      (hcall : (env.node.status p.submission.hash (bounded env budget w settings.timeout)).Leads w
        answer w₁) (hnext : p.after number answer = .goOn p')
      (hrest : Rounds env settings budget left (number + 1) p'
        ((delay? env settings budget left w₁).elim w₁ fun delay => env.sleep delay w₁) rest w' e) :
      Rounds env settings budget (left + 1) number p w
        (.status w p.submission.hash (bounded env budget w settings.timeout) answer ::
          ((delay? env settings budget left w₁).toList.map (Event.sleep w₁) ++ rest)) w' e

/-- Logging an outcome leaves the world alone. -/
theorem world_recordOutcome (o : Outcome) (s : Session ω) :
    ((recordOutcome o : StateM (Session ω) Unit).run s).2.world = s.world := by
  cases o with
  | failed a => exact Stage.world_run_recordEvents _ _ _ _
  | _ => rfl

/-- An attempt in recorded surroundings makes one call and leads to what its answer says. -/
theorem attempt_recorded (env : Surroundings ω τ) (settings : PollSettings τ)
    (budget : Cancellation τ) (number : Int) {p : Progress}
    (hpending : p.submission.isTerminal = false) (s : Session (Recorded ω τ)) :
    ∃ answer w', (env.node.status p.submission.hash
          (bounded env budget s.world.1 settings.timeout)).Leads s.world.1 answer w' ∧
      ((attempt env.recorded settings budget number p).run s).1 = p.after number answer ∧
      ((attempt env.recorded settings budget number p).run s).2.world = (w', s.world.2 ++
        [.status s.world.1 p.submission.hash (bounded env budget s.world.1 settings.timeout)
          answer]) := by
  obtain ⟨⟨w, calls⟩, log⟩ := s
  dsimp only
  rcases hout : (env.node.status p.submission.hash (bounded env budget w settings.timeout)).outcome
    ⟨w, log⟩ with ⟨answer, w', log'⟩
  refine ⟨answer, w', ⟨log, log', hout⟩, ?_⟩
  have hcall : (env.recorded.node.status p.submission.hash
      (bounded env.recorded budget (w, calls) settings.timeout)).run.run ⟨(w, calls), log⟩ = _ :=
    outcome_recordCall (fun w => .status w p.submission.hash _) calls hout
  unfold attempt
  simp only [Stage.run_bind, Stage.run_world, hcall]
  -- What follows the call depends on the answer alone.
  cases answer with
  | error fault =>
      cases hfault : fault.isUnreachable with
      | true =>
          simp only [hfault, if_true, Progress.after, isInconclusive, failureText?]
          exact ⟨rfl, rfl⟩
      | false =>
          simp only [hfault, Progress.after, isInconclusive, conclusion, concluded]
          exact ⟨rfl, rfl⟩
  | ok reply =>
      have hgoes : isInconclusive (.ok reply) = true ↔
          outcome? reply p.submission.hash = .ok none := isInconclusive_ok_iff
      cases hreply : outcome? reply p.submission.hash with
      | error e =>
          have hends : isInconclusive (.ok reply) = false := by
            rw [Bool.eq_false_iff, Ne, hgoes, hreply]
            nofun
          simp only [hreply, Progress.after, hends, conclusion, concluded]
          exact ⟨rfl, rfl⟩
      | ok o =>
          cases o with
          | none =>
              simp only [hreply, Progress.after, hgoes.2 hreply, if_true, failureText?]
              exact ⟨rfl, rfl⟩
          | some o =>
              have hends : isInconclusive (.ok reply) = false := by
                rw [Bool.eq_false_iff, Ne, hgoes, hreply]
                nofun
              have hfinish : finish { p.submission with attempts := number } o =
                  concluded { p.submission with attempts := number } (.ok o) :=
                finish_eq_concluded hpending (hash_of_outcome? hreply)
              simp only [hreply, Progress.after, hends, conclusion, Stage.run_bind, hfinish]
              exact ⟨rfl, world_recordOutcome o _⟩

/-- What follows a pause in recorded surroundings starts after a wait of the delay, if there is one. -/
theorem run_pause_recorded (env : Surroundings ω τ) (settings : PollSettings τ)
    (budget : Cancellation τ) (left : Nat) (k : StateM (Session (Recorded ω τ)) α) (w : ω)
    (calls : List (Event ω τ)) (log : List LogRecord) :
    (if 0 < left then pause env.recorded settings budget >>= fun _ => k else k).run
        ⟨(w, calls), log⟩ =
      k.run ⟨((delay? env settings budget left w).elim w fun delay => env.sleep delay w,
        calls ++ (delay? env settings budget left w).toList.map (Event.sleep w)), log⟩ := by
  have hnone : k.run ⟨(w, calls), log⟩ = k.run ⟨(w, calls ++ []), log⟩ := by
    rw [List.append_nil]
  unfold delay?
  split
  · have hbounded : bounded env.recorded budget (w, calls) (some settings.interval) =
        bounded env budget w (some settings.interval) := rfl
    unfold pause
    simp only [Stage.run_bind, Stage.run_world, hbounded]
    cases bounded env budget w (some settings.interval) with
    | none => exact hnone
    | some delay =>
        cases hzero : isNothing delay with
        | true =>
            have hdelay : (some delay).filter (fun delay => !isNothing delay) = none := by
              simp [hzero]
            rw [hdelay]
            simp only [hzero, if_true]
            exact hnone
        | false =>
            have hdelay : (some delay).filter (fun delay => !isNothing delay) = some delay := by
              simp [hzero]
            rw [hdelay]
            simp only [hzero]
            rfl
  · exact hnone

/-- A poll goes on after the inconclusive answers only, and remembers the last failure. -/
theorem Progress.eq_of_after_goOn {p p' : Progress} {number : Int}
    {answer : Except Fault StatusReply} (h : p.after number answer = .goOn p') :
    isInconclusive answer = true ∧
      p' = ⟨{ p.submission with attempts := number }, (failureText? answer).or p.lastError⟩ := by
  unfold Progress.after at h
  dsimp only at h
  split at h
  · next hanswer => exact ⟨hanswer, (Step.goOn.inj h).symm⟩
  · cases h

/-- A poll ends after the other answers. -/
theorem Progress.eq_of_after_ended {p : Progress} {number : Int}
    {answer : Except Fault StatusReply} {e : Ending} (h : p.after number answer = .ended e) :
    isInconclusive answer = false ∧
      e = concluded { p.submission with attempts := number }
        (conclusion p.submission.hash answer) := by
  unfold Progress.after at h
  dsimp only at h
  split at h
  · cases h
  · next hanswer => exact ⟨Bool.eq_false_iff.2 hanswer, (Step.ended.inj h).symm⟩

/-- The attempts of a poll in recorded surroundings are rounds. -/
theorem rounds_attempts (env : Surroundings ω τ) (settings : PollSettings τ)
    (budget : Cancellation τ) (left : Nat) (number : Int) {p : Progress}
    (hpending : p.submission.isTerminal = false) (s : Session (Recorded ω τ)) :
    ∃ calls, ((attempts env.recorded settings budget left number p).run s).2.world.2 =
        s.world.2 ++ calls ∧
      Rounds env settings budget left number p s.world.1 calls
        ((attempts env.recorded settings budget left number p).run s).2.world.1
        ((attempts env.recorded settings budget left number p).run s).1 := by
  induction left generalizing number p s with
  | zero => exact ⟨[], (List.append_nil _).symm, .exhausted⟩
  | succ left ih =>
      unfold attempts
      have hover : isOver env.recorded budget s.world = isOver env budget s.world.1 := rfl
      simp only [Stage.run_bind, Stage.run_world, hover]
      cases hstart : isOver env budget s.world.1 with
      | true => exact ⟨[], (List.append_nil _).symm, .stopped hstart⟩
      | false =>
          obtain ⟨answer, w₁, hcall, hstep, hworld⟩ :=
            attempt_recorded env settings budget number hpending s
          rcases hrun : (attempt env.recorded settings budget number p).run s with ⟨step, world, log⟩
          rw [hrun] at hstep hworld
          cases hworld
          simp only [Bool.false_eq_true, if_false, Stage.run_bind, hrun]
          cases step with
          | ended e => exact ⟨[_], rfl, .ended hstart hcall hstep.symm⟩
          | goOn p' =>
              have hpending' : p'.submission.isTerminal = false := by
                rw [(Progress.eq_of_after_goOn hstep.symm).2]
                exact hpending
              simp only [run_pause_recorded]
              obtain ⟨rest, hcalls, hrest⟩ := ih (number + 1) hpending'
                ⟨((delay? env settings budget left w₁).elim w₁ fun delay => env.sleep delay w₁, _), log⟩
              refine ⟨_, ?_, .again hstart hcall hstep.symm hrest⟩
              rw [hcalls]
              simp only [List.append_assoc, List.cons_append, List.nil_append]

/-! ## How rounds end -/

/-- A submission after a number of attempts, the first of them with the given number. -/
def attempted (s : Submission) (number : Int) (k : Nat) : Submission :=
  { s with attempts := if k = 0 then s.attempts else number + k - 1 }

theorem attempted_succ (s : Submission) (number : Int) (k : Nat) :
    attempted { s with attempts := number } (number + 1) k = attempted s number (k + 1) := by
  unfold attempted
  congr 1
  split <;> simp_all
  omega

variable {env : Surroundings ω τ} {settings : PollSettings τ} {budget : Cancellation τ} {left : Nat}
  {number : Int} {p : Progress} {w w' : ω} {calls : List (Event ω τ)} {e : Ending}

/-- A poll that gives up ends with a timeout. -/
theorem giveUp_eq_concluded (hpending : p.submission.isTerminal = false) :
    giveUp p = concluded p.submission
      (.ok (.timeout p.submission.hash p.submission.attempts p.lastError)) :=
  finish_eq_concluded hpending rfl

/-- **How a poll ends.**  Either all answers were inconclusive, and then no attempt was left or the
next one was stopped, or the last answer and no other one was conclusive. -/
theorem Rounds.ending (h : Rounds env settings budget left number p w calls w' e)
    (hpending : p.submission.isTerminal = false) :
    (∀ a ∈ statusAnswers calls, isInconclusive a = true) ∧
        ((statusAnswers calls).length = left ∨ isOver env budget w' = true) ∧
        e = concluded (attempted p.submission number (statusAnswers calls).length)
          (.ok (.timeout p.submission.hash
            (attempted p.submission number (statusAnswers calls).length).attempts
            ((lastFailure? (statusAnswers calls)).or p.lastError))) ∨
      ∃ earlier a, statusAnswers calls = earlier ++ [a] ∧
        (∀ x ∈ earlier, isInconclusive x = true) ∧ isInconclusive a = false ∧
        e = concluded (attempted p.submission number (statusAnswers calls).length)
          (conclusion p.submission.hash a) := by
  induction h with
  | exhausted =>
      refine .inl ⟨List.forall_mem_nil _, .inl rfl, ?_⟩
      exact giveUp_eq_concluded hpending
  | stopped hover =>
      refine .inl ⟨List.forall_mem_nil _, .inr hover, ?_⟩
      exact giveUp_eq_concluded hpending
  | @ended left number p w w' answer e hstart hcall hend =>
      obtain ⟨hanswer, rfl⟩ := Progress.eq_of_after_ended hend
      refine .inr ⟨[], answer, rfl, List.forall_mem_nil _, hanswer, ?_⟩
      have hattempts : attempted p.submission number 1 =
          { p.submission with attempts := number } := by
        simp [attempted]
      rw [statusAnswers_status, statusAnswers_nil, List.length_singleton, hattempts]
  | @again left number p p' w w₁ w' answer rest e hstart hcall hnext hrest ih =>
      obtain ⟨hanswer, rfl⟩ := Progress.eq_of_after_goOn hnext
      have hanswers : statusAnswers (.status w p.submission.hash
            (bounded env budget w settings.timeout) answer ::
              ((delay? env settings budget left w₁).toList.map (Event.sleep w₁) ++ rest)) =
          answer :: statusAnswers rest := by
        simp
      rw [hanswers, List.length_cons, ← attempted_succ, lastFailure?_cons, Option.or_assoc]
      rcases ih hpending with ⟨hall, hstop, hend⟩ | ⟨earlier, a, hsplit, hearlier, ha, hend⟩
      · exact .inl ⟨List.forall_mem_cons.2 ⟨hanswer, hall⟩, hstop.imp_left (congrArg (· + 1)), hend⟩
      · exact .inr ⟨answer :: earlier, a, by rw [hsplit, List.cons_append],
          List.forall_mem_cons.2 ⟨hanswer, hearlier⟩, ha, hend⟩

/-- A poll ends with the submission that it was given. -/
theorem Rounds.hash_eq (h : Rounds env settings budget left number p w calls w' e)
    (hpending : p.submission.isTerminal = false) : e.1.hash = p.submission.hash := by
  rcases h.ending hpending with ⟨-, -, rfl⟩ | ⟨earlier, a, -, -, -, rfl⟩
  · exact hash_concluded _ _
  · exact hash_concluded _ _

/-! ## The calls of rounds -/

/-- A call of a poll: the status of its submission while nothing stops the attempt, or a wait for as
long as the bounds allow. -/
inductive IsCall (env : Surroundings ω τ) (settings : PollSettings τ) (budget : Cancellation τ)
    (hash : String) : Event ω τ → Prop where
  | status {w : ω} {answer : Except Fault StatusReply} (hstart : isOver env budget w = false) :
      IsCall env settings budget hash
        (.status w hash (bounded env budget w settings.timeout) answer)
  | wait {w : ω} {delay : τ} (hdelay : bounded env budget w (some settings.interval) = some delay)
      (hsome : isNothing delay = false) : IsCall env settings budget hash (.sleep w delay)

theorem delay?_eq_some {delay : τ} (h : delay? env settings budget left w = some delay) :
    0 < left ∧ bounded env budget w (some settings.interval) = some delay ∧
      isNothing delay = false := by
  unfold delay? at h
  split at h
  · next hleft =>
      obtain ⟨hbounded, hsome⟩ := Option.filter_eq_some_iff.1 h
      exact ⟨hleft, hbounded, by simpa using hsome⟩
  · cases h

theorem Rounds.isCall (h : Rounds env settings budget left number p w calls w' e) :
    ∀ c ∈ calls, IsCall env settings budget p.submission.hash c := by
  induction h with
  | exhausted => exact List.forall_mem_nil _
  | stopped => exact List.forall_mem_nil _
  | ended hstart _ _ => exact List.forall_mem_singleton.2 (.status hstart)
  | @again left number p p' w w₁ w' answer rest e hstart hcall hnext hrest ih =>
      obtain ⟨-, rfl⟩ := Progress.eq_of_after_goOn hnext
      rw [List.forall_mem_cons, List.forall_mem_append]
      refine ⟨.status hstart, ?_, ih⟩
      intro c hc
      obtain ⟨delay, hdelay, rfl⟩ := List.mem_map.1 hc
      obtain ⟨-, hbounded, hsome⟩ := delay?_eq_some (Option.mem_toList.1 hdelay)
      exact .wait hbounded hsome

/-- There are no more status calls than attempts. -/
theorem Rounds.length_le (h : Rounds env settings budget left number p w calls w' e) :
    (statusAnswers calls).length ≤ left := by
  induction h with
  | exhausted => exact Nat.zero_le _
  | stopped => exact Nat.zero_le _
  | ended => exact Nat.succ_le_succ (Nat.zero_le _)
  | again _ _ _ _ ih => simpa using ih

/-- There are no more waits than status calls. -/
theorem Rounds.waits_le (h : Rounds env settings budget left number p w calls w' e) :
    (calls.filter Event.isWait).length ≤ (statusAnswers calls).length := by
  induction h with
  | exhausted => exact Nat.le_refl 0
  | stopped => exact Nat.le_refl 0
  | ended => exact Nat.zero_le _
  | @again left number p p' w w₁ w' answer rest e hstart hcall hnext hrest ih =>
      cases delay? env settings budget left w₁ with
      | none =>
          show (rest.filter Event.isWait).length ≤ (statusAnswers rest).length + 1
          exact Nat.le_succ_of_le ih
      | some delay =>
          show (rest.filter Event.isWait).length + 1 ≤ (statusAnswers rest).length + 1
          exact Nat.succ_le_succ ih

/-- Nothing is called after the last attempt. -/
theorem Rounds.eq_nil_of_last (h : Rounds env settings budget left number p w calls w' e)
    {before after : List (Event ω τ)} (hsplit : calls = before ++ after)
    (hlast : (statusAnswers before).length = left) : after = [] := by
  induction h generalizing before with
  | exhausted => exact (List.append_eq_nil_iff.1 hsplit.symm).2
  | stopped => exact (List.append_eq_nil_iff.1 hsplit.symm).2
  | ended =>
      obtain ⟨rest, -, hrest⟩ := exists_cons_of_answered hsplit (by omega)
      exact (List.append_eq_nil_iff.1 hrest.symm).2
  | @again left number p p' w w₁ w' answer rest e hstart hcall hnext hrest ih =>
      obtain ⟨before', rfl, hcalls⟩ := exists_cons_of_answered hsplit (by omega)
      have hlast' : (statusAnswers before').length = left := Nat.succ.inj hlast
      cases hdelay : delay? env settings budget left w₁ with
      | none =>
          rw [hdelay] at hcalls
          exact ih hcalls hlast'
      | some delay =>
          -- A wait is followed by another attempt, so the last one comes after it.
          rw [hdelay] at hcalls
          obtain ⟨hleft, -, -⟩ := delay?_eq_some hdelay
          obtain ⟨before'', rfl, hrest'⟩ := exists_cons_of_answered hcalls (by omega)
          exact ih hrest' hlast'

end Poll

namespace PollSettings

variable [Timeline τ] {settings : PollSettings τ}

theorem refusal?_eq_none_iff :
    settings.refusal? = none ↔ 1 ≤ settings.maxAttempts ∧ settings.isTooLong = false := by
  unfold refusal?
  split
  · next hlt => exact iff_of_false nofun fun h => absurd hlt (Int.not_lt.2 h.1)
  · next hge => cases settings.isTooLong <;> simp [Int.not_lt.1 hge]

theorem refusal?_of_isTooLong (hmax : 1 ≤ settings.maxAttempts) (hlong : settings.isTooLong = true) :
    settings.refusal? = some (.malformed .tooLarge) := by
  rw [refusal?, if_neg (Int.not_lt.2 hmax), if_pos hlong]

/-- The two ways in which settings are refused. -/
theorem refusal?_eq_some {fault : Fault} (h : settings.refusal? = some fault) :
    settings.maxAttempts < 1 ∧ fault = .invalidAttempts ∨
      1 ≤ settings.maxAttempts ∧ settings.isTooLong = true ∧ fault = .malformed .tooLarge := by
  unfold refusal? at h
  split at h
  · next hlt => exact .inl ⟨hlt, (Option.some.inj h).symm⟩
  · next hge =>
      split at h
      · next hlong => exact .inr ⟨Int.not_lt.1 hge, hlong, (Option.some.inj h).symm⟩
      · cases h

end PollSettings

namespace Submission

variable [Timeline τ] (env : Surroundings ω τ) (settings : PollSettings τ) (s : Submission) (w : ω)
  (log : List LogRecord)

/-- The calls of a poll from a world and a log, in order. -/
def pollCalls : List (Event ω τ) := ((s.poll env.recorded settings).run ⟨(w, []), log⟩).2.world.2

/-- Apart from the record, a recorded poll ends as the poll does. -/
theorem run_poll_recorded :
    (s.poll env.recorded settings).run ⟨(w, []), log⟩ =
      (((s.poll env settings).run ⟨w, log⟩).1,
        ⟨(((s.poll env settings).run ⟨w, log⟩).2.world, s.pollCalls env settings w log),
          ((s.poll env settings).run ⟨w, log⟩).2.log⟩) := by
  have hmirrors : Mirrors env (fun _ => True) (s.poll env.recorded settings) (s.poll env settings) :=
    mirrors_poll env settings (fun _ _ _ _ => trivial) (fun _ _ => trivial) s
  obtain ⟨new, hrun, -, -⟩ := hmirrors w [] log
  rw [pollCalls, hrun]

variable {s}

/-- Settings that are refused end a poll of a pending submission before anything else happens. -/
theorem run_poll_of_refused {settings : PollSettings τ} {fault : Fault} (hpending : s.isTerminal = false)
    (hrefused : settings.refusal? = some fault) (start : Session ω) :
    (s.poll env settings).run start = ((s, .error fault), start) := by
  unfold poll
  rw [if_neg (by simp [hpending]), hrefused]
  rfl

theorem pollCalls_of_refused {settings : PollSettings τ} {fault : Fault} (hpending : s.isTerminal = false)
    (hrefused : settings.refusal? = some fault) : s.pollCalls env settings w log = [] :=
  congrArg (fun e => e.2.world.2) (run_poll_of_refused env.recorded hpending hrefused _)

/-- A poll of a pending submission in recorded surroundings consists of rounds, numbered from one. -/
theorem rounds_poll_recorded (haccepted : settings.refusal? = none) (hpending : s.isTerminal = false)
    (start : Session (Recorded ω τ)) :
    ∃ calls, ((s.poll env.recorded settings).run start).2.world.2 = start.world.2 ++ calls ∧
      Poll.Rounds env settings (Poll.budget settings (env.now start.world.1))
        settings.maxAttempts.toNat 1 { submission := s } start.world.1 calls
        ((s.poll env.recorded settings).run start).2.world.1
        ((s.poll env.recorded settings).run start).1 := by
  have hpoll : (s.poll env.recorded settings).run start =
      (Poll.attempts env.recorded settings (Poll.budget settings (env.now start.world.1))
        settings.maxAttempts.toNat 1 { submission := s }).run start := by
    unfold poll
    rw [if_neg (by simp [hpending]), haccepted]
    rfl
  rw [hpoll]
  exact Poll.rounds_attempts env settings _ _ _ hpending start

variable (s)

/-- The calls of a poll of a pending submission, and its ending. -/
theorem rounds_poll (haccepted : settings.refusal? = none) (hpending : s.isTerminal = false) :
    Poll.Rounds env settings (Poll.budget settings (env.now w)) settings.maxAttempts.toNat 1
      { submission := s } w (s.pollCalls env settings w log)
      ((s.poll env settings).run ⟨w, log⟩).2.world ((s.poll env settings).run ⟨w, log⟩).1 := by
  obtain ⟨calls, hcalls, hrounds⟩ :=
    rounds_poll_recorded env settings haccepted hpending ⟨(w, []), log⟩
  change s.pollCalls env settings w log = calls at hcalls
  rw [run_poll_recorded] at hrounds
  rw [hcalls]
  exact hrounds

end Submission

namespace Poll

/-- Surroundings with a clock, a count of the calls, and a cancellation after ten seconds.  The node
takes half of every timeout; it cannot be reached first, then knows nothing, and then has the
transaction in ledger 7. -/
def hesitant : Surroundings (Rat × Nat) Rat where
  node :=
    { simulate := fun _ _ => pure {}
      send := fun _ _ => pure { status := "PENDING", hash := "ab" }
      status := fun _ timeout => do
        let (now, calls) ← Stage.world
        modify fun s => { s with world := (now + timeout.getD 0 / 2, calls + 1) }
        match calls with
        | 0 => Stage.fail (.unreachable "no route" none none)
        | 1 => pure { status := "NOT_FOUND" }
        | _ => pure { status := "SUCCESS", ledger := some 7 }
      latestLedger := fun _ => pure { sequence := 100 } }
  signer := fun payload _ => pure (.bytes payload)
  now := fun w => w.1
  cancellation := fun _ => some (.after 0 10)
  sleep := fun duration w => (w.1 + duration, w.2)

end Poll
end LedgerFlow
