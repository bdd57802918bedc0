import LedgerFlow.Proofs.Clock
import LedgerFlow.Proofs.Submission.Rounds

/-!
# How polls end

`Poll.Report` says what the end of a poll tells about the answers that were got: a success or a failure
repeats the last answer, a timeout says that no answer was conclusive and that the attempts or the time
ran out, and a fault is the first answer that is none of these.  It also counts calls and waits.

The main statement is `Submission.poll_report`, for every fresh submission, every node and every clock.
Only a poll whose time is too large to be computed has no report: it fails without an answer.  The statement
reads the report off the rounds of the poll (`Poll.Rounds.ending`): which answer is conclusive, and
what it ends the poll with, does not depend on how the poll got there.
-/

namespace LedgerFlow

variable {ω τ : Type}

namespace Poll

/-! ## Conclusive answers -/

/-- The last answer, after inconclusive ones only, is of a certain kind. -/
def EndsWith (answers : List (Except Fault StatusReply))
    (isLast : Except Fault StatusReply → Prop) : Prop :=
  ∃ earlier last, answers = earlier ++ [last] ∧ (∀ a ∈ earlier, isInconclusive a = true) ∧
    isLast last

/-- An answer has a certain status, and these are its facts about the transaction with the hash. -/
def Reports (hash status : String) (a : Applied) (answer : Except Fault StatusReply) : Prop :=
  ∃ reply, answer = .ok reply ∧ reply.status = status ∧
    a = ⟨hash, reply.ledger, reply.result, reply.resultMeta, reply.events⟩

/-- An answer has an unknown status, or is a fault other than a transport failure. -/
def Breaks (hash : String) (fault : Fault) (answer : Except Fault StatusReply) : Prop :=
  (∃ reply, answer = .ok reply ∧
      reply.status ∉ ["SUCCESS", "FAILED", "NOT_FOUND", "PENDING"] ∧
      fault = .pipeline (.unexpectedStatus reply.status (some hash))) ∨
    answer = .error fault ∧ fault.isUnreachable = false

variable {hash : String} {fault : Fault} {answer : Except Fault StatusReply}
  {answers earlier : List (Except Fault StatusReply)}

/-- The three ways in which an answer ends a poll. -/
theorem conclusion_eq_iff {r : Except Fault Outcome} :
    isInconclusive answer = false ∧ conclusion hash answer = r ↔
      (∃ a, r = .ok (.success a) ∧ Reports hash "SUCCESS" a answer) ∨
      (∃ a, r = .ok (.failed a) ∧ Reports hash "FAILED" a answer) ∨
      ∃ fault, r = .error fault ∧ Breaks hash fault answer := by
  unfold Reports Breaks
  cases answer with
  | error fault =>
      simp only [isInconclusive, conclusion]
      grind
  | ok reply =>
      simp only [isInconclusive, conclusion, outcome?]
      split <;> grind

theorem conclusion_eq_success_iff {a : Applied} :
    isInconclusive answer = false ∧ conclusion hash answer = .ok (.success a) ↔
      Reports hash "SUCCESS" a answer := by
  simp [conclusion_eq_iff]

theorem conclusion_eq_failed_iff {a : Applied} :
    isInconclusive answer = false ∧ conclusion hash answer = .ok (.failed a) ↔
      Reports hash "FAILED" a answer := by
  simp [conclusion_eq_iff]

theorem conclusion_eq_error_iff :
    isInconclusive answer = false ∧ conclusion hash answer = .error fault ↔
      Breaks hash fault answer := by
  simp [conclusion_eq_iff]

/-! ## Results -/

theorem endsWith_append_iff {isLast : Except Fault StatusReply → Prop} :
    EndsWith (earlier ++ [answer]) isLast ↔
      (∀ a ∈ earlier, isInconclusive a = true) ∧ isLast answer := by
  constructor
  · rintro ⟨earlier', last, hsplit, hearlier, hlast⟩
    obtain ⟨rfl, hsame⟩ := List.append_inj' hsplit rfl
    obtain rfl := List.singleton_inj.1 hsame
    exact ⟨hearlier, hlast⟩
  · rintro ⟨hearlier, hlast⟩
    exact ⟨earlier, answer, rfl, hearlier, hlast⟩

/-- The last answer and no other one is conclusive, and it ends a poll with a certain result. -/
def EndsIn (hash : String) (answers : List (Except Fault StatusReply)) (r : Except Fault Outcome) :
    Prop :=
  EndsWith answers fun a => isInconclusive a = false ∧ conclusion hash a = r

theorem not_endsIn (hall : ∀ a ∈ answers, isInconclusive a = true) (r : Except Fault Outcome) :
    ¬ EndsIn hash answers r := by
  rintro ⟨earlier, last, rfl, -, hlast, -⟩
  have hinconclusive := hall last (List.mem_append_right _ List.mem_cons_self)
  rw [hlast] at hinconclusive
  cases hinconclusive

theorem EndsIn.eq_iff {r r' : Except Fault Outcome} (h : EndsIn hash answers r) :
    r = r' ↔ EndsIn hash answers r' := by
  obtain ⟨earlier, last, rfl, hearlier, hlast, rfl⟩ := h
  rw [EndsIn, endsWith_append_iff]
  exact ⟨fun heq => ⟨hearlier, hlast, heq⟩, fun h => h.2.2⟩

/-- An outcome that a conclusive answer ends a poll with is one of an applied transaction. -/
theorem EndsIn.applied {o : Outcome} (h : EndsIn hash answers (.ok o)) :
    ∃ a, o = .success a ∨ o = .failed a := by
  obtain ⟨earlier, last, -, -, hlast⟩ := h
  rcases conclusion_eq_iff.1 hlast with ⟨a, ha, -⟩ | ⟨a, ha, -⟩ | ⟨fault, hfault, -⟩
  · exact ⟨a, .inl (Except.ok.inj ha)⟩
  · exact ⟨a, .inr (Except.ok.inj ha)⟩
  · cases hfault

/-- The result of a poll: a timeout when it was stopped while nothing was conclusive, or what its last
answer says. -/
def Settles (hash : String) (answers : List (Except Fault StatusReply)) (isStopped : Prop)
    (r : Except Fault Outcome) : Prop :=
  (∀ a ∈ answers, isInconclusive a = true) ∧ isStopped ∧
      r = .ok (.timeout hash answers.length (lastFailure? answers)) ∨
    EndsIn hash answers r

namespace Settles

variable {isStopped : Prop} {r : Except Fault Outcome}

/-- Every result but a timeout is that of the last answer. -/
theorem eq_iff (h : Settles hash answers isStopped r) {r' : Except Fault Outcome}
    (hr' : ∀ hash attempts lastError, r' ≠ .ok (.timeout hash attempts lastError)) :
    r = r' ↔ EndsIn hash answers r' := by
  rcases h with ⟨hall, -, htimeout⟩ | hend
  · rw [htimeout]
    exact iff_of_false (fun heq => hr' _ _ _ heq.symm) (not_endsIn hall r')
  · exact hend.eq_iff

theorem eq_timeout_iff (h : Settles hash answers isStopped r) {hash' : String} {attempts : Int}
    {lastError : Option String} :
    r = .ok (.timeout hash' attempts lastError) ↔
      (∀ a ∈ answers, isInconclusive a = true) ∧ isStopped ∧ hash' = hash ∧
        attempts = answers.length ∧ lastError = lastFailure? answers := by
  constructor
  · rintro rfl
    rcases h with ⟨hall, hstop, htimeout⟩ | hend
    · injection htimeout with htimeout
      injection htimeout with hhash hcount herror
      exact ⟨hall, hstop, hhash, hcount, herror⟩
    · obtain ⟨a, ha | ha⟩ := hend.applied
      · cases ha
      · cases ha
  · rintro ⟨hall, -, rfl, rfl, rfl⟩
    exact (h.resolve_right (not_endsIn hall r)).2.2

theorem ne_pending (h : Settles hash answers isStopped r) (hash' : String) :
    r ≠ .ok (.pending hash') := by
  rintro rfl
  rcases h with ⟨-, -, htimeout⟩ | hend
  · cases htimeout
  · obtain ⟨a, ha | ha⟩ := hend.applied
    · cases ha
    · cases ha

end Settles

/-! ## Reports -/

variable [Timeline τ]

/-- What a poll from one world to another tells by its ending, for the calls that it made. -/
structure Report (env : Surroundings ω τ) (settings : PollSettings τ) (s : Submission) (start : ω)
    (calls : List (Event ω τ)) (stop : ω) (e : Ending) : Prop where
  success_iff : ∀ a, e.2 = .ok (.success a) ↔
    EndsWith (statusAnswers calls) (Reports s.hash "SUCCESS" a)
  failed_iff : ∀ a, e.2 = .ok (.failed a) ↔
    EndsWith (statusAnswers calls) (Reports s.hash "FAILED" a)
  /-- A timeout: no answer is conclusive, and the attempts are used up or the next one would start
  after the budget or the caller's cancellation has fired. -/
  timeout_iff : ∀ hash attempts lastError, e.2 = .ok (.timeout hash attempts lastError) ↔
    (∀ a ∈ statusAnswers calls, isInconclusive a = true) ∧
      ((statusAnswers calls).length = settings.maxAttempts ∨
        (budget settings (env.now start)).hasFired (env.now stop) = true ∨
        env.hasFired stop = true) ∧
      hash = s.hash ∧ attempts = (statusAnswers calls).length ∧
      lastError = lastFailure? (statusAnswers calls)
  fault_iff : ∀ fault, e.2 = .error fault ↔ EndsWith (statusAnswers calls) (Breaks s.hash fault)
  /-- A poll never ends with a submission that is still pending. -/
  not_pending : ∀ hash, e.2 ≠ .ok (.pending hash)
  /-- The submission takes the outcome; a fault leaves it as it was. -/
  submission_eq : e.1 =
    { s with attempts := (statusAnswers calls).length, outcome := e.2.toOption.getD s.outcome }
  isCall : ∀ c ∈ calls, c.isWait = true ∨
    ∃ before timeout answer, c = .status before s.hash timeout answer
  length_le : (statusAnswers calls).length ≤ settings.maxAttempts
  waits_le : (calls.filter Event.isWait).length ≤ (statusAnswers calls).length
  /-- Nothing, and no wait either, comes after the last attempt. -/
  eq_nil_of_last : ∀ before after, calls = before ++ after →
    (statusAnswers before).length = settings.maxAttempts → after = []

variable {env : Surroundings ω τ} {settings : PollSettings τ} {budget : Cancellation τ} {left : Nat}
  {s : Submission} {w w' : ω} {calls : List (Event ω τ)} {e : Ending}

theorem Rounds.settles (h : Rounds env settings budget left 1 { submission := s } w calls w' e)
    (hpending : s.isTerminal = false) (hattempts : s.attempts = 0) :
    e = concluded { s with attempts := (statusAnswers calls).length } e.2 ∧
      Settles s.hash (statusAnswers calls)
        ((statusAnswers calls).length = left ∨ isOver env budget w' = true) e.2 := by
  have hattempted : attempted s 1 (statusAnswers calls).length =
      { s with attempts := (statusAnswers calls).length } := by
    unfold attempted
    congr 1
    split <;> omega
  rcases h.ending hpending with ⟨hall, hstop, rfl⟩ | ⟨earlier, a, hsplit, hearlier, ha, rfl⟩
  · rw [hattempted, Option.or_none]
    exact ⟨rfl, .inl ⟨hall, hstop, rfl⟩⟩
  · rw [hattempted]
    rw [result_concluded]
    exact ⟨rfl, .inr ⟨earlier, a, hsplit, hearlier, ha, rfl⟩⟩

/-- Rounds from the first attempt on end as they report. -/
theorem Rounds.report
    (h : Rounds env settings (Poll.budget settings (env.now w)) settings.maxAttempts.toNat 1
      { submission := s } w calls w' e)
    (hmax : 1 ≤ settings.maxAttempts) (hpending : s.isTerminal = false) (hattempts : s.attempts = 0) :
    Report env settings s w calls w' e := by
  have hlimit : ∀ k : Nat, k = settings.maxAttempts.toNat ↔ (k : Int) = settings.maxAttempts := by
    intro k
    omega
  have hover : isOver env (Poll.budget settings (env.now w)) w' = true ↔
      (Poll.budget settings (env.now w)).hasFired (env.now w') = true ∨ env.hasFired w' = true :=
    Bool.or_eq_true_iff
  obtain ⟨hconcluded, hsettles⟩ := h.settles hpending hattempts
  rw [hlimit, hover] at hsettles
  constructor
  case success_iff =>
    intro a
    rw [hsettles.eq_iff (by simp), EndsIn]
    simp only [conclusion_eq_success_iff]
  case failed_iff =>
    intro a
    rw [hsettles.eq_iff (by simp), EndsIn]
    simp only [conclusion_eq_failed_iff]
  case timeout_iff => exact fun _ _ _ => hsettles.eq_timeout_iff
  case fault_iff =>
    intro fault
    rw [hsettles.eq_iff (by simp), EndsIn]
    simp only [conclusion_eq_error_iff]
  case not_pending => exact hsettles.ne_pending
  case submission_eq =>
    rw [hconcluded]
    cases e.2 <;> rfl
  case isCall =>
    intro c hc
    cases h.isCall c hc with
    | status => exact .inr ⟨_, _, _, rfl⟩
    | wait => exact .inl rfl
  case length_le =>
    have hle := h.length_le
    omega
  case waits_le => exact h.waits_le
  case eq_nil_of_last =>
    intro before after hsplit hlast
    exact h.eq_nil_of_last hsplit ((hlimit _).2 hlast)

end Poll

namespace Submission

variable [Timeline τ]

/-- **What the end of a poll tells.**  A poll with a bound on its time that cannot be computed ends before
its first call, and leaves the submission as it was. -/
theorem poll_report (env : Surroundings ω τ) (settings : PollSettings τ)
    (hmax : 1 ≤ settings.maxAttempts) (hash : String) (envelope : Option Envelope)
    (response : Option SendReply) (w : ω) (log : List LogRecord) :
    let s := fresh hash envelope response
    let run := (s.poll env settings).run ⟨w, log⟩
    let calls := s.pollCalls env settings w log
    (settings.isTooLong = false → Poll.Report env settings s w calls run.2.world run.1) ∧
      (settings.isTooLong = true → run = ((s, .error (.malformed .tooLarge)), ⟨w, log⟩) ∧ calls = []) := by
  intro s run calls
  constructor
  · intro hshort
    have haccepted := PollSettings.refusal?_eq_none_iff.2 ⟨hmax, hshort⟩
    exact (rounds_poll env settings s w log haccepted rfl).report hmax rfl rfl
  · intro hlong
    have hrefused := PollSettings.refusal?_of_isTooLong hmax hlong
    exact ⟨run_poll_of_refused env rfl hrefused _, pollCalls_of_refused env w log rfl hrefused⟩

/-- Two of three attempts fit before the cancellation, and the first one failed. -/
theorem poll_report_hesitant :
    let settings : PollSettings Rat := ⟨.whole 4, 3, some 3⟩
    let s := fresh "ab" none none
    let calls := s.pollCalls Poll.hesitant settings (0, 0) []
    let run := (s.poll Poll.hesitant settings).run ⟨(0, 0), []⟩
    1 ≤ settings.maxAttempts ∧
      Poll.Report Poll.hesitant settings s (0, 0) calls run.2.world run.1 ∧
      (statusAnswers calls).length = 2 ∧
      Poll.lastFailure? (statusAnswers calls) = some "Unreachable[-]: no route" ∧
      (run.1.2.toOption.map Outcome.name) = some "timeout" :=
  ⟨by decide, (poll_report _ _ (by decide) _ _ _ _ _).1 rfl, by decide +kernel, by decide +kernel,
    by decide +kernel⟩

end Submission

/-- Surroundings whose node has every transaction at once, and whose arithmetic has a range. -/
def Poll.prompt : Surroundings Unit Limited where
  node :=
    { simulate := fun _ _ => pure {}
      send := fun _ _ => pure { status := "PENDING", hash := "ab" }
      status := fun _ _ => pure { status := "SUCCESS", ledger := some 7 }
      latestLedger := fun _ => pure { sequence := 100 } }
  signer := fun payload _ => pure (.bytes payload)
  now := fun _ => 0
  cancellation := fun _ => none
  sleep := fun _ w => w

namespace Submission

/-- The node would answer with a success, but is not asked: the fault comes from no answer. -/
theorem poll_overflows :
    let settings : PollSettings Limited := ⟨.real 1, 10 ^ 309, none⟩
    let s := fresh "ab" none none
    let run := (s.poll Poll.prompt settings).run ⟨(), []⟩
    let calls := s.pollCalls Poll.prompt settings () []
    1 ≤ settings.maxAttempts ∧ 0 < settings.interval ∧ run.1.2 = .error (.malformed .tooLarge) ∧
      ¬ Poll.Report Poll.prompt settings s () calls run.2.world run.1 := by
  intro settings s run calls
  have hmax : 1 ≤ settings.maxAttempts := by decide +kernel
  have hrefused : settings.refusal? = some (.malformed .tooLarge) :=
    PollSettings.refusal?_of_isTooLong hmax (by decide +kernel)
  have hrun : run = ((s, .error (.malformed .tooLarge)), ⟨(), []⟩) :=
    run_poll_of_refused Poll.prompt rfl hrefused _
  have hcalls : calls = [] := pollCalls_of_refused Poll.prompt () [] rfl hrefused
  refine ⟨hmax, by decide +kernel, by rw [hrun], fun hreport => ?_⟩
  have hfault := (hreport.fault_iff (.malformed .tooLarge)).1 (by rw [hrun])
  obtain ⟨earlier, last, hanswers, -⟩ := hfault
  rw [hcalls] at hanswers
  exact List.append_ne_nil_of_right_ne_nil earlier (List.cons_ne_nil last []) hanswers.symm

end Submission
end LedgerFlow
