import LedgerFlow.Measure
import LedgerFlow.Submission

/-!
# Polling

Asks for the status of a submission until it is final.  With a positive interval the whole poll,
calls included, ends within the interval times the number of attempts: every call and every wait is
bounded by the time left.  Without an interval only the attempts bound it.  A transport failure uses
up its attempt and is reported by a timeout.  A cancellation that fires ends the poll with a
timeout.  A poll whose time cannot be computed, because the number of attempts is out of the range of
the clock's arithmetic, fails before its first call.
-/

namespace LedgerFlow

/-- How a submission is polled. -/
structure PollSettings (τ : Type) where
  /-- The interval between two attempts, as it is given. -/
  every : Amount τ
  maxAttempts : Int
  /-- The timeout of each call. -/
  timeout : Option τ

namespace PollSettings

variable {τ : Type} [Timeline τ]

/-- The interval between two attempts. -/
def interval (settings : PollSettings τ) : τ := settings.every.toTime

/-- Whether the time that all attempts together may take is bounded, but too large to be computed. -/
def isTooLong (settings : PollSettings τ) : Bool :=
  decide (0 < settings.interval) && !settings.every.hasTimes settings.maxAttempts

/-- What is wrong with the settings, if anything is. -/
def refusal? (settings : PollSettings τ) : Option Fault :=
  if settings.maxAttempts < 1 then some .invalidAttempts
  else if settings.isTooLong then some (.malformed .tooLarge)
  else none

end PollSettings

namespace Poll

variable {ω τ : Type} [Timeline τ]

/-- The outcome that a status stands for, if it is final. -/
def outcome? (reply : StatusReply) (hash : String) : Except PipelineError (Option Outcome) :=
  let applied : Applied := ⟨hash, reply.ledger, reply.result, reply.resultMeta, reply.events⟩
  match reply.status with
  | "SUCCESS" => .ok (some (.success applied))
  | "FAILED" => .ok (some (.failed applied))
  | "NOT_FOUND" | "PENDING" => .ok none
  | status => .error (.unexpectedStatus status (some hash))

/-- A poll in progress: the submission, and the last transport failure. -/
structure Progress where
  submission : Submission
  lastError : Option String := none

/-- The end of a poll: the submission as it is then, and the outcome or a fault. -/
abbrev Ending := Submission × Except Fault Outcome

/-- Takes an outcome and ends. -/
def finish (s : Submission) (o : Outcome) : Ending :=
  match s.advance o with
  | .ok s => (s, .ok o)
  | .error f => (s, .error f)

/-- Ends without a final outcome. -/
def giveUp (p : Progress) : Ending :=
  finish p.submission (.timeout p.submission.hash p.submission.attempts p.lastError)

/-- The time that all attempts together may take, for settings that are not refused. -/
def budget (settings : PollSettings τ) (now : τ) : Cancellation τ :=
  if 0 < settings.interval then .after now (settings.every.times settings.maxAttempts) else .never

/-- Whether no attempt may start any more. -/
def isOver (env : Surroundings ω τ) (budget : Cancellation τ) (w : ω) : Bool :=
  budget.hasFired (env.now w) || env.hasFired w

/-- A timeout within the budget and the caller's cancellation. -/
def bounded (env : Surroundings ω τ) (budget : Cancellation τ) (w : ω) (timeout : Option τ) :
    Option τ :=
  env.bounded w (budget.bounded (env.now w) timeout)

/-- Whether a duration is zero. -/
def isNothing (duration : τ) : Bool := decide (duration ≤ 0) && decide (0 ≤ duration)

/-- Waits between two attempts, within the bounds. -/
def pause (env : Surroundings ω τ) (settings : PollSettings τ) (budget : Cancellation τ) :
    StateM (Session ω) Unit := do
  match bounded env budget (← Stage.world) (some settings.interval) with
  | some delay => if isNothing delay then pure () else env.wait delay
  | none => pure ()

/-- The count of an attempt in log lines. -/
def attemptText (settings : PollSettings τ) (attempt : Int) : String :=
  "(attempt " ++ toString attempt ++ "/" ++ toString settings.maxAttempts ++ ")"

/-- The ledger of a transaction in log lines. -/
def ledgerText (ledger : Option Int) : String := ledger.elim "None" toString

/-- Logs a final outcome. -/
def recordOutcome (o : Outcome) : StateM (Session ω) Unit :=
  match o with
  | .failed a => do
    Stage.record .warning
      ("transaction " ++ a.hash ++ " failed in ledger " ++ ledgerText a.ledger)
    Stage.recordEvents .warning "transaction" a.events
  | .success a =>
    Stage.record .info ("transaction " ++ a.hash ++ " succeeded in ledger " ++ ledgerText a.ledger)
  | _ => pure ()

/-- What one attempt led to. -/
inductive Step where
  | ended (e : Ending)
  | goOn (p : Progress)

/-- One call for the status. -/
def attempt (env : Surroundings ω τ) (settings : PollSettings τ) (budget : Cancellation τ)
    (number : Int) (p : Progress) : StateM (Session ω) Step := do
  let timeout := bounded env budget (← Stage.world) settings.timeout
  let s := { p.submission with attempts := number }
  match ← (env.node.status s.hash timeout).run with
  | .error fault =>
    if fault.isUnreachable then
      Stage.record .warning ("getTransaction " ++ s.hash ++ " failed "
        ++ attemptText settings number ++ ": " ++ fault.message)
      pure (.goOn ⟨s, some fault.message⟩)
    else pure (.ended (s, .error fault))
  | .ok reply =>
    match outcome? reply s.hash with
    | .error e => pure (.ended (s, .error (.pipeline e)))
    | .ok (some o) =>
      recordOutcome o
      pure (.ended (finish s o))
    | .ok none =>
      Stage.record .debug ("transaction " ++ s.hash ++ " " ++ reply.status ++ " "
        ++ attemptText settings number)
      pure (.goOn ⟨s, p.lastError⟩)

/-- The attempts that are left, the first of them with the given number. -/
def attempts (env : Surroundings ω τ) (settings : PollSettings τ) (budget : Cancellation τ) :
    Nat → Int → Progress → StateM (Session ω) Ending
  | 0, _, p => pure (giveUp p)
  | left + 1, number, p => do
    if isOver env budget (← Stage.world) then
      Stage.record .info ("polling " ++ p.submission.hash ++ " stopped after "
        ++ toString p.submission.attempts ++ " attempt(s)")
      pure (giveUp p)
    else
      match ← attempt env settings budget number p with
      | .ended e => pure e
      | .goOn p =>
        if 0 < left then pause env settings budget
        attempts env settings budget left (number + 1) p

end Poll

namespace Submission

variable {ω τ : Type} [Timeline τ]

/-- Polls a submission until it is final.  The submission is answered also when the poll ends with
a fault. -/
def poll (env : Surroundings ω τ) (settings : PollSettings τ) (s : Submission) :
    StateM (Session ω) Poll.Ending := do
  if s.isTerminal then pure (s, .ok s.outcome)
  else
    match settings.refusal? with
    | some fault => pure (s, .error fault)
    | none =>
      let budget := Poll.budget settings (env.now (← Stage.world))
      Poll.attempts env settings budget settings.maxAttempts.toNat 1 { submission := s }

end Submission
end LedgerFlow
