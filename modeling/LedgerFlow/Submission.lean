import LedgerFlow.Node

/-!
# Submissions

A submission follows one envelope until its outcome is known: it starts pending and ends as a
success, a failure, or a timeout.  A terminal outcome is never replaced.  A timeout is no failure;
the transaction may still apply.
-/

namespace LedgerFlow

/-- What the ledger did with a transaction. -/
structure Applied where
  hash : String
  ledger : Option Int := none
  result : Value := .null
  resultMeta : Value := .null
  events : List String := []
  deriving Inhabited

/-- How far a submission has come. -/
inductive Outcome where
  | pending (hash : String)
  | success (a : Applied)
  | failed (a : Applied)
  | timeout (hash : String) (attempts : Int) (lastError : Option String)
  deriving Inhabited

namespace Outcome

def hash : Outcome → String
  | .pending hash => hash
  | .success a => a.hash
  | .failed a => a.hash
  | .timeout hash _ _ => hash

def name : Outcome → String
  | .pending _ => "pending"
  | .success _ => "success"
  | .failed _ => "failed"
  | .timeout .. => "timeout"

/-- Whether the outcome is final. -/
def isTerminal : Outcome → Bool
  | .pending _ => false
  | _ => true

/-- What to do after a timeout. -/
def advice (hash : String) (attempts : Int) : String :=
  "transaction " ++ hash ++ " did not reach a terminal status after " ++ toString attempts
    ++ " attempt(s); it may still apply. Query it by hash before resubmitting."

/-- The further fields of an outcome. -/
def details : Outcome → List (String × Value)
  | .pending _ => []
  | .success a | .failed a =>
    [("ledger", .ofOption .int a.ledger), ("result", a.result), ("resultMeta", a.resultMeta),
      ("events", .ofTexts a.events)]
  | .timeout hash attempts lastError =>
    [("attempts", .int attempts), ("lastError", .ofOption .text lastError),
      ("advice", .text (advice hash attempts))]

def toValue (o : Outcome) : Value :=
  .record (("status", .text o.name) :: ("hash", .text o.hash) :: o.details)

end Outcome

/-- One submitted envelope and what is known of it. -/
structure Submission where
  hash : String
  envelope : Option Envelope := none
  response : Option SendReply := none
  attempts : Int := 0
  outcome : Outcome
  deriving Inhabited

namespace Submission

/-- A submission whose outcome is not known yet. -/
def fresh (hash : String) (envelope : Option Envelope) (response : Option SendReply) :
    Submission :=
  { hash, envelope, response, outcome := .pending hash }

def isTerminal (s : Submission) : Bool := s.outcome.isTerminal

/-- Takes an outcome of the same transaction, unless the outcome is final already. -/
def advance (s : Submission) (o : Outcome) : Except Fault Submission :=
  if s.isTerminal then .error (.alreadyTerminal s.hash s.outcome.name)
  else if o.hash ≠ s.hash then .error (.foreignOutcome o.hash s.hash)
  else .ok { s with outcome := o }

variable {ω τ : Type}

/-- A hash when it is there. -/
def hash? (hash : String) : Option String := if hash.isEmpty then none else some hash

/-- Sends an envelope once and classifies the answer.  Without a hash in the answer it is computed,
if the network is known. -/
def submit (node : Node ω τ) (envelope : Envelope) (passphrase : Option String)
    (timeout : Option τ) : Stage ω Submission := do
  let reply ← node.send envelope timeout
  let hash :=
    if reply.hash.isEmpty then passphrase.elim "" envelope.tx.hash else reply.hash
  match reply.status with
  | "ERROR" =>
    Stage.record .error ("sendTransaction rejected " ++ (hash? hash).getD "-" ++ ": "
      ++ reply.errorResult.plainText)
    Stage.recordEvents .error "submission" reply.diagnosticEvents
    let reason :=
      if reply.errorResult.isTruthy then reply.errorResult else .text "transaction rejected"
    Stage.fail (.rejected reason (hash? hash) (some reply.status) reply.errorResult
      reply.diagnosticEvents)
  | "TRY_AGAIN_LATER" =>
    Stage.fail (.tryAgainLater "node asked to resubmit later" (some "sendTransaction") none)
  | status =>
    if status ≠ "PENDING" ∧ status ≠ "DUPLICATE" then
      Stage.fail (.unexpectedStatus status (hash? hash))
    else if hash.isEmpty then
      Stage.fail (.rpc ⟨some "sendTransaction", RpcCode.internalError.number,
        "sendTransaction returned no hash", .null, .null, none⟩)
    else do
      if status = "DUPLICATE" then
        Stage.record .info ("transaction " ++ hash ++ " already known to the node")
      else Stage.record .info ("submitted transaction " ++ hash)
      pure (fresh hash (some envelope) (some reply))

end Submission
end LedgerFlow
