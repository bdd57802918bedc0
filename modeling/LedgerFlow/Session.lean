import LedgerFlow.Clock
import LedgerFlow.Fault
import LedgerFlow.Logging

/-!
# Sessions

A stage runs in a session: the state of the world outside, whatever that is, and the log so far.
It ends with a result or a fault, and the session goes on from there either way.
-/

namespace LedgerFlow

/-- The outside world and the log. -/
structure Session (ω : Type) where
  world : ω
  log : List LogRecord := []

/-- A computation in a session that may end with a fault. -/
abbrev Stage (ω : Type) := ExceptT Fault (StateM (Session ω))

namespace Stage

variable {ω : Type} {m : Type → Type}

/-- Adds a record to the log. -/
def record [MonadState (Session ω) m] (level : Level) (message : String) : m Unit :=
  modify fun s => { s with log := s.log ++ [⟨level, message⟩] }

/-- Ends a stage with an error of the pipeline. -/
def fail {α : Type} (e : PipelineError) : Stage ω α := throw (.pipeline e)

/-- A result that is known. -/
def ofExcept {α : Type} : Except Fault α → Stage ω α
  | .ok a => pure a
  | .error f => throw f

/-- Runs a stage and goes on whether it ends with a result or a fault. -/
def attempt {α : Type} (x : Stage ω α) : Stage ω (Except Fault α) := ExceptT.lift x.run

/-- The world as it is. -/
def world [Monad m] [MonadState (Session ω) m] : m ω := return (← get).world

/-- Logs events one by one. -/
def recordEvents [Monad m] [MonadState (Session ω) m] (level : Level) (context : String)
    (events : List String) : m Unit :=
  events.zipIdx.forM fun (event, i) =>
    record level (context ++ " event " ++ toString (i + 1) ++ ": " ++ event)

end Stage
end LedgerFlow
