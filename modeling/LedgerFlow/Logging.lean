import LedgerFlow.Text.Upper

/-!
# Log records

Records have a level and a message.  Levels are numbers with well-known names; a configured level
is a number or a name of any case, and an unknown name counts as a warning.
-/

namespace LedgerFlow

/-- How grave a record is. -/
inductive Level where
  | debug
  | info
  | warning
  | error
  deriving DecidableEq, Repr, Inhabited

namespace Level

def name : Level → String
  | .debug => "DEBUG"
  | .info => "INFO"
  | .warning => "WARNING"
  | .error => "ERROR"

def number : Level → Int
  | .debug => 10
  | .info => 20
  | .warning => 30
  | .error => 40

/-- The numbers of all level names. -/
def named : List (String × Int) :=
  [("DEBUG", 10), ("INFO", 20), ("WARNING", 30), ("WARN", 30), ("ERROR", 40), ("CRITICAL", 50),
    ("FATAL", 50), ("NOTSET", 0)]

/-- The number that a level name of any case stands for. -/
def threshold (name : String) : Int := (named.lookup (Text.upper name)).getD warning.number

end Level

/-- One line of a log. -/
structure LogRecord where
  level : Level
  message : String
  deriving DecidableEq, Repr

/-- The records that a threshold lets through. -/
def shownRecords (threshold : Int) (records : List LogRecord) : List LogRecord :=
  records.filter fun r => threshold ≤ r.level.number

/-- The word for entries in a number of entries. -/
def entriesWord (n : Nat) : String := if n == 1 then "entry" else "entries"

end LedgerFlow
