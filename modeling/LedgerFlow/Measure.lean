import LedgerFlow.Binary64.Shortest
import LedgerFlow.Clock
import LedgerFlow.Value.Reader

/-!
# Measures

Durations that can be read from settings and shown in messages: a `Timeline` with conversions.
-/

namespace LedgerFlow

/-- A timeline whose numbers are read and shown. -/
class Measure (τ : Type) extends Timeline τ where
  ofBinary64 : Binary64 → τ
  /-- The number in messages. -/
  text : τ → String
  /-- The number with two decimal places. -/
  fixedTwo : τ → String
  /-- The integer part. -/
  truncate : τ → Value.Read Int

instance : Measure Float where
  ofBinary64 := Binary64.toFloat
  text x := (Binary64.ofFloat x).text
  fixedTwo x := (Binary64.ofFloat x).fixedTwo
  truncate x := (Value.float (Binary64.ofFloat x)).toInt

/-- The exact value of a finite number; zero for the others. -/
def Binary64.toRat (x : Binary64) : Rat :=
  if x.exponentField == 2047 then 0
  else
    let (m, q) := x.magnitude
    let (n, d) := Binary64.ratio m q
    mkRat (if x.isNegative then -(n : Int) else n) d

instance : Measure Rat where
  ofBinary64 := Binary64.toRat
  text x := toString x.num ++ "/" ++ toString x.den
  fixedTwo x := toString x.num ++ "/" ++ toString x.den
  truncate x := .ok (x.num.tdiv x.den)

/-- A number as settings give it. -/
inductive Amount (τ : Type) where
  | truth (b : Bool)
  | whole (n : Int)
  | real (x : τ)

namespace Amount

variable {τ : Type}

/-- The whole number that is given, if it is one. -/
def whole? : Amount τ → Option Int
  | .truth b => some (if b then 1 else 0)
  | .whole n => some n
  | .real _ => none

section Durations

variable [Timeline τ]

/-- The number as a duration. -/
def toTime : Amount τ → τ
  | .truth b => Timeline.ofInt (if b then 1 else 0)
  | .whole n => Timeline.ofInt n
  | .real x => x

/-- The number as a duration; a whole number out of range is none. -/
def toDuration (a : Amount τ) : Value.Read τ :=
  if a.whole?.all (Timeline.isInRange τ) then .ok a.toTime else .error .tooLarge

/-- A number of times the duration.  Whole numbers are multiplied before anything is rounded. -/
def times (a : Amount τ) (n : Int) : τ :=
  match a.whole? with
  | some m => Timeline.ofInt (m * n)
  | none => a.toTime * Timeline.ofInt n

/-- Whether a number of times the duration can be computed: the whole number that is rounded for it is
in range. -/
def hasTimes (a : Amount τ) (n : Int) : Bool :=
  Timeline.isInRange τ (a.whole?.elim n (· * n))

end Durations

variable [Measure τ]

/-- Reads a number that settings give. -/
def ofValue : Value → Value.Read (Amount τ)
  | .bool b => .ok (.truth b)
  | .int n => .ok (.whole n)
  | .float x => .ok (.real (Measure.ofBinary64 x))
  | _ => .error .wrongType

def text : Amount τ → String
  | .truth b => Value.boolText b
  | .whole n => toString n
  | .real x => Measure.text x

/-- The integer part. -/
def toInt : Amount τ → Value.Read Int
  | .truth b => .ok (if b then 1 else 0)
  | .whole n => .ok n
  | .real x => Measure.truncate x

def isNegative : Amount τ → Bool
  | .truth _ => false
  | .whole n => n < 0
  | .real x => x < 0

def isZero : Amount τ → Bool
  | .truth b => !b
  | .whole n => n == 0
  | .real x => decide (x ≤ 0) && decide (0 ≤ x)

end Amount
end LedgerFlow
