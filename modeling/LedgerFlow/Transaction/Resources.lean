import LedgerFlow.Value.Reader

/-!
# Resource declarations

The ledger keys that a contract call reads and writes, its budget, and the fee for both.  A
simulation fills these in; a transaction carries them as `SorobanData`.
-/

namespace LedgerFlow

/-- The ledger keys that a call reads, and those that it may write. -/
structure Footprint (ο : Type := Empty) where
  readOnly : List (Value ο) := []
  readWrite : List (Value ο) := []
  deriving Inhabited

/-- A footprint and a budget. -/
structure Resources (ο : Type := Empty) where
  footprint : Footprint ο := {}
  instructions : Int := 0
  readBytes : Int := 0
  writeBytes : Int := 0
  deriving Inhabited

/-- The resource declaration of a contract transaction. -/
structure SorobanData (ο : Type := Empty) where
  resources : Resources ο := {}
  resourceFee : Int := 0
  deriving Inhabited

variable {ο : Type}

namespace Footprint

def toValue (f : Footprint ο) : Value ο :=
  .record [("readOnly", .list f.readOnly), ("readWrite", .list f.readWrite)]

/-- Absent key lists are empty. -/
def ofValue [Objects ο] (v : Value ο) : Value.Read (Footprint ο) := do
  let readOnly ← (← v.get "readOnly").toItemsOrNone
  let readWrite ← (← v.get "readWrite").toItemsOrNone
  pure { readOnly, readWrite }

end Footprint

/-- The value of a field when it is present, else an empty map. -/
def Value.orEmptyMap [Objects ο] (v : Value ο) : Value ο := if v.isTruthy then v else .map []

namespace Resources

def toValue (r : Resources ο) : Value ο :=
  .record [("footprint", r.footprint.toValue), ("instructions", .int r.instructions),
    ("readBytes", .int r.readBytes), ("writeBytes", .int r.writeBytes)]

/-- Absent numbers are zero. -/
def ofValue [Objects ο] (v : Value ο) : Value.Read (Resources ο) := do
  let footprint ← Footprint.ofValue (← v.get "footprint").orEmptyMap
  let instructions ← (← v.getD "instructions" (.int 0)).toInt
  let readBytes ← (← v.getD "readBytes" (.int 0)).toInt
  let writeBytes ← (← v.getD "writeBytes" (.int 0)).toInt
  pure { footprint, instructions, readBytes, writeBytes }

end Resources

namespace SorobanData

def toValue (d : SorobanData ο) : Value ο :=
  .record [("resources", d.resources.toValue), ("resourceFee", .int d.resourceFee)]

def ofValue [Objects ο] (v : Value ο) : Value.Read (SorobanData ο) := do
  let resources ← Resources.ofValue (← v.get "resources").orEmptyMap
  let resourceFee ← (← v.getD "resourceFee" (.int 0)).toInt
  pure { resources, resourceFee }

end SorobanData
end LedgerFlow
