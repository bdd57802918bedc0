import LedgerFlow.Value.Show

/-!
# Reading values

Readers that take a dynamic value for a number, a text, bytes or a sequence, as leniently as
payloads need it, and say what is malformed when they cannot.
-/

namespace LedgerFlow
namespace Value

variable {ο : Type} [Objects ο]

/-- The result of a reader. -/
abbrev Read := Except Malformed

/-- The field of a map, or a default when the map does not have it. -/
def getD (v : Value ο) (key : String) (default : Value ο) : Read (Value ο) :=
  match v with
  | .map entries => .ok ((lookup key entries).getD default)
  | .object o => Objects.getD o key default
  | _ => .error .noFields

/-- The field of a map, or null. -/
def get (v : Value ο) (key : String) : Read (Value ο) := v.getD key .null

/-- The field that a map has to have. -/
def require (v : Value ο) (key : String) : Read (Value ο) :=
  match v with
  | .map entries =>
    match lookup key entries with
    | some x => .ok x
    | none => .error (.missing key)
  | .object o => Objects.require o key
  | _ => .error .wrongType

/-- An integer: numbers lose their fraction, text and bytes are read as literals. -/
def toInt : Value ο → Read Int
  | .int n => .ok n
  | .bool b => .ok (if b then 1 else 0)
  | .float x =>
    if x.isNaN then .error (.outOfRange "cannot convert float NaN to integer")
    else if x.isInfinite then .error .tooLarge
    else .ok x.truncate
  | .text s =>
    match Number.integer? s.toList with
    | some n => .ok n
    | none => .error .badNumber
  | .bytes b =>
    match Number.plainInteger? (b.map fun w => Char.ofNat w.toNat) with
    | some n => .ok n
    | none => .error .badNumber
  | .object o => Objects.toInt o
  | _ => .error .wrongType

/-- A text: text itself, any other value as it is shown, if its numbers can be. -/
def toText : Value ο → Read String
  | .text s => .ok s
  | .object o => Objects.toText o
  | v => if v.hasLongNumber then .error .badNumber else .ok v.shown

/-- A floating point number: integers are rounded, text is read as a literal. -/
def toReal : Value → Read Binary64
  | .float x => .ok x
  | .int n =>
    match Binary64.ofInt? n with
    | some x => .ok x
    | none => .error .tooLarge
  | .bool b => .ok (Binary64.ofRatio false (if b then 1 else 0) 1)
  | .text s =>
    match Number.real? s.toList with
    | some x => .ok x
    | none => .error .badNumber
  | _ => .error .wrongType

/-- One item of a byte sequence. -/
def toByte : Value ο → Read UInt8
  | .int n => if 0 ≤ n ∧ n < 256 then .ok (UInt8.ofNat n.toNat)
    else .error (.outOfRange "bytes must be in range(0, 256)")
  | .bool b => .ok (if b then 1 else 0)
  | .object o => Objects.toByte o
  | _ => .error .wrongType

/-- The memory of the machine holds so many bytes at once. -/
def memorySize : Nat := 2 ^ 38

/-- The number of zero bytes that an integer asks for.  A size is a 64-bit number, and some of the
largest are taken up by what a byte sequence holds besides its bytes. -/
def zeroCount (n : Int) : Read Nat :=
  if n < -2 ^ 63 || 2 ^ 63 - 33 ≤ n then .error .tooLarge
  else if n < 0 then .error (.outOfRange "negative count")
  else if memorySize < n then .error .noRoom
  else .ok n.toNat

/-- The zero bytes that an integer asks for. -/
def zeroBytes (n : Int) : Read Bytes := do
  let count ← zeroCount n
  pure (List.replicate count 0)

/-- Bytes: bytes themselves, a count of zero bytes, or small integers in a list or as keys. -/
def toBytes : Value ο → Read Bytes
  | .bytes b => .ok b
  | .int n => zeroBytes n
  | .bool b => zeroBytes (if b then 1 else 0)
  | .list items => items.mapM toByte
  | .map entries => (entries.map (·.1)).mapM toByte
  | .object o => Objects.toBytes o
  | _ => .error .wrongType

/-- The items of a sequence: of a list, the characters of a text, the numbers of bytes, the keys of
a map. -/
def toItems : Value ο → Read (List (Value ο))
  | .list items => .ok items
  | .text s => .ok (s.toList.map fun c => .text (String.singleton c))
  | .bytes b => .ok (b.map fun w => .int w.toNat)
  | .map entries => .ok (entries.map (·.1))
  | .object o => Objects.toItems o
  | _ => .error .wrongType

/-- The items of a sequence, none for null. -/
def toItemsOrNone : Value ο → Read (List (Value ο))
  | .null => .ok []
  | v => v.toItems

/-- The items of a sequence, none for anything that counts as absent. -/
def toItemsIfPresent (v : Value ο) : Read (List (Value ο)) :=
  if v.isTruthy then v.toItems else .ok []

end Value
end LedgerFlow
