import LedgerFlow.Binary64
import LedgerFlow.Malformed

/-!
# Dynamic values

The values that travel in payloads and replies: null, truth values, integers of any size, floating
point numbers, text, bytes, lists, and maps whose entries keep their order.

A payload may also hold items of other kinds, such as dates or fractions.  A payload library makes objects
of them, and values may hold these; by default there are none.  `Objects` is what is seen of them.

Values compare by what they stand for.  Truth values are the numbers zero and one, a floating point
number equals the integer it is exactly, and maps compare without order.  Such equal values are one
key of a map: the first key stays, the last value wins.
-/

namespace LedgerFlow

/-- A sequence of bytes. -/
abbrev Bytes := List UInt8

/-- A dynamic value, with objects of some type. -/
inductive Value (ο : Type := Empty) where
  | null
  | bool (b : Bool)
  | int (n : Int)
  | float (x : Binary64)
  | text (s : String)
  | bytes (b : Bytes)
  | list (items : List (Value ο))
  | map (entries : List (Value ο × Value ο))
  | object (o : ο)
  deriving Inhabited

/-- What is seen of the objects that a payload library makes. -/
class Objects (ο : Type) where
  /-- The canonical bytes of an object. -/
  bytes : ο → Bytes
  /-- The object that these bytes stand for. -/
  canonical : ο → ο
  /-- It has the same canonical bytes. -/
  bytes_canonical : ∀ o, bytes (canonical o) = bytes o
  /-- How many containers inside each other a reader has to allow to read these bytes back; more than any
  reader allows when the library cannot write the object. -/
  depth : ο → Nat
  /-- Whether the maps inside an object have scalar keys only. -/
  hasScalarKeys : ο → Bool
  /-- Whether an object equals a value. -/
  equals : ο → Value ο → Bool
  /-- Whether an object counts as present. -/
  isTruthy : ο → Bool
  /-- An object as messages show it. -/
  shown : ο → String
  /-- Whether an object cannot be shown, for an integer in it of too many digits. -/
  hasLongNumber : ο → Bool
  /-- The value under a name, if an object has named fields and this one among them. -/
  field? : ο → String → Option (Value ο)
  /-- The value under a name, or the given one; a failure if an object has no named fields. -/
  getD : ο → String → Value ο → Except Malformed (Value ο)
  /-- The value under a name that has to be there. -/
  require : ο → String → Except Malformed (Value ο)
  /-- An object taken for a text. -/
  toText : ο → Except Malformed String
  /-- An object taken for an integer. -/
  toInt : ο → Except Malformed Int
  /-- An object taken for an item of a byte sequence. -/
  toByte : ο → Except Malformed UInt8
  /-- An object taken for bytes. -/
  toBytes : ο → Except Malformed Bytes
  /-- An object taken for a sequence. -/
  toItems : ο → Except Malformed (List (Value ο))

/-- Where nothing is said of objects, there are none. -/
@[default_instance]
instance : Objects Empty where
  bytes := nofun
  canonical := nofun
  bytes_canonical := nofun
  depth := nofun
  hasScalarKeys := nofun
  equals := nofun
  isTruthy := nofun
  shown := nofun
  hasLongNumber := nofun
  field? := nofun
  getD := nofun
  require := nofun
  toText := nofun
  toInt := nofun
  toByte := nofun
  toBytes := nofun
  toItems := nofun

namespace Value

variable {ο : Type}

/-- The integer that a value is, if it is a number with such a value. -/
def integral? : Value ο → Option Int
  | .bool b => some (if b then 1 else 0)
  | .int n => some n
  | .float x => x.toInt?
  | _ => none

/-- Equality of two numbers. -/
def sameNumber : Value ο → Value ο → Bool
  | .float x, .float y => x.same y
  | a, b =>
    match a.integral?, b.integral? with
    | some m, some n => m == n
    | _, _ => false

mutual

/-- Equality of values. -/
def same [Objects ο] : Value ο → Value ο → Bool
  | .object o, b => Objects.equals o b
  | a, .object o => Objects.equals o a
  | .null, .null => true
  | .text a, .text b => a == b
  | .bytes a, .bytes b => a == b
  | .list xs, .list ys => sameItems xs ys
  | .map xs, .map ys => xs.length == ys.length && sameEntries xs ys
  | .bool a, b => sameNumber (.bool a) b
  | .int a, b => sameNumber (.int a) b
  | .float a, b => sameNumber (.float a) b
  | _, _ => false

/-- Equality of lists, item by item. -/
def sameItems [Objects ο] : List (Value ο) → List (Value ο) → Bool
  | [], [] => true
  | x :: xs, y :: ys => same x y && sameItems xs ys
  | _, _ => false

/-- Whether every entry of the first map is one of the second. -/
def sameEntries [Objects ο] : List (Value ο × Value ο) → List (Value ο × Value ο) → Bool
  | [], _ => true
  | (k, v) :: rest, others =>
    others.any (fun other => same k other.1 && same v other.2) && sameEntries rest others

end

instance [Objects ο] : BEq (Value ο) := ⟨same⟩

/-- Whether two values are the same key of a map.  A NaN is never a key again. -/
def sameKey [Objects ο] (a b : Value ο) : Bool :=
  match a with
  | .float x => !x.isNaN && a.same b
  | _ => a.same b

/-- The entries of a map with one more: an equal key keeps its place and takes the new value. -/
def insertEntry [Objects ο] (entries : List (Value ο × Value ο)) (key value : Value ο) :
    List (Value ο × Value ο) :=
  if entries.any (fun e => sameKey e.1 key) then
    entries.map fun e => if sameKey e.1 key then (e.1, value) else e
  else entries ++ [(key, value)]

/-- The map with the given entries inserted from left to right. -/
def ofEntries [Objects ο] (entries : List (Value ο × Value ο)) : Value ο :=
  .map (entries.foldl (fun acc e => insertEntry acc e.1 e.2) [])

/-- A map from named fields, whose names differ. -/
def record (fields : List (String × Value ο)) : Value ο :=
  .map (fields.map fun f => (.text f.1, f.2))

/-- The value under a text key. -/
def lookup (key : String) : List (Value ο × Value ο) → Option (Value ο)
  | [] => none
  | (.text k, v) :: rest => if k == key then some v else lookup key rest
  | _ :: rest => lookup key rest

/-- The field of a map, if the value is a map that has it, or of an object. -/
def field? [Objects ο] (v : Value ο) (key : String) : Option (Value ο) :=
  match v with
  | .map entries => lookup key entries
  | .object o => Objects.field? o key
  | _ => none

def isNull : Value ο → Bool
  | .null => true
  | _ => false

/-- Whether a value counts as present: not null, not zero, not empty. -/
def isTruthy [Objects ο] : Value ο → Bool
  | .null => false
  | .bool b => b
  | .int n => n != 0
  | .float x => !x.isZero
  | .text s => !s.isEmpty
  | .bytes b => !b.isEmpty
  | .list items => !items.isEmpty
  | .map entries => !entries.isEmpty
  | .object o => Objects.isTruthy o

/-- Null for nothing. -/
def ofOption {α : Type} (f : α → Value ο) : Option α → Value ο
  | some a => f a
  | none => .null

/-- A list of texts. -/
def ofTexts (ts : List String) : Value ο := .list (ts.map .text)

mutual

/-- How many containers lie inside each other at most, those of objects included. -/
def depth [Objects ο] : Value ο → Nat
  | .list items => itemsDepth items + 1
  | .map entries => entriesDepth entries + 1
  | .object o => Objects.depth o
  | _ => 0

/-- The largest depth among items. -/
def itemsDepth [Objects ο] : List (Value ο) → Nat
  | [] => 0
  | x :: xs => max (depth x) (itemsDepth xs)

/-- The largest depth among keys and values of entries. -/
def entriesDepth [Objects ο] : List (Value ο × Value ο) → Nat
  | [] => 0
  | (k, v) :: rest => max (max (depth k) (depth v)) (entriesDepth rest)

end

/-- Structural induction: a list by its items, a map by its keys and values, an object as a whole. -/
@[elab_as_elim]
theorem structural {motive : Value ο → Prop} (null : motive .null)
    (bool : ∀ b, motive (.bool b)) (int : ∀ n, motive (.int n)) (float : ∀ x, motive (.float x))
    (text : ∀ s, motive (.text s)) (bytes : ∀ b, motive (.bytes b))
    (list : ∀ items, (∀ x ∈ items, motive x) → motive (.list items))
    (map : ∀ entries, (∀ e ∈ entries, motive e.1 ∧ motive e.2) → motive (.map entries))
    (object : ∀ o, motive (.object o))
    (v : Value ο) : motive v :=
  Value.rec (motive_2 := fun items => ∀ x ∈ items, motive x)
    (motive_3 := fun entries => ∀ e ∈ entries, motive e.1 ∧ motive e.2)
    (motive_4 := fun e => motive e.1 ∧ motive e.2)
    null bool int float text bytes list map object
    (List.forall_mem_nil _) (fun _ _ hx hxs => List.forall_mem_cons.2 ⟨hx, hxs⟩)
    (List.forall_mem_nil _) (fun _ _ he hes => List.forall_mem_cons.2 ⟨he, hes⟩)
    (fun _ _ hk hv => ⟨hk, hv⟩) v

end Value
end LedgerFlow
