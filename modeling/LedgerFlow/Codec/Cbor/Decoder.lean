import LedgerFlow.Codec.Cbor.Encoder

/-!
# Reading binary payloads

An item is read in any spelling: longer heads than needed, indefinite lengths, big integers of any
length, and duplicate keys, of which the last wins.  Bytes after the first item are ignored.  Text
has to be well-formed UTF-8, chunk by chunk.  At most four hundred containers may nest.

Tags other than those of big integers, the undefined and the unassigned simple values stand for objects
of other kinds, such as dates and references.  The reader leaves those items to its surroundings.
-/

namespace LedgerFlow
namespace Cbor

/-- The deepest nesting of containers that is read. -/
def maxDepth : Nat := 400

/-- Why bytes are not read. -/
inductive Refusal where
  /-- No well-formed item stands there, or its containers nest too deep. -/
  | illFormed
  /-- The item stands for an object that nobody makes. -/
  | foreign
  deriving DecidableEq, Repr, Inhabited

/-- The result of a reader: what is read and, for most, the bytes that follow it. -/
abbrev Read := Except Refusal

/-- What the reader leaves to its surroundings. -/
structure Reader (ο : Type := Empty) where
  /-- The value of the entries of a map. -/
  ofEntries : List (Value ο × Value ο) → Value ο
  /-- An item that stands for an object, from its head on, with at most as many containers inside each
  other as the first argument says. -/
  foreign : Nat → Bytes → Read (Value ο × Bytes)

/-- The payload library, which reads the items that stand for objects. -/
class Library (ο : Type) where
  /-- An item at some place in a payload: the whole payload, how many containers may nest in the item, and
  the bytes from its head on.  What is read may also be a plain value, such as one that stands in the
  payload before. -/
  read : Bytes → Nat → Bytes → Read (Value ο × Bytes)

/-- Without objects, nobody reads such an item. -/
instance : Library Empty where
  read _ _ _ := .error .foreign

variable {ο : Type}

/-- The number that bytes spell, most significant first. -/
def ofBigEndian (bs : Bytes) : Nat :=
  bs.foldl (fun n b => 256 * n + b.toNat) 0

/-- The first `n` bytes and the rest. -/
def take? (n : Nat) (bs : Bytes) : Read (Bytes × Bytes) :=
  let front := bs.take n
  if front.length == n then .ok (front, bs.drop n) else .error .illFormed

/-- What the low bits of a head announce. -/
inductive Argument where
  | number (n : Nat)
  | indefinite
  deriving DecidableEq, Repr

/-- The argument of a head with the given low bits. -/
def argument? (low : Nat) (bs : Bytes) : Read (Argument × Bytes) :=
  if low < 24 then .ok (.number low, bs)
  else if low < 28 then do
    let (front, rest) ← take? (2 ^ (low - 24)) bs
    pure (.number (ofBigEndian front), rest)
  else if low == 31 then .ok (.indefinite, bs)
  else .error .illFormed

/-- The argument of a head that has to announce a number. -/
def number? (low : Nat) (bs : Bytes) : Read (Nat × Bytes) := do
  let (a, rest) ← argument? low bs
  match a with
  | .number n => pure (n, rest)
  | .indefinite => .error .illFormed

/-- The byte that ends an indefinite sequence. -/
def breakByte : UInt8 := 0xFF

/-- Runs a reader `n` times. -/
def times {α : Type} (read : Bytes → Read (α × Bytes)) : Nat → Bytes → Read (List α × Bytes)
  | 0, bs => .ok ([], bs)
  | n + 1, bs => do
    let (x, rest) ← read bs
    let (xs, rest) ← times read n rest
    pure (x :: xs, rest)

/-- Runs a reader up to the byte that ends an indefinite sequence; the first argument bounds the
number of items. -/
def untilBreak {α : Type} (read : Bytes → Read (α × Bytes)) : Nat → Bytes → Read (List α × Bytes)
  | 0, _ => .error .illFormed
  | fuel + 1, bs =>
    match bs with
    | [] => .error .illFormed
    | b :: tail =>
      if b == breakByte then .ok ([], tail)
      else do
        let (x, rest) ← read bs
        let (xs, rest) ← untilBreak read fuel rest
        pure (x :: xs, rest)

/-- Runs a reader as often as an argument says. -/
def sequence {α : Type} (read : Bytes → Read (α × Bytes)) (a : Argument) (bs : Bytes) :
    Read (List α × Bytes) :=
  match a with
  | .number n => times read n bs
  | .indefinite => untilBreak read (bs.length + 1) bs

/-- A string of definite length, given its major type. -/
def chunk? (major : Nat) (bs : Bytes) : Read (Bytes × Bytes) :=
  match bs with
  | [] => .error .illFormed
  | b :: rest =>
    if b.toNat / 32 == major then do
      let (n, rest) ← number? (b.toNat % 32) rest
      take? n rest
    else .error .illFormed

/-- A byte string after its head. -/
def byteString? (a : Argument) (bs : Bytes) : Read (Bytes × Bytes) :=
  match a with
  | .number n => take? n bs
  | .indefinite => do
    let (chunks, rest) ← untilBreak (chunk? 2) (bs.length + 1) bs
    pure (chunks.flatten, rest)

/-- The text that bytes spell. -/
def text? (bs : Bytes) : Read String :=
  match Utf8.decode? bs with
  | some s => .ok s
  | none => .error .illFormed

/-- A text string after its head; every chunk is text on its own. -/
def textString? (a : Argument) (bs : Bytes) : Read (String × Bytes) :=
  match a with
  | .number n => do
    let (front, rest) ← take? n bs
    pure (← text? front, rest)
  | .indefinite => do
    let (chunks, rest) ← untilBreak (chunk? 3) (bs.length + 1) bs
    pure (String.join (← chunks.mapM text?), rest)

/-- The magnitude of a big integer, which stands as a byte string after the tag; an item of any other
kind is read before it is refused. -/
def bigMagnitude? (read : Bytes → Read (Value ο × Bytes)) (bs : Bytes) : Read (Nat × Bytes) :=
  match bs with
  | [] => .error .illFormed
  | b :: rest =>
    if b.toNat / 32 == 2 then do
      let (a, rest) ← argument? (b.toNat % 32) rest
      let (digits, rest) ← byteString? a rest
      pure (ofBigEndian digits, rest)
    else do
      let _ ← read bs
      .error .illFormed

/-- Whether an item of the last major type stands for an object: the undefined, or a simple value
without a meaning of its own. -/
def isObject (low : Nat) : Bool := low < 20 || low == 23 || low == 24

/-- A simple value or a floating point number after its head byte. -/
def simple? (low : Nat) (bs : Bytes) : Read (Value ο × Bytes) :=
  if low == 20 then .ok (.bool false, bs)
  else if low == 21 then .ok (.bool true, bs)
  else if low == 22 then .ok (.null, bs)
  else if low == 25 then do
    let (w, rest) ← take? 2 bs
    pure (.float (Binary64.widen Binary64.half (ofBigEndian w)), rest)
  else if low == 26 then do
    let (w, rest) ← take? 4 bs
    pure (.float (Binary64.widen Binary64.single (ofBigEndian w)), rest)
  else if low == 27 then do
    let (w, rest) ← take? 8 bs
    pure (.float (Binary64.ofBits (UInt64.ofNat (ofBigEndian w))), rest)
  else .error .illFormed

/-- A key and a value. -/
def association? (read : Bytes → Read (Value ο × Bytes)) (bs : Bytes) :
    Read ((Value ο × Value ο) × Bytes) := do
  let (k, rest) ← read bs
  let (v, rest) ← read rest
  pure ((k, v), rest)

/-- One item whose containers nest at most as deep as the second argument says. -/
def item? (r : Reader ο) : Nat → Bytes → Read (Value ο × Bytes)
  | _, [] => .error .illFormed
  | depth, b :: rest =>
    let low := b.toNat % 32
    match b.toNat / 32 with
    | 0 => do
      let (n, rest) ← number? low rest
      pure (.int n, rest)
    | 1 => do
      let (n, rest) ← number? low rest
      pure (.int (-1 - n), rest)
    | 2 => do
      let (a, rest) ← argument? low rest
      let (bs, rest) ← byteString? a rest
      pure (.bytes bs, rest)
    | 3 => do
      let (a, rest) ← argument? low rest
      let (s, rest) ← textString? a rest
      pure (.text s, rest)
    | 4 =>
      match depth with
      | 0 => .error .illFormed
      | depth + 1 => do
        let (a, rest) ← argument? low rest
        let (items, rest) ← sequence (item? r depth) a rest
        pure (.list items, rest)
    | 5 =>
      match depth with
      | 0 => .error .illFormed
      | depth + 1 => do
        let (a, rest) ← argument? low rest
        let (entries, rest) ← sequence (association? (item? r depth)) a rest
        pure (r.ofEntries entries, rest)
    | 6 => do
      let inner : Bytes → Read (Value ο × Bytes) :=
        match depth with
        | 0 => fun _ => .error .illFormed
        | depth + 1 => item? r depth
      let (tag, content) ← number? low rest
      if tag == 2 then do
        let (n, rest) ← bigMagnitude? inner content
        pure (.int n, rest)
      else if tag == 3 then do
        let (n, rest) ← bigMagnitude? inner content
        pure (.int (-1 - n), rest)
      else r.foreign depth (b :: rest)
    | _ => if isObject low then r.foreign depth (b :: rest) else simple? low rest
  termination_by structural depth => depth

/-- The reader of a payload. -/
def reader [Objects ο] [Library ο] (payload : Bytes) : Reader ο :=
  { ofEntries := Value.ofEntries, foreign := Library.read payload }

/-- The first item of a payload. -/
def decode? [Objects ο] [Library ο] (payload : Bytes) : Read (Value ο) :=
  (item? (reader payload) maxDepth payload).map (·.1)

end Cbor
end LedgerFlow
