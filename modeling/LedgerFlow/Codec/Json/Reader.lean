import LedgerFlow.Value
import LedgerFlow.Codec.Hex
import LedgerFlow.Number.Literal

/-!
# Reading JSON

Values from JSON text: integers of any size, numbers with a fraction or exponent as floating point
numbers, also the names of infinity and NaN.  Strings may not hold control characters.  The last of
equal keys wins.

Text is Unicode text.  The escape of half a surrogate pair spells no character, and the replacement
character stands in for it.
-/

namespace LedgerFlow
namespace Json

open Text

/-- A character between tokens that has no meaning. -/
def isSpace (c : Char) : Bool := c == ' ' || c == '\t' || c == '\n' || c == '\r'

def skipSpace (cs : List Char) : List Char := cs.dropWhile isSpace

/-- The UTF-16 unit of four hexadecimal digits. -/
def unit? : List Char → Option (Nat × List Char)
  | a :: b :: c :: d :: rest => (Hex.number? [a, b, c, d]).map fun n => (n, rest)
  | _ => none

/-- The character of a unit that may be completed by a second one. -/
def unitChar (n : Nat) (rest : List Char) : Char × List Char :=
  let single := (if 0xD800 ≤ n && n < 0xE000 then Char.ofNat 0xFFFD else Char.ofNat n, rest)
  if 0xD800 ≤ n && n < 0xDC00 then
    match rest with
    | '\\' :: 'u' :: more =>
      match unit? more with
      | some (m, tail) =>
        if 0xDC00 ≤ m && m < 0xE000 then
          (Char.ofNat (0x10000 + (n - 0xD800) * 0x400 + (m - 0xDC00)), tail)
        else single
      | none => single
    | _ => single
  else single

/-- The character of an escape, after the backslash. -/
def escape? : List Char → Option (Char × List Char)
  | 'u' :: rest => (unit? rest).map fun (n, rest) => unitChar n rest
  | 'n' :: rest => some ('\n', rest)
  | 't' :: rest => some ('\t', rest)
  | 'r' :: rest => some ('\r', rest)
  | 'b' :: rest => some (Char.ofNat 8, rest)
  | 'f' :: rest => some (Char.ofNat 12, rest)
  | c :: rest => if c == '"' || c == '\\' || c == '/' then some (c, rest) else none
  | [] => none

/-- The characters of a string up to its closing mark; the first argument bounds their number. -/
def chars? : Nat → List Char → Option (List Char × List Char)
  | 0, _ => none
  | fuel + 1, cs =>
    match cs with
    | [] => none
    | '"' :: rest => some ([], rest)
    | '\\' :: rest => do
      let (c, rest) ← escape? rest
      let (more, rest) ← chars? fuel rest
      pure (c :: more, rest)
    | c :: rest =>
      if c.toNat < 0x20 then none
      else do
        let (more, rest) ← chars? fuel rest
        pure (c :: more, rest)

/-- A string after its opening mark. -/
def string? (cs : List Char) : Option (String × List Char) :=
  (chars? (cs.length + 1) cs).map fun (s, rest) => (String.ofList s, rest)

/-- The fraction digits after a point, if there are any. -/
def fraction? : List Char → Option (List Nat × List Char)
  | '.' :: rest =>
    let (ds, rest) := Number.spanDigits rest
    if ds.isEmpty then none else some (ds, rest)
  | _ => none

/-- An exponent, if there is one. -/
def exponent? : List Char → Option (Int × List Char)
  | c :: rest =>
    if c == 'e' || c == 'E' then
      let (negative, rest) := Number.splitSign rest
      let (ds, rest) := Number.spanDigits rest
      if ds.isEmpty then none
      else some (if negative then -(ofDigits ds : Int) else (ofDigits ds : Int), rest)
    else none
  | [] => none

/-- The digits of a number up to its fraction; nothing follows a zero at their head. -/
def wholeDigits : List Char → List Nat × List Char
  | '0' :: rest => ([0], rest)
  | cs => Number.spanDigits cs

/-- A number after its sign. -/
def number? (negative : Bool) (cs : List Char) : Option (Value × List Char) :=
  let (whole, rest) := wholeDigits cs
  if whole.isEmpty then none
  else
    let (fraction, afterFraction) := (fraction? rest).getD ([], rest)
    match exponent? afterFraction with
    | some (e, rest) =>
      some (.float (Number.scaled negative (whole ++ fraction) (e - fraction.length)), rest)
    | none =>
      if fraction.isEmpty then
        if Number.maxDigits < whole.length then none
        else some (.int (if negative then -(ofDigits whole : Int) else ofDigits whole), rest)
      else
        some (.float (Number.scaled negative (whole ++ fraction) (-(fraction.length : Int))),
          afterFraction)

/-- What follows a word at the head of a text. -/
def afterWord? (word : String) (cs : List Char) : Option (List Char) :=
  if word.toList.isPrefixOf cs then some (cs.drop word.length) else none

/-- A value that is neither a string nor a container. -/
def scalar? (cs : List Char) : Option (Value × List Char) :=
  let named := [("null", Value.null), ("true", .bool true), ("false", .bool false),
    ("NaN", .float Binary64.nan), ("Infinity", .float (Binary64.infinity false)),
    ("-Infinity", .float (Binary64.infinity true))]
  match named.findSome? fun (word, v) => (afterWord? word cs).map fun rest => (v, rest) with
  | some found => some found
  | none =>
    match cs with
    | '-' :: rest => number? true rest
    | cs => number? false cs

/-- Why a text has no value. -/
inductive Refusal where
  /-- The text is not JSON. -/
  | illFormed
  /-- Its containers nest too deeply. -/
  | tooDeep
  deriving DecidableEq, Repr, Inhabited

/-- Only so many containers may nest. -/
def maxDepth : Nat := 960

/-- A reader that knows only one refusal. -/
def found {α : Type} : Option (α × List Char) → Except Refusal (α × List Char)
  | some x => .ok x
  | none => .error .illFormed

mutual

/-- A value at the head of a text; the first argument bounds the number of steps, the second how
deeply containers may nest. -/
def value? : Nat → Nat → List Char → Except Refusal (Value × List Char)
  | 0, _, _ => .error .illFormed
  | fuel + 1, depth, cs =>
    match cs, depth with
    | '"' :: rest, _ => (found (string? rest)).map fun (s, rest) => (.text s, rest)
    | '[' :: _, 0 => .error .tooDeep
    | '\x7b' :: _, 0 => .error .tooDeep
    | '[' :: rest, depth + 1 =>
      match skipSpace rest with
      | ']' :: rest => .ok (.list [], rest)
      | rest => (items? fuel depth rest).map fun (items, rest) => (.list items, rest)
    | '\x7b' :: rest, depth + 1 =>
      match skipSpace rest with
      | '\x7d' :: rest => .ok (.map [], rest)
      | rest => (entries? fuel depth rest).map fun (entries, rest) => (Value.ofEntries entries, rest)
    | cs, _ => found (scalar? cs)

/-- Items up to the closing bracket. -/
def items? : Nat → Nat → List Char → Except Refusal (List Value × List Char)
  | 0, _, _ => .error .illFormed
  | fuel + 1, depth, cs => do
    let (x, rest) ← value? fuel depth cs
    match skipSpace rest with
    | ']' :: rest => .ok ([x], rest)
    | ',' :: rest => do
      let (xs, rest) ← items? fuel depth (skipSpace rest)
      pure (x :: xs, rest)
    | _ => .error .illFormed

/-- Entries up to the closing brace. -/
def entries? : Nat → Nat → List Char → Except Refusal (List (Value × Value) × List Char)
  | 0, _, _ => .error .illFormed
  | fuel + 1, depth, cs =>
    match cs with
    | '"' :: rest => do
      let (k, rest) ← found (string? rest)
      match skipSpace rest with
      | ':' :: rest => do
        let (v, rest) ← value? fuel depth (skipSpace rest)
        match skipSpace rest with
        | '\x7d' :: rest => .ok ([(.text k, v)], rest)
        | ',' :: rest => do
          let (more, rest) ← entries? fuel depth (skipSpace rest)
          pure ((.text k, v) :: more, rest)
        | _ => .error .illFormed
      | _ => .error .illFormed
    | _ => .error .illFormed

end

/-- The value of a complete JSON text. -/
def parse (s : String) : Except Refusal Value := do
  let cs := skipSpace s.toList
  let (v, rest) ← value? (2 * cs.length + 2) maxDepth cs
  if (skipSpace rest).isEmpty then pure v else .error .illFormed

/-- The value of a complete JSON text, if it has one. -/
def parse? (s : String) : Option Value := (parse s).toOption

end Json
end LedgerFlow
