import LedgerFlow.Value.Reader
import LedgerFlow.Codec.Hex

/-!
# Writing JSON

Text for values that JSON can hold: everything but bytes, with keys that are texts, numbers or
null.  A layout says whether characters beyond ASCII are escaped, how separators are spaced, and
how far nested lines are indented.

`Value.readable` prepares any value for readers: bytes become hexadecimal text, keys become texts
in the order of their code points, and of two keys with one text the last entry wins.
-/

namespace LedgerFlow
namespace Json

/-- How JSON text is laid out. -/
structure Layout where
  /-- Escape every character beyond printable ASCII. -/
  ascii : Bool
  /-- Put a blank after separators. -/
  spaced : Bool
  /-- Put every item on a line of its own, indented by so many blanks for each level. -/
  indent : Option Nat
  deriving DecidableEq, Repr

/-- Everything on one line, without blanks. -/
def Layout.compact : Layout := ⟨false, false, none⟩

/-- ASCII text, indented if a width is given. -/
def Layout.printed (indent : Option Nat) : Layout := ⟨true, true, indent⟩

/-- A UTF-16 unit as an escape. -/
def unitEscape (n : Nat) : List Char := '\\' :: 'u' :: Text.hexDigits 4 n

/-- One character of a JSON string. -/
def escapeChar (ascii : Bool) (c : Char) : List Char :=
  let n := c.toNat
  if c == '"' then ['\\', '"']
  else if c == '\\' then ['\\', '\\']
  else if c == '\n' then ['\\', 'n']
  else if c == '\r' then ['\\', 'r']
  else if c == '\t' then ['\\', 't']
  else if n == 8 then ['\\', 'b']
  else if n == 12 then ['\\', 'f']
  else if n < 0x20 then unitEscape n
  else if !ascii || n < 0x7F then [c]
  else if n < 0x10000 then unitEscape n
  else unitEscape (0xD800 + (n - 0x10000) / 0x400) ++ unitEscape (0xDC00 + (n - 0x10000) % 0x400)

/-- A JSON string. -/
def string (ascii : Bool) (s : String) : String :=
  String.ofList ('"' :: s.toList.flatMap (escapeChar ascii) ++ ['"'])

/-- A JSON number for a floating point number. -/
def number (x : Binary64) : String :=
  if x.isNaN then "NaN"
  else if x.isInfinite then (if x.isNegative then "-Infinity" else "Infinity")
  else x.text

/-- The text of a key, if JSON has one for it. -/
def key? : Value → Option String
  | .text s => some s
  | .null => some "null"
  | .bool b => some (if b then "true" else "false")
  | .int n => some (toString n)
  | .float x => some (number x)
  | _ => none

/-- A line end with the indentation of a level, when lines are indented. -/
def Layout.newline (l : Layout) (level : Nat) : String :=
  match l.indent with
  | none => ""
  | some width => String.ofList ('\n' :: List.replicate (width * level) ' ')

/-- Items between brackets at a level. -/
def Layout.enclose (l : Layout) (level : Nat) (opening closing : String) (items : List String) :
    String :=
  if items.isEmpty then opening ++ closing
  else
    let comma := if l.indent.isNone && l.spaced then ", " else ","
    opening ++ l.newline (level + 1) ++ (comma ++ l.newline (level + 1)).intercalate items
      ++ l.newline level ++ closing

mutual

/-- The text of a value at a level, if JSON can hold it. -/
def write? (l : Layout) (level : Nat) : Value → Option String
  | .null => some "null"
  | .bool b => some (if b then "true" else "false")
  | .int n => some (toString n)
  | .float x => some (number x)
  | .text s => some (string l.ascii s)
  | .bytes _ => none
  | .list items => (writeItems? l (level + 1) items).map (l.enclose level "[" "]")
  | .map entries => (writeEntries? l (level + 1) entries).map (l.enclose level "\x7b" "\x7d")

/-- The texts of items. -/
def writeItems? (l : Layout) (level : Nat) : List Value → Option (List String)
  | [] => some []
  | x :: xs => do
    let t ← write? l level x
    let ts ← writeItems? l level xs
    pure (t :: ts)

/-- The texts of entries. -/
def writeEntries? (l : Layout) (level : Nat) : List (Value × Value) → Option (List String)
  | [] => some []
  | (k, v) :: rest => do
    let name ← key? k
    let t ← write? l level v
    let ts ← writeEntries? l level rest
    pure ((string l.ascii name ++ (if l.spaced then ": " else ":") ++ t) :: ts)

end

/-- Why a value cannot be a key in JSON text, if it cannot. -/
def keyRefusal? : Value → Option Malformed
  | .int n => if (Value.int n).hasLongNumber then some .badNumber else none
  | .bytes _ | .list _ | .map _ => some .wrongType
  | _ => none

mutual

/-- Why JSON text cannot hold a value, if it cannot: the first thing in it that has no text. -/
def refusal? : Value → Option Malformed
  | .int n => if (Value.int n).hasLongNumber then some .badNumber else none
  | .bytes _ => some .wrongType
  | .list items => itemsRefusal? items
  | .map entries => entriesRefusal? entries
  | _ => none

/-- Why JSON text cannot hold items. -/
def itemsRefusal? : List Value → Option Malformed
  | [] => none
  | x :: xs => refusal? x <|> itemsRefusal? xs

/-- Why JSON text cannot hold entries. -/
def entriesRefusal? : List (Value × Value) → Option Malformed
  | [] => none
  | (k, v) :: rest => keyRefusal? k <|> refusal? v <|> entriesRefusal? rest

end

end Json

namespace Value

/-- The order of entries by the code points of their text keys. -/
def keyTextLe (a b : Value × Value) : Bool :=
  match a.1, b.1 with
  | .text s, .text t => decide (s ≤ t)
  | _, _ => true

mutual

/-- A value for readers: bytes as hexadecimal text, text keys in order. -/
def readable : Value → Value
  | .bytes b => .text (Hex.encode b)
  | .list items => .list (readableItems items)
  | .map entries =>
    match ofEntries (readableEntries entries) with
    | .map es => .map (es.mergeSort keyTextLe)
    | v => v
  | v => v

/-- Items for readers. -/
def readableItems : List Value → List Value
  | [] => []
  | x :: xs => readable x :: readableItems xs

/-- Entries for readers. -/
def readableEntries : List (Value × Value) → List (Value × Value)
  | [] => []
  | (k, v) :: rest => (.text k.plainText, readable v) :: readableEntries rest

end

/-- JSON text for readers, if the numbers of the value have a text. -/
def toJson (v : Value) (indent : Option Nat) : Read String :=
  if v.hasLongNumber then .error .badNumber
  else .ok ((Json.write? (.printed indent) 0 v.readable).getD "")

end Value
end LedgerFlow
