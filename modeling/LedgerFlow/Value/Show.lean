import LedgerFlow.Value
import LedgerFlow.Binary64.Shortest
import LedgerFlow.Number.Literal
import LedgerFlow.Text.Quoted

/-!
# Values as text

How messages show a value: `shown` with quotation marks around text, `plainText` without.  Integers
of very many digits have no text; `hasLongNumber` finds them.
-/

namespace LedgerFlow
namespace Value

variable {ο : Type}

/-- The names of the two truth values in messages. -/
def boolText (b : Bool) : String := if b then "True" else "False"

mutual

/-- A value as messages show it, text in quotation marks. -/
def shown [Objects ο] : Value ο → String
  | .null => "None"
  | .bool b => boolText b
  | .int n => toString n
  | .float x => x.text
  | .text s => Text.quote s
  | .bytes b => Text.quoteBytes b
  | .list items => "[" ++ ", ".intercalate (shownItems items) ++ "]"
  | .map entries => "\x7b" ++ ", ".intercalate (shownEntries entries) ++ "\x7d"
  | .object o => Objects.shown o

/-- The items of a list, shown. -/
def shownItems [Objects ο] : List (Value ο) → List String
  | [] => []
  | x :: xs => shown x :: shownItems xs

/-- The entries of a map, shown. -/
def shownEntries [Objects ο] : List (Value ο × Value ο) → List String
  | [] => []
  | (k, v) :: rest => (shown k ++ ": " ++ shown v) :: shownEntries rest

end

/-- A value as text: text is itself, any other value as it is shown. -/
def plainText : Value → String
  | .text s => s
  | v => v.shown

mutual

/-- Whether a value holds an integer of more digits than numbers are read or written with. -/
def hasLongNumber [Objects ο] : Value ο → Bool
  | .int n => decide (10 ^ Number.maxDigits ≤ n.natAbs)
  | .list items => anyLongNumber items
  | .map entries => anyLongEntry entries
  | .object o => Objects.hasLongNumber o
  | _ => false

/-- Whether an item holds a long integer. -/
def anyLongNumber [Objects ο] : List (Value ο) → Bool
  | [] => false
  | x :: xs => hasLongNumber x || anyLongNumber xs

/-- Whether a key or a value of an entry holds a long integer. -/
def anyLongEntry [Objects ο] : List (Value ο × Value ο) → Bool
  | [] => false
  | (k, v) :: rest => hasLongNumber k || hasLongNumber v || anyLongEntry rest

end

end Value
end LedgerFlow
