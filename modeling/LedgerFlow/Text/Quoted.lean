import LedgerFlow.Text.Printable

/-!
# Quoted text

Text between quotation marks, as messages show it.  Single quotes are used unless the text holds a
single quote and no double quote; the mark in use and the backslash are escaped, as is every
character that is not printable.
-/

namespace LedgerFlow
namespace Text

/-- A lower-case hexadecimal digit. -/
def hexDigit (n : Nat) : Char :=
  if n < 10 then Char.ofNat (48 + n) else Char.ofNat (87 + n)

/-- The last `width` hexadecimal digits of a number. -/
def hexDigits (width n : Nat) : List Char :=
  match width with
  | 0 => []
  | w + 1 => hexDigits w (n / 16) ++ [hexDigit (n % 16)]

/-- The mark that surrounds a text with these characters. -/
def quoteMark (cs : List Char) : Char :=
  if cs.contains '\'' && !cs.contains '"' then '"' else '\''

/-- One character of quoted text. -/
def quoteChar (mark c : Char) : List Char :=
  if c == mark || c == '\\' then ['\\', c]
  else if c == '\t' then ['\\', 't']
  else if c == '\n' then ['\\', 'n']
  else if c == '\r' then ['\\', 'r']
  else if isPrintable c then [c]
  else if c.toNat < 0x100 then '\\' :: 'x' :: hexDigits 2 c.toNat
  else if c.toNat < 0x10000 then '\\' :: 'u' :: hexDigits 4 c.toNat
  else '\\' :: 'U' :: hexDigits 8 c.toNat

/-- Text between quotation marks. -/
def quote (s : String) : String :=
  let cs := s.toList
  let mark := quoteMark cs
  String.ofList (mark :: cs.flatMap (quoteChar mark) ++ [mark])

/-- Bytes between quotation marks, after the letter `b`: printable ASCII as itself, all other
bytes as two hexadecimal digits. -/
def quoteBytes (bs : List UInt8) : String :=
  let cs := bs.map fun b => Char.ofNat b.toNat
  let mark := quoteMark cs
  let one := fun c : Char =>
    if c.toNat < 0x80 then quoteChar mark c else '\\' :: 'x' :: hexDigits 2 c.toNat
  String.ofList ('b' :: mark :: cs.flatMap one ++ [mark])

end Text
end LedgerFlow
