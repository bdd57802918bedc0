import LedgerFlow.Codec.Hex
import LedgerFlow.Text.Digit
import LedgerFlow.Text.Pieces

/-!
# Numeric hosts

Hosts that are numbers: four of them up to 255 with dots between, or eight groups of hexadecimal
digits with colons between.  Two colons next to each other stand for groups of zeros, the last two
groups may be four numbers, and a zone may follow behind a percent sign.
-/

namespace LedgerFlow
namespace Host

open Text

/-- Whether a character is an ASCII digit. -/
def isDecimal (c : Char) : Bool := (asciiDigit? c).isSome

/-- Whether text has the look of four numbers: digits, with one character of any kind between each
two runs of them.  Digits may be such characters as well. -/
def looksNumeric (cs : List Char) : Bool :=
  let runs := piecesAt (fun c => !isDecimal c) cs
  let separators := runs.length - 1
  runs.all (fun run => !run.isEmpty) && separators ≤ 3 &&
    3 ≤ runs.foldl (fun count run => count + (run.length - 1) / 2) separators

/-- A number up to 255 without needless zeros. -/
def isOctet (cs : List Char) : Bool :=
  !cs.isEmpty && cs.length ≤ 3 && cs.all isDecimal && (cs.head? != some '0' || cs.length == 1) &&
    ofDigits (cs.filterMap asciiDigit?) < 256

/-- Four numbers with dots between them. -/
def isFourNumbers (cs : List Char) : Bool :=
  let parts := piecesAt (· == '.') cs
  parts.length == 4 && parts.all isOctet

/-- A group of one to four hexadecimal digits. -/
def isGroup (cs : List Char) : Bool :=
  !cs.isEmpty && cs.length ≤ 4 && cs.all fun c => (Hex.digit? c).isSome

/-- The groups of an address, with four numbers at its end as two groups; nothing if these are no
numbers. -/
def groups? (cs : List Char) : Option (List (List Char)) :=
  let parts := piecesAt (· == ':') cs
  let last := parts.getLastD []
  if parts.length < 3 then none
  else if last.contains '.' then
    if isFourNumbers last then some (parts.dropLast ++ [['0'], ['0']]) else none
  else some parts

/-- Whether groups are those of an address.  An empty group inside stands for groups of zeros; one
at an end has to be next to it. -/
def areGroups (parts : List (List Char)) : Bool :=
  let inside := parts.tail.dropLast
  let gaps := (inside.filter List.isEmpty).length
  if gaps == 0 then parts.length == 8 && parts.all isGroup
  else
    let high := parts.take (1 + (inside.takeWhile fun g => !g.isEmpty).length)
    let low := parts.drop (high.length + 1)
    let known := (if high == [[]] then [] else high) ++ (if low == [[]] then [] else low)
    gaps == 1 && known.length ≤ 7 && known.all isGroup

/-- Eight groups with colons between them, and perhaps a zone. -/
def isEightGroups (cs : List Char) : Bool :=
  let (address, zone) := cs.span fun c => c != '%'
  let zoneFits := match zone with
    | [] => true
    | _ :: name => !name.isEmpty && !name.contains '%'
  zoneFits && (groups? address).any areGroups

end Host
end LedgerFlow
