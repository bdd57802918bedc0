/-!
# Blank characters

The characters that count as white space in text: the six ASCII controls and the space, the four
information separators, and the space separators of Unicode.  `trim` removes them at both ends.
-/

namespace LedgerFlow
namespace Text

/-- The blanks beyond ASCII. -/
def isWideBlank (c : Char) : Bool :=
  let n := c.toNat
  n == 0x85 || n == 0xA0 || n == 0x1680 || (0x2000 ≤ n && n ≤ 0x200A) || n == 0x2028 ||
    n == 0x2029 || n == 0x202F || n == 0x205F || n == 0x3000

/-- Tabulators, line ends and the space. -/
def isAsciiBlank (c : Char) : Bool :=
  let n := c.toNat
  (9 ≤ n && n ≤ 13) || n == 32

/-- White space in the sense of text: ASCII blanks, information separators, wide blanks. -/
def isBlank (c : Char) : Bool :=
  isAsciiBlank c || (28 ≤ c.toNat && c.toNat ≤ 31) || isWideBlank c

/-- Removes the characters of a class at both ends of a list. -/
def trimList (p : Char → Bool) (cs : List Char) : List Char :=
  ((cs.dropWhile p).reverse.dropWhile p).reverse

/-- Text without the blanks at its ends. -/
def trim (s : String) : String :=
  String.ofList (trimList isBlank s.toList)

/-- The words of a text: its maximal runs of characters that are not blank. -/
def words (s : String) : List String :=
  let step := fun (c : Char) (acc : List Char × List String) =>
    if isBlank c then ([], if acc.1.isEmpty then acc.2 else String.ofList acc.1 :: acc.2)
    else (c :: acc.1, acc.2)
  let last := s.toList.foldr step ([], [])
  if last.1.isEmpty then last.2 else String.ofList last.1 :: last.2

end Text
end LedgerFlow
