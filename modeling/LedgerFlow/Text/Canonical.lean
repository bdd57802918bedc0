import LedgerFlow.Text.Canonical.Table
import LedgerFlow.Text.Range

/-!
# Canonical composition

Text that reads the same may be written with different code points: a letter with its marks, or one
character for both.  Composed text uses the one character wherever there is one, and the marks on a
letter in the order of their classes.  `composed` brings text into this form, `isComposed` tells
whether text is in it.  Text is a list of code points here.
-/

namespace LedgerFlow
namespace Text

/-- The combining class of a code point; zero for one that starts anew. -/
def combiningClass (n : Nat) : Nat :=
  match combiningClasses.find? fun r => r.1 ≤ n && n ≤ r.2.1 with
  | some (_, _, k) => k
  | none => 0

/-- The syllables of Hangul are 19 leading consonants by 21 vowels by 28 endings, the first of
which is none. -/
def isHangulSyllable (n : Nat) : Bool := 0xAC00 ≤ n && n < 0xAC00 + 19 * 21 * 28

/-- The letters of a Hangul syllable. -/
def hangulLetters (n : Nat) : List Nat :=
  let i := n - 0xAC00
  let ending := i % 28
  [0x1100 + i / (21 * 28), 0x1161 + i / 28 % 21] ++ (if ending == 0 then [] else [0x11A7 + ending])

/-- The pair that a character stands for. -/
def pairOf? (n : Nat) : Option (Nat × Nat) :=
  (composites.find? fun r => r.2.2 == n).map fun r => (r.1, r.2.1)

/-- The code points that a character stands for.  The first argument bounds how often the first of
a pair stands for a pair itself, which is at most twice. -/
def decomposed : Nat → Nat → List Nat
  | 0, n => [n]
  | depth + 1, n =>
    match pairOf? n with
    | some (a, b) => decomposed depth a ++ [b]
    | none => [n]

/-- A character as its parts. -/
def parts (n : Nat) : List Nat := if isHangulSyllable n then hangulLetters n else decomposed 3 n

/-- Puts a mark in front of marks of a higher class; the list holds what stands before it, the
nearest first. -/
def placed (n : Nat) : List Nat → List Nat
  | [] => [n]
  | m :: before =>
    if combiningClass n != 0 && combiningClass n < combiningClass m then m :: placed n before
    else n :: m :: before

/-- Code points with the marks on every letter in the order of their classes. -/
def ordered (ns : List Nat) : List Nat := (ns.foldl (fun before n => placed n before) []).reverse

/-- The character that stands for two. -/
def joined? (a b : Nat) : Option Nat :=
  if 0x1100 ≤ a && a < 0x1113 && 0x1161 ≤ b && b < 0x1176 then
    some (0xAC00 + ((a - 0x1100) * 21 + (b - 0x1161)) * 28)
  else if isHangulSyllable a && (a - 0xAC00) % 28 == 0 && 0x11A7 < b && b < 0x11C3 then
    some (a + (b - 0x11A7))
  else (composites.find? fun r => r.1 == a && r.2.1 == b).map fun r => r.2.2

/-- Composes what follows a letter into it.  The second argument holds the marks that stay, the
nearest first; a mark of the class of the one before it, or of a lower one, is kept from the
letter. -/
def composedFrom (letter : Nat) (marks : List Nat) : List Nat → List Nat
  | [] => letter :: marks.reverse
  | n :: rest =>
    let near := match marks with
      | [] => true
      | m :: _ => combiningClass m < combiningClass n
    match (if near then joined? letter n else none) with
    | some whole => composedFrom whole marks rest
    | none =>
      if combiningClass n == 0 then letter :: (marks.reverse ++ composedFrom n [] rest)
      else composedFrom letter (n :: marks) rest

/-- Composes ordered code points; marks at the head have no letter. -/
def composedOrdered : List Nat → List Nat
  | [] => []
  | n :: rest =>
    if combiningClass n == 0 then composedFrom n [] rest else n :: composedOrdered rest

/-- Code points in composed form, if none of them is always written as others. -/
def composed (ns : List Nat) : List Nat := composedOrdered (ordered (ns.flatMap parts))

/-- Whether code points are in composed form. -/
def isComposed (ns : List Nat) : Bool :=
  !(ns.any (within unstableRanges)) && composed ns == ns

end Text
end LedgerFlow
