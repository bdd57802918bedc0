import LedgerFlow.Host.Character
import LedgerFlow.Host.Punycode
import LedgerFlow.Text.Canonical

/-!
# Labels of host names

A label of an international host name is composed text of permitted characters, without a mark at
its head and without hyphens at its ends or in its third and fourth place.  Some characters are
permitted only next to others, and a label in a script that runs to the left has to be of one
direction.  A label travels as ASCII text: as itself, or as punycode behind `xn--`.
-/

namespace LedgerFlow
namespace Host

open Text

/-- What is wrong with a label. -/
inductive LabelFault where
  /-- Its length, its form or its joiners. -/
  | form
  /-- A character that is not permitted. -/
  | character
  /-- A character that is not permitted where it stands. -/
  | context
  /-- The directions of its characters. -/
  | direction
  deriving DecidableEq, Repr, Inhabited

/-- Whether the character that stands nearest before is a sign that joins consonants. -/
def followsVirama : List Nat → Bool
  | n :: _ => combiningClass n == 9
  | [] => false

/-- Whether the nearest character that joining does not pass over has a property. -/
def nearestJoining (p : Nat → Bool) (ns : List Nat) : Bool :=
  ((ns.dropWhile isTransparent).head?).any p

/-- Whether a joiner or a non-joiner may stand between the characters before it, the nearest first,
and those after it. -/
def joinerFits (n : Nat) (before after : List Nat) : Bool :=
  followsVirama before ||
    (n == 0x200C && nearestJoining joinsNext before && nearestJoining joinsPrevious after)

/-- Whether a character is a joiner or a non-joiner. -/
def isJoiner (n : Nat) : Bool := n == 0x200C || n == 0x200D

def isArabicDigit (n : Nat) : Bool := within [(0x660, 0x669)] n

def isExtendedArabicDigit (n : Nat) : Bool := within [(0x6F0, 0x6F9)] n

/-- Whether a character that is not permitted anywhere may stand in a label between the characters
before it, the nearest first, and those after it; nothing for one that never may. -/
def fits? (label : List Nat) (n : Nat) (before after : List Nat) : Option Bool :=
  if n == 0xB7 then some (before.head? == some 0x6C && after.head? == some 0x6C)
  else if n == 0x375 then some (after.head?.any (within greekRanges))
  else if n == 0x5F3 || n == 0x5F4 then some (before.head?.any (within hebrewRanges))
  else if n == 0x30FB then
    some (label.any fun m => m != 0x30FB && (within kanaRanges m || within hanRanges m))
  else if isArabicDigit n then some (!label.any isExtendedArabicDigit)
  else if isExtendedArabicDigit n then some (!label.any isArabicDigit)
  else none

/-- Checks the characters of a label; `before` holds those that are checked, the nearest first. -/
def checkCharacters (label : List Nat) (before : List Nat) : List Nat → Except LabelFault Unit
  | [] => .ok ()
  | n :: after =>
    if isPermitted n then checkCharacters label (n :: before) after
    else if isJoiner n then
      if joinerFits n before after then checkCharacters label (n :: before) after
      else .error .form
    else
      match fits? label n before after with
      | some true => checkCharacters label (n :: before) after
      | some false => .error .context
      | none => .error .character

/-- Whether characters of a script that runs to the left stand among others only as they may: the
label starts with a letter of such a script, holds none of another, ends in one or in a number, and
has digits of one kind. -/
def isDirected (label : List Nat) : Bool :=
  let ds := label.map directionOf
  if ds.any fun d => d == .right || d == .arabicNumber then
    let last := (ds.reverse.dropWhile (· == .mark)).head?
    ds.head? == some .right && !ds.contains .left &&
      last.any (fun d => d == .right || d == .number || d == .arabicNumber) &&
      !(ds.contains .number && ds.contains .arabicNumber)
  else true

/-- Whether the hyphens of a label stand where they may. -/
def hyphensFit (label : List Nat) : Bool :=
  (label.drop 2).take 2 != [0x2D, 0x2D] && label.head? != some 0x2D &&
    label.getLast? != some 0x2D

/-- Checks a label as it is read by people. -/
def checkLabel (label : List Nat) : Except LabelFault Unit :=
  if label.isEmpty || 254 < label.length || !isComposed label || !hyphensFit label ||
      label.head?.any isMark then .error .form
  else do
    checkCharacters label [] label
    if isDirected label then .ok () else .error .direction

/-- What stands before punycode. -/
def mark : List Char := ['x', 'n', '-', '-']

/-- Checks a label as it travels. -/
def checkAsciiLabel (cs : List Char) : Except LabelFault Unit :=
  let small := cs.map Char.toLower
  if mark.isPrefixOf small then
    let code := small.drop mark.length
    if code.isEmpty || code.getLast? == some '-' then .error .form
    else
      match Punycode.decode? code with
      | some label => checkLabel label
      | none => .error .form
  else checkLabel (small.map Char.toNat)

/-- A label as it travels; at most 63 characters. -/
def asciiLabel (cs : List Char) : Except LabelFault (List Char) := do
  let out ← if cs.all fun c => c.toNat < 0x80 then do
      checkAsciiLabel cs
      pure cs
    else do
      let label := cs.map Char.toNat
      checkLabel label
      pure (mark ++ Punycode.encode label)
  if out.length ≤ 63 then pure out else .error .form

end Host
end LedgerFlow
