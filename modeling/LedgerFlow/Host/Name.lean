import LedgerFlow.Host.Label
import LedgerFlow.Text.Pieces

/-!
# Host names

A host name is labels with dots between them, and perhaps a dot at the end.  `toAscii` brings a
name in any script into the form in which it travels, `checkAscii` tells whether a name of that form
can be read.
-/

namespace LedgerFlow
namespace Host

open Text

/-- The full stop and its ideographic, full-width and half-width forms. -/
def isDot (c : Char) : Bool :=
  c == '.' || c.toNat == 0x3002 || c.toNat == 0xFF0E || c.toNat == 0xFF61

/-- The labels of a name, and whether a dot ends it. -/
def labelsOf (cs : List Char) : List (List Char) × Bool :=
  let pieces := piecesAt isDot cs
  if pieces.getLast? == some [] then (pieces.dropLast, true) else (pieces, false)

/-- The longest name, a dot at its end included. -/
def maxLength : Nat := 254

/-- A name as it travels. -/
def toAscii (cs : List Char) : Except LabelFault (List Char) := do
  if maxLength < cs.length then .error .form
  else
    let (labels, dotted) := labelsOf cs
    if labels.isEmpty then .error .form
    else
      let out := joinWith '.' (← labels.mapM asciiLabel)
      if maxLength ≤ out.length then .error .form
      else pure (if dotted then out ++ ['.'] else out)

/-- Checks a name that travels. -/
def checkAscii (cs : List Char) : Except LabelFault Unit :=
  if maxLength < cs.length then .error .form
  else (labelsOf cs).1.forM checkAsciiLabel

end Host
end LedgerFlow
