import LedgerFlow.Binary64
import LedgerFlow.Text.Blank
import LedgerFlow.Text.Digit

/-!
# Number literals

Numbers as people write them: blanks around, a sign, digits of any script, and single underscores
between digits.  `integer?` reads whole numbers, `integral?` reads them with a fraction of zeros as
well, and `real?` reads any fraction, an exponent, and the names of infinity and NaN.
-/

namespace LedgerFlow
namespace Number

open Text

/-- Whole numbers are read and written with at most this many digits. -/
def maxDigits : Nat := 4300

/-- The plain form of a character of a literal: wide blanks are spaces, digits are ASCII. -/
def plain? (c : Char) : Option Char :=
  if c.toNat < 127 then some c
  else if isWideBlank c then some ' '
  else (digit? c).map fun d => Char.ofNat (48 + d)

/-- The sign of a literal and what follows it. -/
def splitSign : List Char → Bool × List Char
  | '-' :: rest => (true, rest)
  | '+' :: rest => (false, rest)
  | rest => (false, rest)

/-- Digits with single underscores between them; `afterDigit` says what stood before. -/
def groupedDigits? (afterDigit : Bool) : List Char → Option (List Nat)
  | [] => if afterDigit then some [] else none
  | '_' :: rest => if afterDigit then groupedDigits? false rest else none
  | c :: rest => do
    let d ← asciiDigit? c
    let ds ← groupedDigits? true rest
    pure (d :: ds)

/-- A whole number in plain characters. -/
def plainInteger? (cs : List Char) : Option Int := do
  let (negative, digits) := splitSign (trimList isAsciiBlank cs)
  let ds ← groupedDigits? false digits
  if maxDigits < ds.length then none
  else pure (if negative then -(ofDigits ds : Int) else (ofDigits ds : Int))

/-- A whole number in characters of any script. -/
def integer? (cs : List Char) : Option Int := do
  plainInteger? (← cs.mapM plain?)

/-- A whole number in characters of any script that may be written with a fraction of zeros.  The
point follows a digit, so that no blank is lost before it. -/
def integral? (cs : List Char) : Option Int := do
  let plain ← cs.mapM plain?
  match (trimList isAsciiBlank plain).span (· != '.') with
  | (whole, []) => plainInteger? whole
  | (whole, _ :: fraction) =>
    let followsDigit := (whole.getLast?.bind asciiDigit?).isSome
    if followsDigit && fraction.all (· == '0') then plainInteger? whole else none

/-- Removes underscores, each of which has to stand between two digits. -/
def ungroup? (afterDigit : Bool) : List Char → Option (List Char)
  | [] => some []
  | '_' :: d :: rest =>
    if afterDigit && (asciiDigit? d).isSome then (ungroup? true rest).map (d :: ·) else none
  | '_' :: [] => none
  | c :: rest => (ungroup? (asciiDigit? c).isSome rest).map (c :: ·)

/-- The digits at the head of a list, and the rest. -/
def spanDigits (cs : List Char) : List Nat × List Char :=
  let (ds, rest) := cs.span fun c => (asciiDigit? c).isSome
  (ds.filterMap asciiDigit?, rest)

/-- The exponent part of a literal: empty, or a letter with a whole number. -/
def exponent? : List Char → Option Int
  | [] => some 0
  | c :: rest =>
    if c == 'e' || c == 'E' then
      let (negative, rest) := splitSign rest
      let (ds, rest) := spanDigits rest
      if ds.isEmpty || !rest.isEmpty then none
      else some (if negative then -(ofDigits ds : Int) else (ofDigits ds : Int))
    else none

/-- The number nearest to `digits * 10 ^ exponent`. -/
def scaled (negative : Bool) (digits : List Nat) (exponent : Int) : Binary64 :=
  let ds := digits.dropWhile (· == 0)
  let n := ofDigits ds
  let size : Int := ds.length + exponent
  if n == 0 || size < -400 then Binary64.zero negative
  else if 400 < size then Binary64.infinity negative
  else if 0 ≤ exponent then Binary64.ofRatio negative (n * 10 ^ exponent.toNat) 1
  else Binary64.ofRatio negative n (10 ^ (-exponent).toNat)

/-- A decimal with an optional fraction and exponent, without sign. -/
def decimal? (negative : Bool) (cs : List Char) : Option Binary64 := do
  let (whole, rest) := spanDigits cs
  let (fraction, rest) := match rest with
    | '.' :: rest => spanDigits rest
    | rest => ([], rest)
  if whole.isEmpty && fraction.isEmpty then none
  else do
    let e ← exponent? rest
    pure (scaled negative (whole ++ fraction) (e - fraction.length))

/-- A number in characters of any script. -/
def real? (cs : List Char) : Option Binary64 := do
  let cs ← cs.mapM plain?
  let cs ← ungroup? false (trimList isAsciiBlank cs)
  let (negative, body) := splitSign cs
  let name := String.ofList (body.map Char.toLower)
  if name == "inf" || name == "infinity" then pure (Binary64.infinity negative)
  else if name == "nan" then pure Binary64.nan
  else decimal? negative body

end Number
end LedgerFlow
