import LedgerFlow.Binary64
import LedgerFlow.Text.Digit

/-!
# Shortest decimal text

The shortest decimal that reads back as a given number.  The reals that round to a number form an
interval around it, its ends included when the last bit is even.  For one, two, and more digits the
two neighbours of the number on that decimal grid are tried; the first grid with a hit wins, of two
hits the nearer, of two equally near the even one.  `text` lays the digits out: positional notation
for exponents from minus four to fifteen, else one digit before the point and an exponent of at
least two digits.
-/

namespace LedgerFlow
namespace Binary64

/-- An interval of fractions over one denominator, with the value inside it. -/
structure Interval where
  low : Nat
  value : Nat
  high : Nat
  den : Nat
  closed : Bool

/-- The interval of reals that round to `m * 2 ^ q`; the lower gap is half as wide at a power of
two. -/
def roundingInterval (m : Nat) (q : Int) : Interval :=
  let below := if m == 2 ^ 52 && -1074 < q then 1 else 2
  let (scale, den) := ratio 1 q
  ⟨(4 * m - below) * scale, 4 * m * scale, (4 * m + 2) * scale, 4 * den, m % 2 == 0⟩

/-- Whether `n / d` lies in the interval. -/
def Interval.contains (i : Interval) (n d : Nat) : Bool :=
  if i.closed then i.low * d ≤ n * i.den && n * i.den ≤ i.high * d
  else i.low * d < n * i.den && n * i.den < i.high * d

/-- The largest `k` with `10 ^ k ≤ num / den`, searched from `k` down. -/
def decimalExponentFrom (num den : Nat) : Nat → Int → Int
  | 0, k => k
  | fuel + 1, k =>
    let (n, d) := if 0 ≤ k then (num, den * 10 ^ k.toNat) else (num * 10 ^ (-k).toNat, den)
    if d ≤ n then k else decimalExponentFrom num den fuel (k - 1)

/-- The largest `k` with `10 ^ k ≤ num / den` for a positive fraction in the range of the format. -/
def decimalExponent (num den : Nat) : Int :=
  let lead : Int := (num.log2 : Int) - den.log2 + 1
  let start : Int := Int.fdiv (lead * 30103) 100000 + 1
  decimalExponentFrom num den 8 start

/-- The digits of the nearest hit on the grid of `10 ^ e`, if there is one. -/
def gridHit (i : Interval) (e : Int) : Option Nat :=
  let (gn, gd) := if 0 ≤ e then (10 ^ e.toNat, 1) else (1, 10 ^ (-e).toNat)
  let floor := i.value * gd / (i.den * gn)
  let downHit := floor != 0 && i.contains (floor * gn) gd
  let upHit := i.contains ((floor + 1) * gn) gd
  let downGap := i.value * gd - floor * gn * i.den
  let upGap := (floor + 1) * gn * i.den - i.value * gd
  match downHit, upHit with
  | true, true =>
    if downGap < upGap then some floor
    else if upGap < downGap then some (floor + 1)
    else if floor % 2 == 0 then some floor else some (floor + 1)
  | true, false => some floor
  | false, true => some (floor + 1)
  | false, false => none

/-- The first grid with a hit: digits and exponent, from the grid of `10 ^ e` downwards. -/
def firstHit (i : Interval) : Nat → Int → Nat × Int
  | 0, e => (i.value * 10 ^ (-e).toNat / i.den, e)
  | fuel + 1, e =>
    match gridHit i e with
    | some digits => (digits, e)
    | none => firstHit i fuel (e - 1)

/-- Digits and exponent of the shortest decimal of a positive `m * 2 ^ q`. -/
def shortest (m : Nat) (q : Int) : Nat × Int :=
  let i := roundingInterval m q
  firstHit i 20 (decimalExponent i.value i.den)

/-- The decimal digits of a number. -/
def decimalDigits (n : Nat) : List Char := Nat.toDigits 10 n

/-- Digits without the zeros at their end, at least one digit. -/
def dropTrailingZeros (ds : List Char) : List Char :=
  match (ds.reverse.dropWhile (· == '0')).reverse with
  | [] => ['0']
  | ds => ds

/-- An exponent after the letter: a sign and at least two digits. -/
def exponentText (e : Int) : List Char :=
  let ds := decimalDigits e.natAbs
  'e' :: (if e < 0 then '-' else '+') :: (if ds.length < 2 then '0' :: ds else ds)

/-- Digits whose first one has the weight `10 ^ e`, laid out as text. -/
def layout (ds : List Char) (e : Int) : List Char :=
  if e < -4 || 16 ≤ e then
    match ds with
    | [] => []
    | [d] => d :: exponentText e
    | d :: rest => d :: '.' :: rest ++ exponentText e
  else if e < 0 then
    '0' :: '.' :: List.replicate (-e - 1).toNat '0' ++ ds
  else
    let whole := (e + 1).toNat
    if ds.length ≤ whole then ds ++ List.replicate (whole - ds.length) '0' ++ ['.', '0']
    else ds.take whole ++ '.' :: ds.drop whole

/-- The shortest text of a number. -/
def text (x : Binary64) : String :=
  if x.isNaN then "nan"
  else
    let sign := if x.isNegative then ['-'] else []
    if x.isInfinite then String.ofList (sign ++ "inf".toList)
    else if x.isZero then String.ofList (sign ++ "0.0".toList)
    else
      let (m, q) := x.magnitude
      let (n, e) := shortest m q
      let all := decimalDigits n
      String.ofList (sign ++ layout (dropTrailingZeros all) (e + all.length - 1))

/-- A finite number with two decimal places, halves to the even neighbour. -/
def fixedTwo (x : Binary64) : String :=
  if x.isNaN then "nan"
  else if x.isInfinite then (if x.isNegative then "-inf" else "inf")
  else
    let (m, q) := x.magnitude
    let (n, d) := ratio m q
    let hundredths := roundDiv (100 * n) d
    let cents := hundredths % 100
    let pad := if cents < 10 then ['0'] else []
    String.ofList ((if x.isNegative then ['-'] else []) ++ decimalDigits (hundredths / 100)
      ++ '.' :: pad ++ decimalDigits cents)

end Binary64
end LedgerFlow
