/-!
# Punycode

Code points of any script as letters, digits and hyphens: the ASCII characters first, then, after a
hyphen, the others in ascending order, each as the distance from the one before in value and place.
A distance is a number of base 36 with its low digit first; digits below a threshold end it, and the
thresholds follow a bias that adapts to the distances so far.
-/

namespace LedgerFlow
namespace Punycode

/-- The letters and digits, by value. -/
def digitChar (d : Nat) : Char := Char.ofNat (if d < 26 then 97 + d else 22 + d)

/-- The value of a letter of either case or of a digit. -/
def digit? (c : Char) : Option Nat :=
  if 'a' ≤ c ∧ c ≤ 'z' then some (c.toNat - 97)
  else if 'A' ≤ c ∧ c ≤ 'Z' then some (c.toNat - 65)
  else if '0' ≤ c ∧ c ≤ '9' then some (c.toNat - 22)
  else none

/-- Digits below the threshold of their place end a number. -/
def threshold (bias place : Nat) : Nat := min 26 (max 1 (36 * (place + 1) - bias))

theorem threshold_pos (bias place : Nat) : 0 < threshold bias place := by
  unfold threshold
  omega

/-- Divides a distance down to the last place, and counts the places. -/
def settle (distance : Nat) (bias : Nat) : Nat :=
  if 455 < distance then settle (distance / 35) (bias + 36)
  else bias + 36 * distance / (distance + 38)
termination_by distance
decreasing_by omega

/-- The bias after a distance; `count` characters are known then, and the first distance counts
less. -/
def adapted (isFirst : Bool) (distance count : Nat) : Nat :=
  let scaled := if isFirst then distance / 700 else distance / 2
  settle (scaled + scaled / count) 0

/-- The digits of a number, from a place on. -/
def numberChars (bias place n : Nat) : List Char :=
  let t := threshold bias place
  if n < t then [digitChar n]
  else digitChar (t + (n - t) % (36 - t)) :: numberChars bias (place + 1) ((n - t) / (36 - t))
termination_by n
decreasing_by
  have hpos := threshold_pos bias place
  have hle := Nat.div_le_self (n - threshold bias place) (36 - threshold bias place)
  omega

/-- A run over the characters in ascending order. -/
structure Writing where
  /-- What is written, the last character first. -/
  written : List Char
  distance : Nat
  bias : Nat
  /-- The number of characters that are known. -/
  count : Nat
  isFirst : Bool

/-- Passes one character of the text while the characters of the value `n` are written. -/
def Writing.pass (w : Writing) (n c : Nat) : Writing :=
  if c < n then { w with distance := w.distance + 1 }
  else if c = n then
    { written := (numberChars w.bias 0 w.distance).reverse ++ w.written
      distance := 0
      bias := adapted w.isFirst w.distance (w.count + 1)
      count := w.count + 1
      isFirst := false }
  else w

/-- Writes the characters of the given values, which ascend; `next` is the least value that is
left. -/
def Writing.through (text : List Nat) : Writing → Nat → List Nat → Writing
  | w, _, [] => w
  | w, next, n :: rest =>
    let start := { w with distance := w.distance + (n - next) * (w.count + 1) }
    let after := text.foldl (fun w c => w.pass n c) start
    Writing.through text { after with distance := after.distance + 1 } (n + 1) rest

/-- Numbers in ascending order, each of them once. -/
def ascending (ns : List Nat) : List Nat := (ns.mergeSort fun a b => decide (a ≤ b)).eraseDups

/-- Code points as letters, digits and hyphens. -/
def encode (text : List Nat) : List Char :=
  let ascii := text.filter (· < 128)
  let start : Writing := ⟨[], 0, 72, ascii.length, true⟩
  let others := start.through text 128 (ascending (text.filter (128 ≤ ·)))
  let front := ascii.map Char.ofNat
  (if front.isEmpty then [] else front ++ ['-']) ++ others.written.reverse

/-- A number at the head of a text.  `weight` is what a digit counts here, `sum` what the digits
before it are worth. -/
def number? (bias : Nat) : Nat → Nat → Nat → List Char → Option (Nat × List Char)
  | _, _, _, [] => none
  | place, weight, sum, c :: rest =>
    match digit? c with
    | none => none
    | some d =>
      let t := threshold bias place
      if d < t then some (sum + d * weight, rest)
      else number? bias (place + 1) (weight * (36 - t)) (sum + d * weight) rest

theorem length_of_number? {bias : Nat} (cs : List Char) :
    ∀ {place weight sum n : Nat} {rest : List Char},
      number? bias place weight sum cs = some (n, rest) → rest.length < cs.length := by
  induction cs with
  | nil => simp [number?]
  | cons c cs ih =>
    intro place weight sum n rest h
    rw [number?] at h
    split at h
    · simp at h
    · dsimp only at h
      split at h
      · simp only [Option.some.injEq, Prod.mk.injEq] at h
        simp [← h.2]
      · have := ih h
        simp only [List.length_cons]
        omega

/-- Puts in the characters that the distances tell.  `value` and `place` belong to the last one. -/
def inserted? (text : List Nat) (value place bias : Nat) (isFirst : Bool) (cs : List Char) :
    Option (List Nat) :=
  if cs.isEmpty then some text
  else
    match h : number? bias 0 1 0 cs with
    | none => none
    | some (distance, rest) =>
      let count := text.length + 1
      let value := value + (place + distance) / count
      let place := (place + distance) % count
      if 0x10FFFF < value then none
      else inserted? (text.insertIdx place value) value (place + 1)
        (adapted isFirst distance count) false rest
termination_by cs.length
decreasing_by exact length_of_number? cs h

/-- The code points that letters, digits and hyphens stand for. -/
def decode? (cs : List Char) : Option (List Nat) :=
  let tail := (cs.reverse.takeWhile (· != '-')).reverse
  let front := (cs.take (cs.length - tail.length)).dropLast
  inserted? (front.map Char.toNat) 128 0 72 true tail

end Punycode
end LedgerFlow
