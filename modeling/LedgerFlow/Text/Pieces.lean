/-!
# Pieces of text

Text cut at separators.  There is always one piece more than there are separators, and putting the
separator between the pieces gives the text back.
-/

namespace LedgerFlow
namespace Text

/-- The pieces between the characters of a class. -/
def piecesAt (p : Char → Bool) : List Char → List (List Char)
  | [] => [[]]
  | c :: rest =>
    if p c then [] :: piecesAt p rest
    else
      match piecesAt p rest with
      | [] => [[c]]
      | piece :: more => (c :: piece) :: more

/-- Pieces with a separator between each two of them. -/
def joinWith (separator : Char) : List (List Char) → List Char
  | [] => []
  | [piece] => piece
  | piece :: more => piece ++ separator :: joinWith separator more

theorem piecesAt_ne_nil (p : Char → Bool) (cs : List Char) : piecesAt p cs ≠ [] := by
  cases cs with
  | nil => simp [piecesAt]
  | cons c rest =>
    rw [piecesAt]
    split
    · simp
    · split <;> simp

theorem joinWith_cons {separator : Char} {piece : List Char} {more : List (List Char)}
    (h : more ≠ []) :
    joinWith separator (piece :: more) = piece ++ separator :: joinWith separator more := by
  cases more with
  | nil => exact absurd rfl h
  | cons next more => rfl

@[simp]
theorem joinWith_piecesAt (separator : Char) (cs : List Char) :
    joinWith separator (piecesAt (· == separator) cs) = cs := by
  induction cs with
  | nil => rfl
  | cons c rest ih =>
    rw [piecesAt]
    split
    · next h =>
      rw [joinWith_cons (piecesAt_ne_nil _ _), ih]
      simp [eq_of_beq h]
    · split
      · next h => exact absurd h (piecesAt_ne_nil _ _)
      · next piece more h =>
        rw [h] at ih
        cases more with
        | nil => simpa [joinWith] using ih
        | cons next more => simpa [joinWith] using ih

end Text
end LedgerFlow
