/-
# DeltaTape.Text.Blank — blank characters, and text without them at its ends

Blank are the ASCII spaces and the information separators, the next-line and
no-break characters, and the space, line and paragraph separators of Unicode.
-/
import DeltaTape.Text.Ranges

namespace DeltaTape.Text

set_option autoImplicit false

/-- The blank code points. -/
def blankRanges : List (Nat × Nat) :=
  [(0x9, 0xd), (0x1c, 0x20), (0x85, 0x85), (0xa0, 0xa0), (0x1680, 0x1680), (0x2000, 0x200a),
    (0x2028, 0x2029), (0x202f, 0x202f), (0x205f, 0x205f), (0x3000, 0x3000)]

/-- Whether a character is blank. -/
def isBlank (c : Char) : Bool := inRanges c.toNat blankRanges

/-- Characters without the blanks at both ends. -/
def trimmed (text : List Char) : List Char :=
  ((text.dropWhile isBlank).reverse.dropWhile isBlank).reverse

/-- A text without blanks in it is left alone. -/
theorem trimmed_eq_self {text : List Char} (solid : ∀ c ∈ text, isBlank c = false) :
    trimmed text = text := by
  have keeps : ∀ l : List Char, (∀ c ∈ l, isBlank c = false) → l.dropWhile isBlank = l := by
    intro l solid
    cases l with
    | nil => rfl
    | cons c l => simp [List.dropWhile, solid c (by simp)]
  unfold trimmed
  rw [keeps text solid, keeps text.reverse (by simpa using solid), List.reverse_reverse]

end DeltaTape.Text
