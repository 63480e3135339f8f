/-
# DeltaTape.Cursor — an unclamped index into a sequence

A cursor is an integer that may stand before a sequence, inside it or past its
end.  Only inside does it show an element; it counts as exhausted once it has
passed the end, never while it stands before the start.
-/
import DeltaTape.Text.Decimal

namespace DeltaTape

set_option autoImplicit false

/-- A zero-based index that is never clamped. -/
structure Cursor where
  index : Int := 0
  deriving DecidableEq

namespace Cursor

/-- The element under the cursor, or nothing outside the sequence. -/
def current {α : Type} (c : Cursor) (sequence : List α) : Option α :=
  if 0 ≤ c.index then sequence[c.index.toNat]? else none

/-- Whether the cursor has passed the end. -/
def exhausted {α : Type} (c : Cursor) (sequence : List α) : Bool :=
  decide ((sequence.length : Int) ≤ c.index)

/-- The cursor moved by `count`, which may be negative. -/
def advance (c : Cursor) (count : Int) : Cursor := ⟨c.index + count⟩

/-- The cursor at the start of any sequence. -/
def start : Cursor := ⟨0⟩

/-- A cursor as text. -/
def display (c : Cursor) : Except DigitLimit String :=
  (Decimal.ofInt c.index).map fun digits => "Position(" ++ digits ++ ")"

/-- Two moves are one by the sum of both. -/
theorem advance_advance (c : Cursor) (i j : Int) : (c.advance i).advance j = c.advance (i + j) := by
  simp only [advance, Int.add_assoc]

end Cursor

end DeltaTape
