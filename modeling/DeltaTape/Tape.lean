/-
# DeltaTape.Tape — a sparse tape that grows to the right and stops at its left edge

A tape holds an integer in each of its allocated cells and a pointer.  A blank
tape has one cell, number zero, holding zero.  Only moving right allocates, and
it never overwrites a live cell; moving left from cell zero, or from anywhere
before it, stays.  Cell values never wrap.

The pointer and the cells may also be assigned from outside, so a pointer can
come to stand on a cell that is not allocated.  Reading and adding refuse there,
and a refusal names the pointer.  A tape that was left without any cell has no
snapshot, and one with a number that is too long has no text.

* `value_eq_error` and `add_eq_error`: the exact condition for a refusal;
* `snapshot_eq_error`: only a tape without cells has no snapshot;
* `value_moveRight`: after a move to the right there is always a cell to read.
-/
import Std.Data.ExtTreeMap
import DeltaTape.Text.Decimal

namespace DeltaTape

set_option autoImplicit false

/-- Integers by cell number; two tapes with the same cells are equal. -/
abbrev Cells := Std.ExtTreeMap Int Int

/-- Allocated cells and a pointer, which need not stand on one of them. -/
@[ext] structure Tape where
  cells : Cells
  pointer : Int

/-- The refusal to touch a cell that is not allocated. -/
structure Unallocated where
  index : Int
  deriving DecidableEq

/-- The text of a refusal is the cell number. -/
def Unallocated.message (u : Unallocated) : String := toString u.index

/-- Why something asked of a machine or its tape is refused: it needs a cell that
is not allocated, it needs the greatest of no cells, or it needs a text that is
too long to be written. -/
inductive Fault where
  | unallocated (cell : Unallocated)
  | noCells
  | unwritten (limit : DigitLimit)
  deriving DecidableEq

/-- A fault in words. -/
def Fault.message : Fault → String
  | unallocated cell => cell.message
  | noCells => "max() arg is an empty sequence"
  | unwritten limit => limit.message

namespace Tape

/-- One cell holding zero, and the pointer on it. -/
def blank : Tape := ⟨(∅ : Cells).insert 0 0, 0⟩

/-- The cell under the pointer. -/
def value (t : Tape) : Except Unallocated Int :=
  match t.cells[t.pointer]? with
  | some v => .ok v
  | none => .error ⟨t.pointer⟩

/-- Adds to the cell under the pointer. -/
def add (t : Tape) (amount : Int) : Except Unallocated Tape :=
  match t.cells[t.pointer]? with
  | some v => .ok { t with cells := t.cells.insert t.pointer (v + amount) }
  | none => .error ⟨t.pointer⟩

/-- One cell to the left, unless the pointer is at the left edge or before it. -/
def moveLeft (t : Tape) : Tape :=
  if 0 < t.pointer then { t with pointer := t.pointer - 1 } else t

/-- One cell to the right; a cell that is not allocated yet starts at zero. -/
def moveRight (t : Tape) : Tape :=
  ⟨t.cells.insertIfNew (t.pointer + 1) 0, t.pointer + 1⟩

/-- Puts the pointer anywhere, also where there is no cell. -/
def setPointer (t : Tape) (pointer : Int) : Tape := { t with pointer }

/-- Gives any cell a value, allocating it if need be. -/
def setCell (t : Tape) (index value : Int) : Tape :=
  { t with cells := t.cells.insert index value }

/-- Cells zero up to the greatest allocated one; holes read as zero. -/
def snapshot (t : Tape) : Except Fault (List Int) :=
  match t.cells.maxKey? with
  | none => .error .noCells
  | some top => .ok ((List.range (top + 1).toNat).map fun i => t.cells[Int.ofNat i]?.getD 0)

/-- A tape as text: its pointer and its snapshot. -/
def display (t : Tape) : Except Fault String := do
  let pointer ← (Decimal.ofInt t.pointer).mapError .unwritten
  let snapshot ← t.snapshot
  let cells ← (snapshot.mapM Decimal.ofInt).mapError .unwritten
  pure ("Tape(pointer=" ++ pointer ++ ", cells=[" ++ String.intercalate ", " cells ++ "])")

/-- Reading refuses exactly where no cell is allocated, and names the pointer. -/
theorem value_eq_error {t : Tape} {u : Unallocated} :
    t.value = .error u ↔ t.cells[t.pointer]? = none ∧ u = ⟨t.pointer⟩ := by
  unfold value
  cases t.cells[t.pointer]? <;> simp [eq_comm]

/-- Adding refuses exactly where reading does. -/
theorem add_eq_error {t : Tape} {amount : Int} {u : Unallocated} :
    t.add amount = .error u ↔ t.value = .error u := by
  unfold add value
  cases t.cells[t.pointer]? <;> simp

/-- Only a tape without cells has no snapshot. -/
theorem snapshot_eq_error {t : Tape} {f : Fault} :
    t.snapshot = .error f ↔ t.cells = ∅ ∧ f = .noCells := by
  unfold snapshot
  cases greatest : t.cells.maxKey? with
  | none =>
      have none_left := Std.ExtTreeMap.maxKey?_eq_none_iff.mp greatest
      simp [none_left, eq_comm]
  | some top =>
      have some_left : t.cells ≠ ∅ := by
        rintro empty
        rw [empty, Std.ExtTreeMap.maxKey?_empty] at greatest
        cases greatest
      simp [some_left]

/-- A move to the right ends on an allocated cell, and keeps what it held. -/
theorem value_moveRight (t : Tape) :
    t.moveRight.value = .ok (t.cells[t.pointer + 1]?.getD 0) := by
  unfold value moveRight
  simp only [Std.ExtTreeMap.getElem?_insertIfNew]
  by_cases allocated : t.pointer + 1 ∈ t.cells <;> simp [allocated]

end Tape

end DeltaTape
