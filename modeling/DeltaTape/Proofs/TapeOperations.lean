/-
# DeltaTape.Proofs.TapeOperations — what an operation does to the cells, and where it is refused

Only a move to the right allocates, and no operation takes a cell away or changes one that
the pointer does not stand on.  What needs the cell under the pointer is refused where there
is none, and all else is never refused.  Nothing is assumed of the tape: the pointer may
stand anywhere, and any cell may be missing.  A step may also be given what is no
instruction, and is then refused if that cannot be written.

* `Tape.added_of_add`, `Tape.mem_cells_moveRight`, `Tape.getD_moveRight`: what an addition
  and a move to the right leave in the cells;
* `Tape.undergo_eq_error` and `Machine.execute_eq_error`: which instructions are refused, and
  where;
* `Machine.execute_eq_ok`: what an instruction has done that is not refused;
* `Machine.step_eq_ok` and `Machine.step_eq_error`: the same of a step with any item.
-/
import Mathlib
import DeltaTape.Proofs.LinearPart

namespace DeltaTape

set_option autoImplicit false

/-- Whether an instruction needs the cell under the pointer. -/
def Instruction.touches : Instruction → Bool
  | increment | decrement | output => true
  | moveLeft | moveRight | input | loopStart | loopEnd => false

/-- An instruction can always be written. -/
theorem Item.text_of_bare {item : Item} {i : Instruction} (bare : item.bare? = some i) :
    item.text = .ok i.display := by
  cases item with
  | instruction i' => cases bare; rfl
  | token t | absent | foreign text => cases bare

namespace Tape

variable {t t' : Tape} {i : Option Instruction} {u : Unallocated}

/-! ## Operations -/

/-- `t'` is `t` with an addition made in the cell under the pointer, where a missing cell
counts as zero. -/
structure Added (amount : Int) (t t' : Tape) : Prop where
  pointer : t'.pointer = t.pointer
  allocated : ∀ c, c ∈ t'.cells ↔ c ∈ t.cells
  holds : ∀ c : Int,
    t'.cells[c]?.getD 0 = t.cells[c]?.getD 0 + if t.pointer = c then amount else 0

theorem mem_cells_of_getElem? {c v : Int} (held : t.cells[c]? = some v) : c ∈ t.cells := by
  rw [Std.ExtTreeMap.mem_iff_isSome_getElem?, held]
  rfl

theorem added_of_add {amount : Int} (added : t.add amount = .ok t') : Added amount t t' := by
  rw [add] at added
  cases held : t.cells[t.pointer]? with
  | none => rw [held] at added; cases added
  | some v =>
      rw [held] at added
      cases added
      refine ⟨rfl, ?_, ?_⟩
      · intro c
        simp only [Std.ExtTreeMap.mem_insert, compare_eq_iff_eq]
        constructor
        · rintro (rfl | mem)
          · exact mem_cells_of_getElem? held
          · exact mem
        · exact Or.inr
      · intro c
        simp only [Std.ExtTreeMap.getElem?_insert, compare_eq_iff_eq]
        by_cases changed : t.pointer = c
        · rw [if_pos changed, if_pos changed, ← changed, held]
          rfl
        · rw [if_neg changed, if_neg changed, Int.add_zero]

theorem cells_moveLeft (t : Tape) : t.moveLeft.cells = t.cells := by
  unfold moveLeft
  split <;> rfl

theorem mem_cells_moveRight (t : Tape) (c : Int) :
    c ∈ t.moveRight.cells ↔ c ∈ t.cells ∨ c = t.pointer + 1 := by
  simp only [moveRight, Std.ExtTreeMap.mem_insertIfNew, compare_eq_iff_eq]
  constructor
  · rintro (rfl | mem)
    · exact Or.inr rfl
    · exact Or.inl mem
  · rintro (mem | rfl)
    · exact Or.inr mem
    · exact Or.inl rfl

/-- A move to the right keeps what the cells hold. -/
theorem getElem?_moveRight {c v : Int} (held : t.cells[c]? = some v) :
    t.moveRight.cells[c]? = some v := by
  rw [moveRight, Std.ExtTreeMap.getElem?_insertIfNew, if_neg, held]
  rintro ⟨same, fresh⟩
  rw [compare_eq_iff_eq] at same
  exact fresh (same ▸ mem_cells_of_getElem? held)

/-- A move to the right changes nothing at all, if a missing cell counts as zero. -/
theorem getD_moveRight (t : Tape) (c : Int) :
    t.moveRight.cells[c]?.getD 0 = t.cells[c]?.getD 0 := by
  simp only [moveRight, Std.ExtTreeMap.getElem?_insertIfNew, compare_eq_iff_eq]
  by_cases fresh : t.pointer + 1 = c ∧ t.pointer + 1 ∉ t.cells
  · rw [if_pos fresh, ← fresh.1, Std.ExtTreeMap.getElem?_eq_none fresh.2]
    rfl
  · rw [if_neg fresh]

theorem value_refused : t.value = .error u ↔ t.pointer ∉ t.cells ∧ u = ⟨t.pointer⟩ := by
  rw [value_eq_error, Std.ExtTreeMap.mem_iff_isSome_getElem?, Option.not_isSome_iff_eq_none]

/-! ## Instructions -/

theorem undergo_output (done : t.undergo (some .output) = .ok t') : t' = t := by
  rw [undergo] at done
  cases read : t.value with
  | error u => rw [read] at done; cases done
  | ok v => rw [read] at done; cases done; rfl

/-- The instructions that need a cell are refused where there is none, and no others. -/
theorem undergo_eq_error :
    t.undergo i = .error u ↔
      i.any Instruction.touches = true ∧ t.pointer ∉ t.cells ∧ u = ⟨t.pointer⟩ := by
  rw [← value_refused]
  cases i with
  | none => simp [undergo]
  | some i =>
      cases i with
      | increment | decrement => simp [undergo, Instruction.touches, add_eq_error]
      | output =>
          rw [undergo]
          cases t.value <;> simp [Instruction.touches, Except.map]
      | moveLeft | moveRight | input | loopStart | loopEnd => simp [undergo, Instruction.touches]

/-- No instruction takes a cell away. -/
theorem mem_cells_undergo {c : Int} (mem : c ∈ t.cells) (done : t.undergo i = .ok t') :
    c ∈ t'.cells := by
  cases i with
  | none => cases done; exact mem
  | some i =>
      cases i with
      | increment | decrement => exact ((added_of_add done).allocated c).mpr mem
      | moveLeft => cases done; rwa [cells_moveLeft]
      | moveRight => cases done; exact (mem_cells_moveRight t c).mpr (Or.inl mem)
      | output => rwa [undergo_output done]
      | input | loopStart | loopEnd => cases done; exact mem

end Tape

namespace Machine

variable {m n : Machine} {i : Option Instruction} {u : Unallocated}

theorem mapError_eq_error {β : Type} {answer : Except Unallocated β} {f : Fault} :
    answer.mapError .unallocated = .error f ↔ ∃ u, answer = .error u ∧ f = .unallocated u := by
  cases answer <;> simp [Except.mapError, eq_comm]

theorem execute_eq_ok :
    m.execute i = .ok n ↔
      ∃ t, m.tape.undergo i = .ok t ∧
        n = { m with tape := t, events := m.events ++ m.tape.outputs m.cursor.index i } := by
  rw [execute_eq]
  cases m.tape.undergo i with
  | error u => simp [Except.map]
  | ok t => simp [Except.map, eq_comm]

theorem execute_eq_error :
    m.execute i = .error u ↔
      i.any Instruction.touches = true ∧ m.tape.pointer ∉ m.tape.cells ∧
        u = ⟨m.tape.pointer⟩ := by
  rw [← Tape.undergo_eq_error, execute_eq]
  cases m.tape.undergo i <;> simp [Except.map]

/-- A step carries out the instruction that an item is; what is no instruction it has only
written. -/
theorem step_eq_ok {item : Item} :
    m.step item = .ok n ↔ m.execute item.bare? = .ok n ∧ ∃ text, item.text = .ok text := by
  unfold step
  cases bare : item.bare? with
  | none => cases item.text <;> simp [Except.mapError, Except.bind, execute]
  | some i =>
      rw [Item.text_of_bare bare]
      dsimp only
      cases m.execute (some i) <;> simp [Except.mapError]

/-- A step is refused where its instruction needs a cell and there is none, and where its
item cannot be written. -/
theorem step_eq_error {item : Item} {f : Fault} :
    m.step item = .error f ↔
      (item.bare?.any Instruction.touches = true ∧ m.tape.pointer ∉ m.tape.cells ∧
        f = .unallocated ⟨m.tape.pointer⟩) ∨
      ∃ limit, item.text = .error limit ∧ f = .unwritten limit := by
  unfold step
  cases bare : item.bare? with
  | none => cases item.text <;> simp [Except.mapError, Except.bind, eq_comm]
  | some i =>
      -- Only a missing cell is left for a reason.
      rw [Item.text_of_bare bare]
      simp only [mapError_eq_error, execute_eq_error]
      grind

end Machine

end DeltaTape
