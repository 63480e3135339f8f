/-
# DeltaTape.Proofs.IdleInstructions — instructions that may be left out of a program

An increment and a decrement undo each other in either order, and so do a move to the
right and one to the left.  A move to the left and one to the right do so only where
there is room on the left: at the edge the first is held up and the second is not, so
there a move to the left may be left out by itself.

Without such instructions a program shows the same.  It need not leave the same tape: a
move to the right may have allocated a cell, which is zero unless the program comes back
to it.  `Padded` relates a tape with more cells to one that has the same in all its cells,
where a cell that is missing counts as zero; every instruction keeps to it.

* `Tape.Padded.undergo`: one instruction, on a tape and on a padded one;
* `Tape.Idle.padded`: idle instructions leave the tape they found, padded;
* `Machine.Beside.execute` and `Machine.Beside.runFrom`: what one instruction, and a run,
  show on both;
* `run_without_idle`: what a program shows with idle instructions in it, and without.
-/
import Mathlib
import DeltaTape.Proofs.Expansion
import DeltaTape.Proofs.TapeOperations

namespace DeltaTape

set_option autoImplicit false

/-! ## Padded tapes -/

namespace Tape

variable {extra : List Int} {t t' u u' : Tape}

/-- `t` holds what `t'` holds, where a missing cell counts as zero, and has the cells
`extra` besides. -/
structure Padded (extra : List Int) (t t' : Tape) : Prop where
  pointer : t.pointer = t'.pointer
  holds : ∀ c : Int, t.cells[c]?.getD 0 = t'.cells[c]?.getD 0
  allocated : ∀ c, c ∈ t.cells ↔ c ∈ t'.cells ∨ c ∈ extra

theorem Padded.refl (t : Tape) : Padded [] t t := ⟨rfl, fun _ => rfl, by simp⟩

/-- A tape without extra cells is the same tape. -/
theorem Padded.eq (padded : Padded [] t t') : t = t' := by
  refine Tape.ext (Std.ExtTreeMap.ext_getElem? ?_) padded.pointer
  intro c
  have same : c ∈ t.cells ↔ c ∈ t'.cells := by simpa using padded.allocated c
  by_cases mem : c ∈ t'.cells
  · have holds := padded.holds c
    rw [Std.ExtTreeMap.getElem?_eq_some_getElem (same.mpr mem),
      Std.ExtTreeMap.getElem?_eq_some_getElem mem] at holds ⊢
    exact congrArg some holds
  · rw [Std.ExtTreeMap.getElem?_eq_none mem,
      Std.ExtTreeMap.getElem?_eq_none (mt same.mp mem)]

theorem Padded.add (padded : Padded extra t t') {amount : Int} (added : t.add amount = .ok u)
    (added' : t'.add amount = .ok u') : Padded extra u u' := by
  have one := added_of_add added
  have other := added_of_add added'
  refine ⟨by rw [one.pointer, other.pointer, padded.pointer], ?_, ?_⟩
  · intro c
    rw [one.holds, other.holds, padded.holds, padded.pointer]
  · intro c
    rw [one.allocated, other.allocated, padded.allocated]

theorem Padded.moveLeft (padded : Padded extra t t') : Padded extra t.moveLeft t'.moveLeft where
  pointer := by
    unfold Tape.moveLeft
    rw [padded.pointer]
    split
    · rfl
    · exact padded.pointer
  holds c := by rw [cells_moveLeft, cells_moveLeft, padded.holds]
  allocated c := by rw [cells_moveLeft, cells_moveLeft, padded.allocated]

theorem Padded.moveRight (padded : Padded extra t t') :
    Padded extra t.moveRight t'.moveRight where
  pointer := congrArg (· + 1) padded.pointer
  holds c := by rw [getD_moveRight, getD_moveRight, padded.holds]
  allocated c := by
    rw [mem_cells_moveRight, mem_cells_moveRight, padded.allocated, padded.pointer]
    tauto

/-- An instruction that is carried out on a tape and on a padded one. -/
theorem Padded.undergo (padded : Padded extra t t') {i : Option Instruction}
    (done : t.undergo i = .ok u) (done' : t'.undergo i = .ok u') : Padded extra u u' := by
  cases i with
  | none => cases done; cases done'; exact padded
  | some i =>
      cases i with
      | increment | decrement => exact padded.add done done'
      | moveLeft => cases done; cases done'; exact padded.moveLeft
      | moveRight => cases done; cases done'; exact padded.moveRight
      | output =>
          rw [undergo_output done, undergo_output done']
          exact padded
      | input | loopStart | loopEnd => cases done; cases done'; exact padded

/-- It shows the same, wherever that is recorded. -/
theorem Padded.outputs (padded : Padded extra t t') (position position' : Int)
    (i : Option Instruction) :
    (t.outputs position i).map (fun e => (e.value, e.pointer)) =
      (t'.outputs position' i).map fun e => (e.value, e.pointer) := by
  unfold Tape.outputs
  split
  · simp only [List.map_cons, List.map_nil, padded.holds, padded.pointer]
  · rfl

/-! ## Idle instructions -/

/-- Instructions that may be left out where the pointer stands at `p`, and the cells that
they may allocate. -/
inductive Idle (p : Int) : List Instruction → List Int → Prop
  | upDown : Idle p [.increment, .decrement] []
  | downUp : Idle p [.decrement, .increment] []
  | rightLeft : Idle p [.moveRight, .moveLeft] [p + 1]
  | leftRight (inside : 0 < p) : Idle p [.moveLeft, .moveRight] []
  | left (edge : p = 0) : Idle p [.moveLeft] []

/-- The tape after instructions, unless one of them is refused. -/
def undergoAll (t : Tape) : List Instruction → Except Unallocated Tape
  | [] => .ok t
  | i :: x => (t.undergo (some i)).bind fun t' => t'.undergoAll x

theorem undergoAll_cons_eq_ok {i : Instruction} {x : List Instruction} :
    t.undergoAll (i :: x) = .ok u ↔
      ∃ t₁, t.undergo (some i) = .ok t₁ ∧ t₁.undergoAll x = .ok u := by
  rw [undergoAll]
  cases t.undergo (some i) with
  | error unallocated => simp [Except.bind]
  | ok t₁ => simp [Except.bind]

theorem padded_add_add {amount back : Int} (added : t.add amount = .ok t')
    (undone : t'.add back = .ok u) (opposite : amount + back = 0) : Padded [] u t := by
  have there := added_of_add added
  have again := added_of_add undone
  refine ⟨again.pointer.trans there.pointer, ?_, ?_⟩
  · intro c
    rw [again.holds, there.holds, there.pointer]
    split <;> omega
  · intro c
    rw [again.allocated, there.allocated]
    simp

theorem padded_moveRight_moveLeft (nonneg : 0 ≤ t.pointer) :
    Padded [t.pointer + 1] t.moveRight.moveLeft t where
  pointer := by
    have moved : 0 < t.moveRight.pointer := Int.lt_add_one_of_le nonneg
    rw [Tape.moveLeft, if_pos moved]
    exact Int.add_sub_cancel t.pointer 1
  holds c := by rw [cells_moveLeft, getD_moveRight]
  allocated c := by rw [cells_moveLeft, mem_cells_moveRight, List.mem_singleton]

theorem padded_moveLeft_moveRight (inside : 0 < t.pointer) (here : t.pointer ∈ t.cells) :
    Padded [] t.moveLeft.moveRight t := by
  have moved : t.moveLeft.pointer + 1 = t.pointer := by
    rw [Tape.moveLeft, if_pos inside]
    exact Int.sub_add_cancel t.pointer 1
  refine ⟨moved, ?_, ?_⟩
  · intro c
    rw [getD_moveRight, cells_moveLeft]
  · intro c
    -- The cell that the pointer comes back to is one that it came from.
    rw [mem_cells_moveRight, cells_moveLeft, moved]
    constructor
    · rintro (mem | rfl)
      · exact Or.inl mem
      · exact Or.inl here
    · rintro (mem | none)
      · exact Or.inl mem
      · cases none

/-- Idle instructions leave the tape they found, with what they allocate. -/
theorem Idle.padded {x : List Instruction} (idle : Idle t.pointer x extra)
    (nonneg : 0 ≤ t.pointer) (here : t.pointer ∈ t.cells)
    (done : t.undergoAll x = .ok u) : Padded extra u t := by
  cases idle with
  | upDown | downUp =>
      obtain ⟨t₁, added, onward⟩ := undergoAll_cons_eq_ok.mp done
      obtain ⟨t₂, undone, ended⟩ := undergoAll_cons_eq_ok.mp onward
      cases ended
      exact padded_add_add added undone rfl
  | rightLeft =>
      cases done
      exact padded_moveRight_moveLeft nonneg
  | leftRight inside =>
      cases done
      exact padded_moveLeft_moveRight inside here
  | left edge =>
      cases done
      rw [Tape.moveLeft, if_neg (by omega)]
      exact Padded.refl t

end Tape

/-! ## Runs on padded tapes -/

namespace Machine

variable {extra : List Int} {m m' n n' : Machine}

/-- Two machines that have shown the same, the first with a padded tape. -/
structure Beside (extra : List Int) (m m' : Machine) : Prop where
  tape : m.tape.Padded extra m'.tape
  shown : m.events.toList.map (fun e => (e.value, e.pointer)) =
    m'.events.toList.map fun e => (e.value, e.pointer)

theorem Beside.execute (beside : Beside extra m m') {i : Option Instruction}
    (executed : m.execute i = .ok n) (executed' : m'.execute i = .ok n') : Beside extra n n' := by
  obtain ⟨t, done, rfl⟩ := execute_eq_ok.mp executed
  obtain ⟨t', done', rfl⟩ := execute_eq_ok.mp executed'
  refine ⟨beside.tape.undergo done done', ?_⟩
  simp only [Array.toList_appendList, List.map_append, beside.shown]
  rw [beside.tape.outputs m.cursor.index m'.cursor.index]

/-- Two runs of the same instructions show the same, if they did so before. -/
theorem Beside.runFrom (beside : Beside extra m m') {b : List Instruction}
    (ran : m.runFrom (b.map Item.instruction) = .ok n)
    (ran' : m'.runFrom (b.map Item.instruction) = .ok n') :
    Beside extra n n' := by
  induction b generalizing m m' with
  | nil =>
      cases ran
      cases ran'
      exact beside
  | cons i b ih =>
      obtain ⟨m₁, executed, onward⟩ := runFrom_cons_eq_ok.mp ran
      obtain ⟨m₁', executed', onward'⟩ := runFrom_cons_eq_ok.mp ran'
      have after := beside.execute executed executed'
      refine ih ?_ onward onward'
      exact ⟨after.tape, after.shown⟩

/-- Instructions without an output change the tape and record nothing. -/
theorem runFrom_silent {x : List Instruction} (silent : .output ∉ x)
    (ran : m.runFrom (x.map Item.instruction) = .ok n) :
    m.tape.undergoAll x = .ok n.tape ∧ n.events = m.events := by
  induction x generalizing m with
  | nil =>
      cases ran
      exact ⟨rfl, rfl⟩
  | cons i x ih =>
      obtain ⟨m₁, executed, onward⟩ := runFrom_cons_eq_ok.mp ran
      obtain ⟨t, done, rfl⟩ := execute_eq_ok.mp executed
      rw [List.mem_cons, not_or] at silent
      obtain ⟨later, events⟩ := ih silent.2 onward
      have nothing : m.tape.outputs m.cursor.index (some i) = [] := by
        cases i with
        | output => exact absurd rfl silent.1
        | increment | decrement | moveLeft | moveRight | input | loopStart | loopEnd => rfl
      refine ⟨Tape.undergoAll_cons_eq_ok.mpr ⟨t, done, later⟩, ?_⟩
      rw [events, nothing]
      exact Array.appendList_nil

/-- A run in two parts, neither of which is refused. -/
theorem exists_run_append (m : Machine) (a b : List Instruction) :
    ∃ first whole, m.run (a.map Item.instruction) = .ok first ∧
      first.runFrom (b.map Item.instruction) = .ok whole ∧
      m.run ((a ++ b).map Item.instruction) = .ok whole ∧
      Walk.Follows a a.length first := by
  obtain ⟨first, ran, follows⟩ := Walk.Follows.run a
  obtain ⟨whole, ran', -⟩ := Walk.Follows.run (a ++ b)
  have parts := runFrom_append m.restarted a b
  rw [show m.restarted.runFrom (a.map Item.instruction) = .ok first from ran]
    at parts
  exact ⟨first, whole, ran, parts.symm.trans ran', ran', follows⟩

/-- Machines that have shown the same have shown the same values. -/
theorem Beside.values (beside : Beside extra m m') :
    Compilation.values m = Compilation.values m' := by
  have shown := congrArg (List.map Prod.fst) beside.shown
  simpa [Compilation.values, Function.comp_def] using shown

/-- **Idle instructions.**  Whatever comes before and after, a program shows the same
values from the same cells, and so has the same long form, with an increment and a
decrement in it in either order, or a move to the right and one to the left; with a move to
the left and one to the right where the pointer is not at the edge; and with a move to the
left where it is at the edge.  The tapes hold the same, and are the same but for the cell
that a move to the right has allocated, which may be missing without it. -/
theorem run_without_idle (m : Machine) :
    (∀ a b : List Instruction, ∃ first,
      m.run (a.map Item.instruction) = .ok first ∧
      ∀ x extra, Tape.Idle first.tape.pointer x extra →
        ∃ n n', m.run ((a ++ x ++ b).map Item.instruction) = .ok n ∧
          m.run ((a ++ b).map Item.instruction) = .ok n' ∧
          n.events.toList.map (fun e => (e.value, e.pointer)) =
            n'.events.toList.map (fun e => (e.value, e.pointer)) ∧
          LongForm.encode (Compilation.values n) = LongForm.encode (Compilation.values n') ∧
          n.tape.Padded extra n'.tape ∧ (extra = [] → n.tape = n'.tape)) ∧
    ∃ a b : List Instruction, ∃ n n',
      m.run ((a ++ [Instruction.moveRight, .moveLeft] ++ b).map Item.instruction) = .ok n ∧
      m.run ((a ++ b).map Item.instruction) = .ok n' ∧
      n.tape.cells[(1 : Int)]? = some 0 ∧ n'.tape.cells[(1 : Int)]? = none := by
  constructor
  · intro a b
    obtain ⟨first, n', ran, onward', whole', follows⟩ := exists_run_append m a b
    refine ⟨first, ran, ?_⟩
    intro x extra idle
    obtain ⟨_, second, ran₁, between, ran₂, -⟩ := exists_run_append m a x
    obtain ⟨_, n, ran₃, onward, whole, -⟩ := exists_run_append m (a ++ x) b
    cases ran.symm.trans ran₁
    cases ran₂.symm.trans ran₃
    have silent : .output ∉ x := by cases idle <;> simp
    obtain ⟨done, events⟩ := runFrom_silent silent between
    have nonneg : 0 ≤ first.tape.pointer := by
      rw [follows.tape.pointer]
      exact Walk.position_nonneg a a.length
    have here := Tape.mem_cells_of_getElem? follows.tape.cell_here
    have beside : Beside extra second first := ⟨idle.padded nonneg here done, by rw [events]⟩
    have after := beside.runFrom onward onward'
    refine ⟨n, n', whole, whole', after.shown, by rw [after.values], after.tape, ?_⟩
    rintro rfl
    exact after.tape.eq
  · refine ⟨[], [], _, _, rfl, rfl, ?_, ?_⟩
    · show Tape.blank.moveRight.moveLeft.cells[(1 : Int)]? = some 0
      decide +kernel
    · show Tape.blank.cells[(1 : Int)]? = none
      decide +kernel

/-- A move to the left and one to the right, one cell away from the edge. -/
theorem run_without_idle_inside :
    Tape.Idle 1 [.moveLeft, .moveRight] [] ∧
      ∃ n n', fresh.run ([Instruction.moveRight, .moveLeft, .moveRight, .output].map
          Item.instruction) = .ok n ∧
        fresh.run ([Instruction.moveRight, .output].map Item.instruction) =
          .ok n' ∧
        n.events.toList.map (fun e => (e.value, e.pointer)) = [(0, 1)] ∧ n.tape = n'.tape := by
  have idle : Tape.Idle 1 [.moveLeft, .moveRight] [] := .leftRight (by decide)
  obtain ⟨first, ran, without⟩ := (run_without_idle fresh).1 [.moveRight] [.output]
  have pointer : first.tape.pointer = 1 := by
    cases ran
    rfl
  rw [← pointer] at idle
  obtain ⟨n, n', whole, whole', -, -, -, same⟩ := without _ _ idle
  rw [pointer] at idle
  refine ⟨idle, n, n', whole, whole', ?_, same rfl⟩
  cases whole
  decide +kernel

/-- At the edge the two moves lead elsewhere. -/
example :
    let shown : List Instruction → Except Fault (List (Int × Int)) := fun a =>
      (fresh.run (a.map Item.instruction)).map fun m =>
        m.events.toList.map fun e => (e.value, e.pointer)
    shown [.moveLeft, .moveRight, .output] = .ok [(0, 1)] ∧ shown [.output] = .ok [(0, 0)] := by
  decide +kernel

end Machine

end DeltaTape
