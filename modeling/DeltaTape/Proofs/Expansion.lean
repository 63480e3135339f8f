/-
# DeltaTape.Proofs.Expansion — long form as a program

A step of long form is short for a program: as many increments or decrements as
its number says, then one output.  The program never moves, so it works on a
tape of one cell, and the running total that a reader keeps is what the cell
holds.  Reading a text and running its expansion are the same.

* `Machine.runFrom_append`: a run in two parts;
* `Machine.runFrom_replicate`: the inner run, over the repetitions of one step;
* `Machine.runFrom_program`: the outer run, over the steps;
* `simulate_expand`: what is read from a text, run from its expansion.
-/
import Mathlib
import DeltaTape.Proofs.CanonicalForm
import DeltaTape.Proofs.Stages

namespace DeltaTape

set_option autoImplicit false

/-! ## A tape of one cell -/

namespace Tape

/-- One cell, and the pointer on it. -/
def single (v : Int) : Tape := ⟨(∅ : Cells).insert 0 v, 0⟩

theorem value_single (v : Int) : (single v).value = .ok v := by
  simp [value, single]

theorem add_single (v amount : Int) : (single v).add amount = .ok (single (v + amount)) := by
  have here : ((∅ : Cells).insert 0 v)[(0 : Int)]? = some v := by simp
  simp only [add, single, here, Except.ok.injEq, Tape.mk.injEq, and_true]
  apply Std.ExtTreeMap.ext_getElem?
  intro c
  simp only [Std.ExtTreeMap.getElem?_insert]
  split <;> simp

end Tape

/-! ## The program of a step -/

namespace LongForm

/-- The instruction a direction stands for. -/
def Sign.instruction : Sign → Instruction
  | up => .increment
  | down => .decrement

namespace Step

/-- A step written out: its sign as often as its number says, then an output. -/
def expanded (s : Step) : List Char := List.replicate s.number s.sign.symbol ++ ['.']

/-- The instructions that a step written out consists of. -/
def program (s : Step) : List Instruction :=
  List.replicate s.number s.sign.instruction ++ [.output]

theorem filterMap_expanded (s : Step) :
    s.expanded.filterMap Instruction.ofSymbol? = s.program := by
  have sign : Instruction.ofSymbol? s.sign.symbol = some s.sign.instruction := by
    cases s.sign <;> rfl
  rw [expanded, program, List.filterMap_append, List.filterMap_replicate_of_some sign]
  rfl

end Step

/-- The source that a text is short for, step by step. -/
def expand (text : String) : String := String.ofList ((Step.scan text).1.flatMap Step.expanded)

theorem instructions_expand {steps : List Step} (whole : ∀ s ∈ steps, s.Whole) (file : String) :
    Token.instructions (Token.scan (expand (written steps)) file) = steps.flatMap Step.program := by
  rw [Token.instructions_scan, expand, scan_written whole, String.toList_ofList,
    List.filterMap_flatMap]
  simp only [Step.filterMap_expanded]

end LongForm

/-! ## Running the program -/

namespace Machine

/-- A run in two parts: the second goes on where the first ended. -/
theorem runFrom_append (m : Machine) (a b : List Instruction) :
    m.runFrom ((a ++ b).map Item.instruction) =
      (m.runFrom (a.map Item.instruction)).bind fun m' =>
        m'.runFrom (b.map Item.instruction) := by
  induction a generalizing m with
  | nil => rfl
  | cons i a ih =>
      rw [List.cons_append, List.map_cons, runFrom_instruction, List.map_cons, runFrom_instruction]
      cases m.execute (some i) with
      | error u => rfl
      | ok m' => exact ih _

theorem execute_sign {m : Machine} {v : Int} (single : m.tape = .single v)
    (sign : LongForm.Sign) :
    m.execute (some sign.instruction) = .ok { m with tape := .single (v + sign.apply 1) } := by
  cases sign with
  | up | down =>
      simp [LongForm.Sign.instruction, execute, single, Tape.add_single, LongForm.Sign.apply]

theorem runFrom_output {m : Machine} {v : Int} (single : m.tape = .single v) :
    m.runFrom [.instruction .output] =
      .ok { m with
        events := m.events.push ⟨v, 0, m.cursor.index⟩
        cursor := m.cursor.advance 1 } := by
  have observed : m.observe = .ok ⟨v, 0, m.cursor.index⟩ := by
    rw [observe, single, Tape.value_single]
    rfl
  rw [runFrom_instruction, execute, observed]
  rfl

/-- Repetitions of one change add up in the cell. -/
theorem runFrom_replicate {m : Machine} {v : Int} (single : m.tape = .single v)
    (sign : LongForm.Sign) (n : Nat) :
    m.runFrom ((List.replicate n sign.instruction).map Item.instruction) =
      .ok { m with tape := .single (v + sign.apply n), cursor := m.cursor.advance n } := by
  induction n generalizing m v with
  | zero =>
      have still : v + sign.apply 0 = v := by cases sign <;> simp [LongForm.Sign.apply]
      rw [still, ← single]
      simp [Cursor.advance, runFrom, consume]
  | succ n ih =>
      have sum : v + sign.apply 1 + sign.apply n = v + sign.apply (n + 1) := by
        cases sign <;> simp [LongForm.Sign.apply] <;> omega
      rw [List.replicate_succ, List.map_cons, runFrom_instruction, execute_sign single]
      simp only [Except.mapError, Except.bind]
      rw [ih rfl, sum, Cursor.advance_advance, Nat.cast_succ, Int.add_comm 1]

/-- The machine with a step made in its one cell, which held `v`, and recorded. -/
def afterStep (m : Machine) (v : Int) (s : LongForm.Step) : Machine :=
  { m with
    tape := .single (v + s.change)
    events := m.events.push ⟨v + s.change, 0, m.cursor.index + s.number⟩
    cursor := m.cursor.advance (s.number + 1) }

/-- The program of one step changes the cell by the step and records it. -/
theorem runFrom_step {m : Machine} {v : Int} (single : m.tape = .single v) (s : LongForm.Step) :
    m.runFrom (s.program.map Item.instruction) = .ok (m.afterStep v s) := by
  have after : v + s.sign.apply s.number = v + s.change := rfl
  rw [LongForm.Step.program, runFrom_append, runFrom_replicate single, after, afterStep,
    ← Cursor.advance_advance]
  simp only [Except.bind, List.map_cons, List.map_nil]
  exact runFrom_output rfl

/-- The program of steps records their running totals, all of them of the one cell. -/
theorem runFrom_program {m : Machine} {v : Int} (single : m.tape = .single v)
    (steps : List LongForm.Step) :
    ∃ m' events,
      m.runFrom ((steps.flatMap LongForm.Step.program).map Item.instruction) =
        .ok m' ∧
      m'.events.toList = m.events.toList ++ events ∧
      events.map Event.value = (LongForm.Step.runningTotals steps).map (v + ·) ∧
      ∀ e ∈ events, e.pointer = 0 := by
  induction steps generalizing m v with
  | nil => exact ⟨m, [], rfl, by simp, rfl, by simp⟩
  | cons s steps ih =>
      -- The others begin with the total of the first in the cell.
      obtain ⟨m', later, ran, recorded, values, pointers⟩ := ih (m := m.afterStep v s) rfl
      refine ⟨m', ⟨v + s.change, 0, m.cursor.index + s.number⟩ :: later, ?_, ?_, ?_, ?_⟩
      · rw [List.flatMap_cons, runFrom_append, runFrom_step single]
        exact ran
      · rw [recorded]
        simp [afterStep]
      · rw [List.map_cons, values, LongForm.Step.runningTotals_cons, List.map_cons, List.map_map]
        congr 2
        funext total
        simp only [Function.comp_apply]
        omega
      · intro e mem
        rcases List.mem_cons.mp mem with rfl | later
        · rfl
        · exact pointers e later

end Machine

/-- The expansion of whole steps runs to the end, and records their running
totals, all of them of cell zero. -/
theorem simulate_expand_written {steps : List LongForm.Step} (whole : ∀ s ∈ steps, s.Whole)
    (file : String) :
    ∃ m, simulate (Token.scan (LongForm.expand (LongForm.written steps)) file) = .ok m ∧
      Compilation.values m = LongForm.Step.runningTotals steps ∧ ∀ e ∈ m.events, e.pointer = 0 := by
  obtain ⟨m, events, ran, recorded, values, pointers⟩ :=
    Machine.runFrom_program (m := Machine.fresh.restarted) (v := 0) rfl steps
  have all : m.events.toList = events := recorded
  refine ⟨m, ?_, ?_, ?_⟩
  · rw [simulate_eq, LongForm.instructions_expand whole]
    exact ran
  · rw [Compilation.values, Array.toList_map, all, values]
    simp
  · intro e mem
    rw [← Array.mem_toList_iff, all] at mem
    exact pointers e mem

/-- The expansion of a text that is read has the long form of the values. -/
theorem compileLong_expand {text file : String} {values : List Int}
    (replayed : LongForm.replay text file = .ok values) {long : String}
    (encoded : LongForm.encode values = .ok long) :
    compileLong (LongForm.expand text) = .ok long := by
  obtain ⟨steps, whole, -, rfl, rfl⟩ := LongForm.replay_eq_ok.mp replayed
  obtain ⟨m, ran, values, -⟩ := simulate_expand_written whole file
  rw [compileLong_eq_ok file]
  exact ⟨m, ran, by rw [values]; exact encoded⟩

/-- **Long form is a program.**  Every text that is read is a run of whole steps.
Each of them written out as that many signs and an output, the text becomes a
source whose run records exactly the values that are read, all of cell zero, and
whose long form is that of the values.  So the long form of any source, written
out and compiled again, is itself. -/
theorem simulate_expand :
    (∀ text file values, LongForm.replay text file = .ok values →
      (∃ steps, (∀ s ∈ steps, s.Whole) ∧ text = LongForm.written steps ∧
        LongForm.expand text = String.ofList (steps.flatMap fun s =>
          List.replicate (Nat.ofDigitChars 10 s.digits 0) s.sign.symbol ++ ['.'])) ∧
      (∀ name, ∃ m, simulate (Token.scan (LongForm.expand text) name) = .ok m ∧
        Compilation.values m = values ∧ ∀ e ∈ m.events, e.pointer = 0) ∧
      ∃ long, LongForm.encode values = .ok long ∧
        compileLong (LongForm.expand text) = .ok long) ∧
    ∀ source long, compileLong source = .ok long →
      compileLong (LongForm.expand long) = .ok long := by
  refine ⟨?_, ?_⟩
  · intro text file values replayed
    have encoded := LongForm.encode_eq_canon replayed
    have compiled := compileLong_expand replayed encoded
    obtain ⟨steps, whole, -, rfl, rfl⟩ := LongForm.replay_eq_ok.mp replayed
    refine ⟨⟨steps, whole, rfl, ?_⟩, simulate_expand_written whole, _, encoded, compiled⟩
    rw [LongForm.expand, LongForm.scan_written whole]
    rfl
  · intro source long compiled
    obtain ⟨m, -, encoded⟩ := (compileLong_eq_ok Place.unnamed).mp compiled
    exact compileLong_expand (LongForm.replay_of_encode encoded Place.unnamed) encoded

/-- A step with zeros in front, a zero step and a total below zero: read, and run
from the source they are short for. -/
theorem simulate_expand_padded :
    LongForm.replay "02+0-3-" Place.unnamed = .ok [2, 2, -1] ∧
      LongForm.expand "02+0-3-" = "++..---." ∧
      compileLong "++..---." = .ok "2+0+3-" := by
  have replayed : LongForm.replay "02+0-3-" Place.unnamed = .ok [2, 2, -1] := by decide +kernel
  have expanded : LongForm.expand "02+0-3-" = "++..---." := by decide +kernel
  have encoded : LongForm.encode [2, 2, -1] = .ok "2+0+3-" := by decide +kernel
  obtain ⟨-, -, long, written, compiled⟩ := simulate_expand.1 _ _ _ replayed
  rw [encoded] at written
  cases written
  exact ⟨replayed, expanded, by rw [← expanded]; exact compiled⟩

end DeltaTape
