/-
# DeltaTape.Proofs.SingleSteps — a run, or a run and then single steps

A machine can be driven by one run, or by a run of the first instructions and by
single steps for the others.  What an instruction does to the tape depends on the tape
alone, and what it adds to the log on the tape and the cursor (`execute_eq`).  So both
ways lead to the same tape and show the same values and cells; but only a run moves the
cursor, so what the steps record stands at the position where the run ended.

* `execute_beside` and `steps_beside`: one instruction, and any number of them, on two
  machines with the same tape;
* `steps_after_run`: a run and then steps, beside the whole run.
-/
import Mathlib
import DeltaTape.Proofs.Expansion
import DeltaTape.Proofs.LinearPart

namespace DeltaTape

set_option autoImplicit false

namespace Machine

variable {m n n' : Machine}

/-! ## One step -/

/-- On a machine with the same tape an instruction does the same to the tape, and
records the same at the position of that machine's cursor. -/
theorem execute_beside {i : Option Instruction} (same : m.tape = n.tape)
    (executed : n.execute i = .ok n') :
    ∃ m' news, m.execute i = .ok m' ∧ m'.tape = n'.tape ∧ m'.cursor = m.cursor ∧
      n'.events.toList = n.events.toList ++ news ∧
      m'.events.toList = m.events.toList ++ news.map (·.placed m.cursor.index) := by
  rw [execute_eq] at executed ⊢
  rw [same]
  cases done : n.tape.undergo i with
  | error u => rw [done] at executed; cases executed
  | ok t =>
      rw [done] at executed
      cases executed
      refine ⟨_, n.tape.outputs n.cursor.index i, rfl, rfl, rfl, Array.toList_appendList, ?_⟩
      rw [Array.toList_appendList, Tape.map_placed_outputs]

/-! ## Any number of steps -/

/-- Single steps on a machine with the same tape as one that runs: all are carried
out, the tapes agree in the end, and so does what has been recorded meanwhile, but
for its positions. -/
theorem steps_beside {b : List Instruction} (same : m.tape = n.tape)
    (ran : n.runFrom (b.map Item.instruction) = .ok n') :
    ∃ s news, m.steps (b.map Item.instruction) = (s, none) ∧
      s.tape = n'.tape ∧ s.cursor = m.cursor ∧ n'.events.toList = n.events.toList ++ news ∧
      s.events.toList = m.events.toList ++ news.map (·.placed m.cursor.index) := by
  induction b generalizing m n with
  | nil =>
      cases ran
      exact ⟨m, [], rfl, same, rfl, by simp, by simp⟩
  | cons i b ih =>
      obtain ⟨n₁, executed, onward⟩ := runFrom_cons_eq_ok.mp ran
      obtain ⟨m₁, news, stepped, same₁, stays, logged, logged'⟩ := execute_beside same executed
      obtain ⟨s, later, steps, tape, cursor, events, events'⟩ :=
        ih (n := { n₁ with cursor := n₁.cursor.advance 1 }) same₁ onward
      refine ⟨s, news ++ later, ?_, tape, cursor.trans stays, ?_, ?_⟩
      · simp only [List.map_cons, Machine.steps, step, Item.bare?, stepped, Except.mapError]
        exact steps
      · rw [events, ← List.append_assoc, ← logged]
      · rw [events', logged', stays, List.map_append, List.append_assoc]

/-- **A run and then single steps.**  For all instructions `a` and `b`, a machine that
runs `a` and then steps through `b` has the tape that a run of `a` and `b` together
leaves.  Its log is that of the run of `a`, and then what the whole run records
besides: the same values and cells, but all at the position where the run of `a`
ended.  A machine that has never run goes through `b` in the same way, with everything
at position zero. -/
theorem steps_after_run (m : Machine) (a b : List Instruction) :
    (∃ first whole s later,
      m.run (a.map Item.instruction) = .ok first ∧
      m.run ((a ++ b).map Item.instruction) = .ok whole ∧
      first.steps (b.map Item.instruction) = (s, none) ∧
      s.tape = whole.tape ∧ whole.events.toList = first.events.toList ++ later ∧
      s.events.toList = first.events.toList ++ later.map (fun e => { e with index := a.length })) ∧
    ∃ whole s,
      m.run (b.map Item.instruction) = .ok whole ∧
      fresh.steps (b.map Item.instruction) = (s, none) ∧
      s.tape = whole.tape ∧
      s.events.toList = whole.events.toList.map (fun e => { e with index := 0 }) := by
  constructor
  · obtain ⟨first, ran, follows⟩ := Walk.Follows.run a
    obtain ⟨whole, ran', -⟩ := Walk.Follows.run (a ++ b)
    have onward : first.runFrom (b.map Item.instruction) = .ok whole := by
      have parts := runFrom_append fresh.restarted a b
      rw [show fresh.restarted.runFrom (a.map Item.instruction) = .ok first
        from ran] at parts
      exact parts.symm.trans ran'
    obtain ⟨s, later, stepped, tape, -, logged, logged'⟩ := steps_beside rfl onward
    rw [follows.cursor] at logged'
    exact ⟨first, whole, s, later, ran, ran', stepped, tape, logged, logged'⟩
  · obtain ⟨whole, ran, -⟩ := Walk.Follows.run b
    have blank : fresh.tape = fresh.restarted.tape := rfl
    obtain ⟨s, later, stepped, tape, -, logged, logged'⟩ := steps_beside blank ran
    refine ⟨whole, s, ran, stepped, tape, ?_⟩
    rw [logged, logged']
    rfl

/-- Steps record at the position where the run ended, not at their own. -/
example :
    let items : List Instruction → List Item := fun a => a.map .instruction
    ((fresh.run (items [.increment])).map fun m =>
      (m.steps (items [.output, .increment, .output])).1.events.toList) =
        .ok [⟨1, 0, 1⟩, ⟨2, 0, 1⟩] := by
  decide +kernel

end Machine

end DeltaTape
