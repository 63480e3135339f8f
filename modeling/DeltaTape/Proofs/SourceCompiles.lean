/-
# DeltaTape.Proofs.SourceCompiles — reading, running and encoding do not fail

Reading a source never fails, and neither does running it: the pointer always
stands on a cell.  Encoding refuses a change between two outputs that is too long
in decimal.  But every increment and decrement is made in one cell only, so no
change is larger than the number of signs in the source, and a source would have
to hold a number of signs that is itself too long in decimal for encoding to
refuse.

* `changes_scan_source`: the increments and decrements of a source are its signs;
* `natAbs_deltas_le`: changes between values that lie close are small;
* `compileLong_of_few_signs`: the bound on the long form of every source, and
  what follows from it.
-/
import Mathlib
import DeltaTape.Proofs.OutputRange
import DeltaTape.Proofs.RoundTrip
import DeltaTape.Proofs.Stages

namespace DeltaTape

set_option autoImplicit false

/-- How many characters of a source are a plus or a minus. -/
def signs (source : String) : Nat := source.toList.countP fun c => decide (c = '+' ∨ c = '-')

/-- The increments and decrements of a source are its plus and minus signs. -/
theorem changes_scan_source (source file : String) :
    Walk.changes (Token.instructions (Token.scan source file)) = signs source := by
  rw [Token.instructions_scan, Walk.changes_filterMap]
  simp only [Instruction.ofSymbol?_eq_some]
  rfl

namespace LongForm

/-- Values of which none lies far from one before it have small changes between them. -/
theorem natAbs_deltas_le {n : Nat} {previous : Int} {values : List Int}
    (near : (previous :: values).Pairwise fun v w => (w - v).natAbs ≤ n) :
    ∀ d ∈ deltasFrom previous values, d.natAbs ≤ n := by
  induction values generalizing previous with
  | nil => simp [deltasFrom]
  | cons value values ih =>
      obtain ⟨first, later⟩ := List.pairwise_cons.mp near
      intro d mem
      rcases List.mem_cons.mp mem with rfl | onward
      · exact first value (by simp)
      · exact ih later d onward

/-- The number of the step of a change is its size. -/
theorem Step.number_ofDelta (delta : Int) : (ofDelta delta).number = delta.natAbs := by
  rw [← natAbs_change, change_ofDelta]

end LongForm

/-- Every source runs to its end, and no change between its outputs is larger
than the number of its signs. -/
theorem simulate_source (source file : String) :
    ∃ m, simulate (Token.scan source file) = .ok m ∧
      ∀ d ∈ LongForm.deltasFrom 0 (Compilation.values m), d.natAbs ≤ signs source := by
  obtain ⟨m, ran, -⟩ := Walk.Follows.run (Token.instructions (Token.scan source file))
  rw [← simulate_eq] at ran
  have near := Walk.pairwise_values ran
  rw [changes_scan_source] at near
  exact ⟨m, ran, LongForm.natAbs_deltas_le near⟩

/-- **Compiling does not fail.**  Every source runs to its end, and no number in
its long form is larger than the number of its signs.  So with fewer signs than
the first number too long to be written, the outputs are encoded, and read back
from the long form. -/
theorem compileLong_of_few_signs (source file : String) :
    ∃ m, simulate (Token.scan source file) = .ok m ∧
      (∀ d ∈ LongForm.differences (Compilation.values m), d.natAbs ≤ signs source) ∧
      (∀ long, compileLong source = .ok long →
        ∃ steps, long = LongForm.written steps ∧
          ∀ s ∈ steps, s.Whole ∧ s.number ≤ signs source) ∧
      (signs source < Decimal.bound →
        ∃ long, LongForm.encode (Compilation.values m) = .ok long ∧
          compileLong source = .ok long ∧
          ∀ name, LongForm.replay long name = .ok (Compilation.values m)) := by
  obtain ⟨m, ran, small⟩ := simulate_source source file
  refine ⟨m, ran, ?_, ?_, ?_⟩
  · rw [LongForm.differences, ← LongForm.deltasFrom_eq_zipWith]
    exact small
  · intro long compiled
    obtain ⟨m', ran', encoded⟩ := (compileLong_eq_ok file).mp compiled
    rw [ran] at ran'
    cases ran'
    obtain ⟨-, rfl⟩ := LongForm.encode_eq_ok encoded
    refine ⟨_, rfl, ?_⟩
    intro s mem
    obtain ⟨d, change, rfl⟩ := List.mem_map.mp mem
    exact ⟨LongForm.Step.whole_ofDelta d, by
      rw [LongForm.Step.number_ofDelta]
      exact small d change⟩
  · intro few
    have encoded := LongForm.encode_of_fits fun d mem => (small d mem).trans_lt few
    exact ⟨_, encoded, (compileLong_eq_ok file).mpr ⟨m, ran, encoded⟩,
      LongForm.replay_of_encode encoded⟩

/-- Outputs of two cells that lie as far apart as the source has signs. -/
theorem compileLong_of_few_signs_two_cells :
    signs "+.>--." = 3 ∧ compileLong "+.>--." = .ok "1+3-" ∧
      LongForm.replay "1+3-" "two" = .ok [1, -2] := by
  have three : signs "+.>--." = 3 := by decide +kernel
  have few : signs "+.>--." < Decimal.bound := by decide +kernel
  have written : LongForm.encode [1, -2] = .ok "1+3-" := by decide +kernel
  obtain ⟨m, ran, -, -, succeeds⟩ := compileLong_of_few_signs "+.>--." "two"
  have values : Compilation.values m = [1, -2] := by
    have output : (simulate (Token.scan "+.>--." "two")).map Compilation.values = .ok [1, -2] := by
      decide +kernel
    rw [ran] at output
    exact Except.ok.inj output
  obtain ⟨long, encoded, compiled, replayed⟩ := succeeds few
  rw [values, written] at encoded
  cases encoded
  rw [values] at replayed
  exact ⟨three, compiled, replayed "two"⟩

end DeltaTape
