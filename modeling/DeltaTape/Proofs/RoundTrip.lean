/-
# DeltaTape.Proofs.RoundTrip — what is written is read back, and when nothing is written

A change is written as one whole step (`Step.ofDelta`), and the steps of a list
of changes follow one another without separators.  Writing fails exactly at a
change of more digits than may be written; the values themselves may be as
large as they like.

* `Step.change_ofDelta`: the step of a change stands for that change;
* `writeSteps_eq_ok` and `writeSteps_eq_error`: the text of a list of changes,
  and when there is none;
* `encode_round_trip`: the round trip and the exact condition for its failure.
-/
import Mathlib
import DeltaTape.Machine
import DeltaTape.Proofs.StepGrammar

namespace DeltaTape.LongForm

set_option autoImplicit false

/-! ## The step of a change -/

namespace Step

/-- The step that a change is written as; no change is a step up. -/
def ofDelta (delta : Int) : Step where
  digits := Nat.toDigits 10 delta.natAbs
  sign := if delta < 0 then .down else .up

theorem whole_ofDelta (delta : Int) : (ofDelta delta).Whole where
  nonempty := Nat.toDigits_ne_nil
  digits _ mem := Nat.isDigit_of_mem_toDigits (by decide) (by decide) mem

/-- The step of a change stands for that change. -/
theorem change_ofDelta (delta : Int) : (ofDelta delta).change = delta := by
  unfold change ofDelta
  rw [Nat.ofDigitChars_ten_toDigits]
  split
  · simp only [Sign.apply]
    omega
  · simp only [Sign.apply]
    omega

theorem isLong_ofDelta {delta : Int} (fits : delta.natAbs < Decimal.bound) :
    (ofDelta delta).isLong = false := by
  have short := Decimal.length_toDigits_le.mpr fits
  exact decide_eq_false (Nat.not_lt.mpr short)

end Step

/-! ## Writing -/

theorem writeStep_eq_ok {delta : Int} (fits : delta.natAbs < Decimal.bound) :
    writeStep delta = .ok (String.ofList (Step.ofDelta delta).text) := by
  rw [writeStep, Decimal.ofNat_eq_ok fits, Step.ofDelta, Step.text]
  simp only [Except.map, Except.ok.injEq]
  split <;> simp [String.ofList_append, Sign.symbol]

theorem writeStep_eq_error {delta : Int} (exceeds : Decimal.bound ≤ delta.natAbs) :
    writeStep delta = .error .writing := by
  rw [writeStep, Decimal.ofNat_eq_error exceeds]
  rfl

/-- The text of a list of changes. -/
theorem writeSteps_eq_ok {deltas : List Int} (fits : ∀ d ∈ deltas, d.natAbs < Decimal.bound) :
    writeSteps deltas = .ok (String.ofList ((deltas.map Step.ofDelta).flatMap Step.text)) := by
  induction deltas with
  | nil => rfl
  | cons delta deltas ih =>
      have later := ih fun d mem => fits d (List.mem_cons_of_mem delta mem)
      rw [writeSteps, writeStep_eq_ok (fits delta (by simp)), later]
      simp [bind, Except.bind, pure, Except.pure, String.ofList_append]

/-- One change that is too large leaves nothing written. -/
theorem writeSteps_eq_error {deltas : List Int} {d : Int} (mem : d ∈ deltas)
    (exceeds : Decimal.bound ≤ d.natAbs) : writeSteps deltas = .error .writing := by
  induction deltas with
  | nil => simp at mem
  | cons delta deltas ih =>
      rw [writeSteps]
      by_cases fits : delta.natAbs < Decimal.bound
      · have later : d ∈ deltas := by
          rcases List.mem_cons.mp mem with rfl | later
          · omega
          · exact later
        rw [writeStep_eq_ok fits, ih later]
        rfl
      · rw [writeStep_eq_error (by omega)]
        rfl

/-- Values between which no change is too large are written. -/
theorem encode_of_fits {values : List Int}
    (fits : ∀ d ∈ deltasFrom 0 values, d.natAbs < Decimal.bound) :
    encode values =
      .ok (String.ofList (((deltasFrom 0 values).map Step.ofDelta).flatMap Step.text)) := by
  rw [encode_values, writeSteps_eq_ok fits]

/-- Where values are written, no change is too large, and the text is that of
the changes. -/
theorem encode_eq_ok {values : List Int} {text : String} (written : encode values = .ok text) :
    (∀ d ∈ deltasFrom 0 values, d.natAbs < Decimal.bound) ∧
      text = String.ofList (((deltasFrom 0 values).map Step.ofDelta).flatMap Step.text) := by
  have fits : ∀ d ∈ deltasFrom 0 values, d.natAbs < Decimal.bound := by
    intro d mem
    by_contra exceeds
    rw [encode_values, writeSteps_eq_error mem (by omega)] at written
    cases written
  rw [encode_of_fits fits] at written
  exact ⟨fits, (Except.ok.inj written).symm⟩

/-! ## Reading what was written -/

/-- The running totals of the changes between values are the values. -/
theorem runningTotals_deltasFrom (previous : Int) (values : List Int) :
    (Step.runningTotals ((deltasFrom previous values).map Step.ofDelta)).map (previous + ·) =
      values := by
  induction values generalizing previous with
  | nil => rfl
  | cons value values ih =>
      have later := ih value
      rw [deltasFrom, List.map_cons, Step.runningTotals_cons, Step.change_ofDelta, List.map_cons,
        List.map_map]
      congr 1
      · omega
      · conv => rhs; rw [← later]
        apply List.map_congr_left
        intro v _
        simp only [Function.comp_apply]
        omega

/-- Changes that can be written are read back as the values they lie between. -/
theorem replay_deltas {values : List Int}
    (fits : ∀ d ∈ deltasFrom 0 values, d.natAbs < Decimal.bound) (file : String) :
    replay (String.ofList (((deltasFrom 0 values).map Step.ofDelta).flatMap Step.text)) file =
      .ok values := by
  have whole : ∀ s ∈ (deltasFrom 0 values).map Step.ofDelta, s.Whole := by
    intro s mem
    obtain ⟨d, -, rfl⟩ := List.mem_map.mp mem
    exact Step.whole_ofDelta d
  have short : ∀ s ∈ (deltasFrom 0 values).map Step.ofDelta, s.isLong = false := by
    intro s mem
    obtain ⟨d, change, rfl⟩ := List.mem_map.mp mem
    exact Step.isLong_ofDelta (fits d change)
  refine replay_eq_ok.mpr ⟨_, whole, short, rfl, ?_⟩
  simpa using (runningTotals_deltasFrom 0 values).symm

/-- What was written is read back as the values it was written for. -/
theorem replay_of_encode {values : List Int} {text : String} (encoded : encode values = .ok text)
    (file : String) : replay text file = .ok values := by
  obtain ⟨fits, rfl⟩ := encode_eq_ok encoded
  exact replay_deltas fits file

/-! ## The round trip -/

/-- Each value less the one before it, the first less zero. -/
def differences (values : List Int) : List Int := List.zipWith (· - ·) values (0 :: values)

theorem deltasFrom_eq_zipWith (previous : Int) (values : List Int) :
    deltasFrom previous values = List.zipWith (· - ·) values (previous :: values) := by
  induction values generalizing previous with
  | nil => rfl
  | cons value values ih => rw [deltasFrom, ih, List.zipWith_cons_cons]

/-- **Writing and reading back.**  Writing values fails exactly when two
neighbours, or zero and the first, lie too far apart for a decimal number;
otherwise it yields a text from which exactly the values are read.  What is written
may be numbers and events mixed, of which an event stands for the value it recorded. -/
theorem encode_round_trip (samples : List (Event ⊕ Int)) (file : String) :
    let values := samples.map (Sum.elim Event.value id)
    (encode samples = .error .writing ↔ ∃ d ∈ differences values, Decimal.bound ≤ d.natAbs) ∧
    ((∀ d ∈ differences values, d.natAbs < Decimal.bound) →
      ∃ text, encode samples = .ok text ∧ replay text file = .ok values) := by
  intro values
  have carried : encode samples = encode values := encode_eq samples
  rw [carried]
  have same : differences values = deltasFrom 0 values := (deltasFrom_eq_zipWith 0 values).symm
  rw [same]
  refine ⟨⟨?_, ?_⟩, ?_⟩
  · intro failed
    by_contra none
    have fits : ∀ d ∈ deltasFrom 0 values, d.natAbs < Decimal.bound := by
      simpa using none
    rw [encode_of_fits fits] at failed
    cases failed
  · rintro ⟨d, mem, exceeds⟩
    rw [encode_values, writeSteps_eq_error mem exceeds]
  · intro fits
    exact ⟨_, encode_of_fits fits, replay_deltas fits file⟩

end DeltaTape.LongForm
