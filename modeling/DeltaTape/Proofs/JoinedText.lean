/-
# DeltaTape.Proofs.JoinedText — two long forms, one behind the other

Steps need no separator, since a sign ends each of them.  So nothing of a text that is
accepted runs over into what is put behind it, and reading goes on there as it would
have begun, only from the last value instead of zero and further to the right: values
are raised by that value, a complaint is moved by the length of the text, and a step with
too many digits is reported as it is.  Writing is cut in two in the same way.

* `Step.totalsFrom_append` and `Step.totalsFrom_shift`: running totals of two runs of
  steps, and from another start;
* `replay_append`: reading behind an accepted text, as one equation;
* `encode_append`: writing behind values that have been written;
* `replay_of_joined`: both, case by case.
-/
import Mathlib
import DeltaTape.Proofs.RoundTrip

namespace DeltaTape.LongForm

set_option autoImplicit false

/-! ## Running totals of two runs of steps -/

namespace Step

/-- The totals of the later steps go on from the last total of the earlier ones. -/
theorem totalsFrom_append (total : Int) (steps later : List Step) :
    totalsFrom total (steps ++ later) =
      (totalsFrom total steps).bind fun values =>
        (totalsFrom (values.getLastD total) later).map (values ++ ·) := by
  induction steps generalizing total with
  | nil =>
      show totalsFrom total later = (totalsFrom total later).map ([] ++ ·)
      cases totalsFrom total later <;> rfl
  | cons s steps ih =>
      rw [List.cons_append, totalsFrom, totalsFrom]
      cases s.amount with
      | error limit => rfl
      | ok amount =>
          simp only [bind, Except.bind, ih]
          cases totalsFrom (total + amount) steps with
          | error limit => rfl
          | ok values =>
              simp only [pure, Except.pure, List.getLastD_cons]
              cases totalsFrom (values.getLastD (total + amount)) later <;> rfl

/-- From a start that is higher, all totals are higher. -/
theorem totalsFrom_shift (total raise : Int) (steps : List Step) :
    totalsFrom (total + raise) steps =
      (totalsFrom total steps).map fun values => values.map (· + raise) := by
  induction steps generalizing total with
  | nil => rfl
  | cons s steps ih =>
      rw [totalsFrom, totalsFrom]
      cases s.amount with
      | error limit => rfl
      | ok amount =>
          have raised : total + raise + amount = total + amount + raise := by omega
          simp only [bind, Except.bind, raised, ih]
          cases totalsFrom (total + amount) steps <;> rfl

end Step

/-! ## Reading -/

/-- What is wrong with a text, in a text that has `before` more characters in front. -/
def ReadError.moved (before : Nat) : ReadError → ReadError
  | tooLong limit => tooLong limit
  | malformed d =>
      malformed { d with place := d.place.map fun p => { p with column := p.column + before } }

/-- No step lies across the end of an accepted text. -/
theorem scan_append {steps : List Step} (whole : ∀ s ∈ steps, s.Whole) (text : String) :
    Step.scan (written steps ++ text) = (steps ++ (Step.scan text).1, (Step.scan text).2) := by
  rw [Step.scan, String.toList_append, written, String.toList_ofList, Step.scanFrom_steps whole]
  rfl

/-- Behind an accepted text the values of another are raised by the last value before
them, and what is wrong with it is moved. -/
theorem replay_append {a file : String} {values : List Int}
    (accepted : replay a file = .ok values) (b : String) :
    replay (a ++ b) file =
      ((replay b file).map fun vs => values ++ vs.map (· + values.getLastD 0)).mapError
        (ReadError.moved a.length) := by
  obtain ⟨steps, whole, short, rfl, rfl⟩ := replay_eq_ok.mp accepted
  have width : (written steps).length = Step.width steps := by
    rw [written, String.length_ofList, Step.width]
  have before : Step.totalsFrom 0 steps = .ok (Step.runningTotals steps) := by
    simpa using Step.totalsFrom_short short 0
  have joined := Step.totalsFrom_append 0 steps (Step.scan b).1
  have raised := Step.totalsFrom_shift 0 ((Step.runningTotals steps).getLastD 0) (Step.scan b).1
  rw [Int.zero_add] at raised
  rw [before] at joined
  simp only [Except.bind, raised] at joined
  rw [replay, replay, scan_append whole]
  simp only [joined]
  cases Step.totalsFrom 0 (Step.scan b).1 with
  | error limit => rfl
  | ok vs =>
      cases (Step.scan b).2 with
      | none => rfl
      | some bad =>
          simp only [Except.map, Except.mapError, ReadError.moved, BadStep.diagnostic, width,
            Step.width_append, Option.map_some, Except.error.injEq, ReadError.malformed.injEq]
          congr 3
          push_cast
          omega

/-- A complaint about a text has its place on the first line. -/
theorem place_of_malformed {text file : String} {d : Diagnostic}
    (refused : replay text file = .error (.malformed d)) :
    ∃ column, d.place = some ⟨file, 1, column⟩ := by
  rw [replay] at refused
  dsimp only at refused
  split at refused
  · cases refused
  · split at refused
    · cases refused
      exact ⟨_, rfl⟩
    · cases refused

/-! ## Writing -/

theorem deltasFrom_append (previous : Int) (xs ys : List Int) :
    deltasFrom previous (xs ++ ys) =
      deltasFrom previous xs ++ deltasFrom (xs.getLastD previous) ys := by
  induction xs generalizing previous with
  | nil => rfl
  | cons x xs ih => rw [List.cons_append, deltasFrom, deltasFrom, ih, List.getLastD_cons]; rfl

/-- Values that are all lowered alike have the same changes between them. -/
theorem deltasFrom_lowered (previous lower : Int) (values : List Int) :
    deltasFrom (previous - lower) (values.map (· - lower)) = deltasFrom previous values := by
  induction values generalizing previous with
  | nil => rfl
  | cons value values ih =>
      rw [List.map_cons, deltasFrom, deltasFrom, ih]
      congr 1
      omega

theorem writeSteps_append (deltas later : List Int) :
    writeSteps (deltas ++ later) =
      (writeSteps deltas).bind fun text => (writeSteps later).map (text ++ ·) := by
  induction deltas with
  | nil =>
      show writeSteps later = (writeSteps later).map ("" ++ ·)
      cases writeSteps later with
      | error limit => rfl
      | ok text => simp [Except.map]
  | cons delta deltas ih =>
      rw [List.cons_append, writeSteps, writeSteps, ih]
      cases writeStep delta with
      | error limit => rfl
      | ok step =>
          cases writeSteps deltas with
          | error limit => rfl
          | ok steps =>
              cases writeSteps later with
              | error limit => rfl
              | ok text =>
                  simp [bind, Except.bind, pure, Except.pure, Except.map, String.append_assoc]

/-- Behind values that have been written come others as they would be written by
themselves, were the last value before them zero. -/
theorem encode_append {xs : List Int} {text : String} (encoded : encode xs = .ok text)
    (ys : List Int) :
    encode (xs ++ ys) = (encode (ys.map (· - xs.getLastD 0))).map (text ++ ·) := by
  have lowered := deltasFrom_lowered (xs.getLastD 0) (xs.getLastD 0) ys
  rw [Int.sub_self] at lowered
  rw [encode_values] at encoded
  rw [encode_values, encode_values, deltasFrom_append, writeSteps_append, encoded, lowered]
  rfl

/-! ## Joined texts -/

/-- **Texts and values, one behind the other.**  Let `a` be accepted, with its last value
as the new zero, or zero itself where there is none.  If `b` is accepted, so are both
together, with the values of `a` and then those of `b` above the new zero.  A complaint
about `b` is made about both together in the same words, as many columns further right as
`a` is long, and a step of `b` with too many digits is reported in the same way.
Conversely, behind values that have been written others are written as they would be by
themselves below the new zero, and where that fails so do both together. -/
theorem replay_of_joined (file : String) :
    (∀ a b values, replay a file = .ok values →
      (∀ vs, replay b file = .ok vs →
        replay (a ++ b) file = .ok (values ++ vs.map (· + values.getLastD 0))) ∧
      (∀ d, replay b file = .error (.malformed d) →
        ∃ column, d.place = some ⟨file, 1, column⟩ ∧
          replay (a ++ b) file =
            .error (.malformed { d with place := some ⟨file, 1, column + a.length⟩ })) ∧
      ∀ limit, replay b file = .error (.tooLong limit) →
        replay (a ++ b) file = .error (.tooLong limit)) ∧
    ∀ xs ys text, encode xs = .ok text →
      encode (xs ++ ys) = (encode (ys.map (· - xs.getLastD 0))).map (text ++ ·) := by
  refine ⟨?_, fun xs ys text encoded => encode_append encoded ys⟩
  intro a b values accepted
  have joined := replay_append accepted b
  refine ⟨?_, ?_, ?_⟩
  · intro vs behind
    rw [joined, behind]
    rfl
  · intro d refused
    obtain ⟨column, place⟩ := place_of_malformed refused
    refine ⟨column, place, ?_⟩
    rw [joined, refused]
    simp only [Except.map, Except.mapError, ReadError.moved, place, Option.map_some]
  · intro limit long
    rw [joined, long]
    rfl

/-- An accepted text before one that is accepted, before digits without a sign, and
values before others. -/
theorem replay_of_joined_seam :
    replay "3+4-" "f" = .ok [3, -1] ∧ replay "3+4-02+" "f" = .ok [3, -1, 1] ∧
      (∃ d, replay "2+0" "f" = .error (.malformed d) ∧ d.place = some ⟨"f", 1, 3⟩ ∧
        replay "3+4-2+0" "f" = .error (.malformed { d with place := some ⟨"f", 1, 7⟩ })) ∧
      encode [3, -1] = .ok "3+4-" ∧ encode [3, -1, 1, 0] = .ok "3+4-2+1-" := by
  have accepted : replay "3+4-" "f" = .ok [3, -1] := by decide +kernel
  have behind : replay "02+" "f" = .ok [2] := by decide +kernel
  have refused : replay "2+0" "f" =
      .error (.malformed ((BadStep.unended ['0']).diagnostic "f" 3)) := by decide +kernel
  have written : encode [3, -1] = .ok "3+4-" := by decide +kernel
  have lowered : encode ([1, 0].map (· - [3, -1].getLastD 0)) = .ok "2+1-" := by decide +kernel
  obtain ⟨raised, -, -⟩ := (replay_of_joined "f").1 _ "02+" _ accepted
  obtain ⟨-, moved, -⟩ := (replay_of_joined "f").1 _ "2+0" _ accepted
  have joined := (replay_of_joined "f").2 _ [1, 0] _ written
  obtain ⟨column, here, complaint⟩ := moved _ refused
  cases here
  rw [lowered] at joined
  exact ⟨accepted, raised _ behind, ⟨_, refused, rfl, complaint⟩, written, joined⟩

end DeltaTape.LongForm
