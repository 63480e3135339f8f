/-
# DeltaTape.Proofs.CanonicalForm — one way to write each list of values

Reading takes leading zeros, and a zero step down; writing produces neither.  So
a text that is read and written again comes out without them, in its *canonical
form*.  Two texts stand for the same values exactly when they have the same
canonical form, and the canonical forms that can be read are exactly the texts
that are ever written.

The values of a text may have any number of digits, but the changes between them
are those of its steps, and these are short enough to be written again.

* `Decimal.toDigits_ofDigitChars`: digits without leading zeros are those of the
  number they stand for;
* `Step.ofDelta_change`: the change of a step is written as its canonical form;
* `encode_runningTotals`: the totals of steps that can be read are written as the
  canonical forms of the steps;
* `encode_of_replay`: canonical forms of texts, and what they decide.
-/
import Mathlib
import DeltaTape.Proofs.RoundTrip

namespace DeltaTape

set_option autoImplicit false

/-! ## Digits and the numbers they stand for -/

namespace Decimal

/-- A digit is written for the number it stands for, which is below ten. -/
theorem digitChar_toNat {c : Char} (digit : c.isDigit = true) :
    Nat.digitChar (c.toNat - '0'.toNat) = c ∧ c.toNat - '0'.toNat < 10 := by
  obtain ⟨low, high⟩ := Char.isDigit_iff_toNat.mp digit
  have table : ∀ d < 10, Nat.digitChar d = Char.ofNat (d + '0'.toNat) := by decide
  have small : c.toNat - '0'.toNat < 10 := by
    have span : '9'.toNat = '0'.toNat + 9 := rfl
    omega
  refine ⟨?_, small⟩
  rw [table _ small, Nat.sub_add_cancel low, Char.ofNat_toNat]

theorem ofDigitChars_append_singleton (digits : List Char) (c : Char) :
    Nat.ofDigitChars 10 (digits ++ [c]) 0 =
      10 * Nat.ofDigitChars 10 digits 0 + (c.toNat - '0'.toNat) := by
  rw [Nat.ofDigitChars_append, Nat.ofDigitChars_cons, Nat.ofDigitChars_nil]

/-- Digits stand for less than the first number that has more of them. -/
theorem ofDigitChars_lt {digits : List Char} (all : ∀ c ∈ digits, c.isDigit = true) :
    Nat.ofDigitChars 10 digits 0 < 10 ^ digits.length := by
  induction digits using List.reverseRecOn with
  | nil => decide
  | append_singleton digits c ih =>
      have before := ih fun d mem => all d (List.mem_append_left [c] mem)
      have small := (digitChar_toNat (all c (by simp))).2
      rw [ofDigitChars_append_singleton, List.length_append, List.length_singleton, Nat.pow_succ]
      omega

theorem ofDigitChars_pos {d : Char} (digits : List Char) (digit : d.isDigit = true)
    (leading : d ≠ '0') : 0 < Nat.ofDigitChars 10 (d :: digits) 0 := by
  obtain ⟨same, -⟩ := digitChar_toNat digit
  have nonzero : 0 < d.toNat - '0'.toNat := by
    apply Nat.pos_of_ne_zero
    intro zero
    rw [zero] at same
    exact leading same.symm
  rw [Nat.ofDigitChars_cons, Nat.ofDigitChars_eq_ofDigitChars_zero]
  positivity

/-- Digits that do not begin with a zero are the digits of the number they stand for. -/
theorem toDigits_ofDigitChars {d : Char} {digits : List Char}
    (all : ∀ c ∈ d :: digits, c.isDigit = true) (leading : d ≠ '0') :
    Nat.toDigits 10 (Nat.ofDigitChars 10 (d :: digits) 0) = d :: digits := by
  induction digits using List.reverseRecOn with
  | nil =>
      obtain ⟨same, small⟩ := digitChar_toNat (all d (by simp))
      rw [Nat.ofDigitChars_cons, Nat.ofDigitChars_nil, Nat.mul_zero, Nat.zero_add,
        Nat.toDigits_of_lt_base small, same]
  | append_singleton digits c ih =>
      -- A digit behind a number above zero is one more digit of it.
      rw [← List.cons_append] at all ⊢
      have before := ih fun e mem => all e (List.mem_append_left [c] mem)
      have positive := ofDigitChars_pos digits (all d (by simp)) leading
      obtain ⟨same, small⟩ := digitChar_toNat (all c (by simp))
      rw [ofDigitChars_append_singleton,
        ← Nat.toDigits_append_toDigits (by decide) positive small, before,
        Nat.toDigits_of_lt_base small, same]

/-- Leading zeros add nothing to a number. -/
theorem ofDigitChars_dropZeros (digits : List Char) :
    Nat.ofDigitChars 10 (digits.dropWhile (· = '0')) 0 = Nat.ofDigitChars 10 digits 0 := by
  induction digits with
  | nil => rfl
  | cons d digits ih =>
      by_cases zero : d = '0'
      · rw [List.dropWhile_cons_of_pos (by simp [zero]), ih, zero, Nat.ofDigitChars_cons]
        rfl
      · rw [List.dropWhile_cons_of_neg (by simp [zero])]

end Decimal

namespace LongForm

/-! ## Canonical steps -/

namespace Step

/-- A step without superfluous leading zeros; one that changes nothing goes up. -/
def canonical (s : Step) : Step :=
  match s.digits.dropWhile (· = '0') with
  | [] => ⟨['0'], .up⟩
  | digits => ⟨digits, s.sign⟩

/-- A whole step that has no superfluous leading zero and is not a zero step down. -/
structure IsCanonical (s : Step) : Prop extends Whole s where
  unpadded : ∀ more, s.digits = '0' :: more → more = []
  up_of_zero : s.digits = ['0'] → s.sign = .up

/-- Without its leading zeros a whole step has no digits left, or digits that
begin with another one. -/
theorem Whole.dropZeros {s : Step} (whole : s.Whole) :
    s.digits.dropWhile (· = '0') = [] ∨
      ∃ d digits, s.digits.dropWhile (· = '0') = d :: digits ∧ d ≠ '0' ∧
        ∀ c ∈ d :: digits, c.isDigit = true := by
  cases kept : s.digits.dropWhile (· = '0') with
  | nil => exact Or.inl rfl
  | cons d digits =>
      refine Or.inr ⟨d, digits, rfl, ?_, ?_⟩
      · have := List.head?_dropWhile_not (· = '0') s.digits
        simpa [kept] using this
      · intro c mem
        rw [← kept] at mem
        exact whole.digits c ((List.dropWhile_suffix _).subset mem)

/-- The change of a step is written as its canonical form. -/
theorem ofDelta_change {s : Step} (whole : s.Whole) : ofDelta s.change = s.canonical := by
  have number := Decimal.ofDigitChars_dropZeros s.digits
  rw [change, canonical, ← number]
  rcases whole.dropZeros with none | ⟨d, digits, kept, leading, all⟩
  · rw [none]
    cases s.sign <;> rfl
  · have positive := Decimal.ofDigitChars_pos digits (all d (by simp)) leading
    have same := Decimal.toDigits_ofDigitChars all leading
    rw [kept, ofDelta]
    generalize Nat.ofDigitChars 10 (d :: digits) 0 = n at positive same
    cases s.sign with
    | up => simp [Sign.apply, same, Int.not_lt.mpr (Int.natCast_nonneg n)]
    | down => simp [Sign.apply, same, positive]

/-- A whole step is its own canonical form exactly when it is canonical. -/
theorem canonical_eq_self {s : Step} (whole : s.Whole) : s.canonical = s ↔ s.IsCanonical := by
  obtain ⟨digits, sign⟩ := s
  rw [canonical]
  constructor
  · intro same
    rcases whole.dropZeros with none | ⟨d, kept, dropped, leading, -⟩
    · simp only [none, Step.mk.injEq] at same
      obtain ⟨rfl, rfl⟩ := same
      exact ⟨whole, fun more padded => (List.cons.inj padded).2.symm, fun _ => rfl⟩
    · simp only [dropped, Step.mk.injEq, and_true] at same
      subst same
      refine ⟨whole, ?_, ?_⟩
      · intro more padded
        exact absurd (List.cons.inj padded).1 leading
      · intro zero
        exact absurd (List.cons.inj zero).1 leading
  · intro canonical
    obtain ⟨d, more, rfl⟩ := List.exists_cons_of_ne_nil whole.nonempty
    by_cases zero : d = '0'
    · subst zero
      obtain rfl := canonical.unpadded more rfl
      obtain rfl : sign = .up := canonical.up_of_zero rfl
      rfl
    · simp [zero]

theorem Whole.canonical {s : Step} (whole : s.Whole) : s.canonical.Whole := by
  rw [← ofDelta_change whole]
  exact whole_ofDelta s.change

theorem isCanonical_ofDelta (delta : Int) : (ofDelta delta).IsCanonical := by
  have whole := whole_ofDelta delta
  rw [← canonical_eq_self whole, ← ofDelta_change whole, change_ofDelta]

/-- A step that can be read stands for a change that can be written. -/
theorem natAbs_change_lt {s : Step} (whole : s.Whole) (short : s.isLong = false) :
    s.change.natAbs < Decimal.bound := by
  have fits : s.digits.length ≤ Decimal.maxDigits := by simpa [isLong] using short
  -- Written again, the number has no more digits than were read.
  have some_digit := List.length_pos_iff.mpr whole.nonempty
  have shorter := (Decimal.length_toDigits_le_iff_pow some_digit).mpr
    (Decimal.ofDigitChars_lt whole.digits)
  rw [natAbs_change]
  exact Decimal.length_toDigits_le.mp (shorter.trans fits)

end Step

/-! ## Canonical texts -/

/-- A text with each of its steps in canonical form. -/
def canon (text : String) : String := written ((Step.scan text).1.map Step.canonical)

/-- A text of canonical steps. -/
def IsCanonical (text : String) : Prop :=
  ∃ steps, text = written steps ∧ ∀ s ∈ steps, s.IsCanonical

theorem canon_written {steps : List Step} (whole : ∀ s ∈ steps, s.Whole) :
    canon (written steps) = written (steps.map Step.canonical) := by
  rw [canon, scan_written whole]

theorem isCanonical_written {steps : List Step} (whole : ∀ s ∈ steps, s.Whole) :
    IsCanonical (written steps) ↔ ∀ s ∈ steps, s.IsCanonical := by
  constructor
  · rintro ⟨steps', same, all⟩
    obtain rfl := (written_inj whole fun s mem => (all s mem).toWhole).mp same
    exact all
  · intro all
    exact ⟨steps, rfl, all⟩

theorem map_canonical_eq_self {steps : List Step} (whole : ∀ s ∈ steps, s.Whole) :
    steps.map Step.canonical = steps ↔ ∀ s ∈ steps, s.IsCanonical := by
  have pointwise : steps.map Step.canonical = steps.map id ↔ ∀ s ∈ steps, s.canonical = s :=
    List.map_inj_left
  rw [List.map_id] at pointwise
  rw [pointwise]
  exact forall₂_congr fun s mem => Step.canonical_eq_self (whole s mem)

/-- The text of whole steps is its own canonical form exactly when it is canonical. -/
theorem canon_eq_self {steps : List Step} (whole : ∀ s ∈ steps, s.Whole) :
    canon (written steps) = written steps ↔ IsCanonical (written steps) := by
  have canonical : ∀ s ∈ steps.map Step.canonical, s.Whole := by
    intro s mem
    obtain ⟨s', member, rfl⟩ := List.mem_map.mp mem
    exact (whole s' member).canonical
  rw [canon_written whole, written_inj canonical whole, map_canonical_eq_self whole,
    isCanonical_written whole]

/-- The changes between the totals of steps are the changes of the steps. -/
theorem deltasFrom_runningTotals (total : Int) (steps : List Step) :
    deltasFrom total ((Step.runningTotals steps).map (total + ·)) = steps.map Step.change := by
  induction steps generalizing total with
  | nil => rfl
  | cons s steps ih =>
      have later := ih (total + s.change)
      rw [Step.runningTotals_cons, List.map_cons, deltasFrom, List.map_cons, ← later, List.map_map]
      congr 1
      · omega
      · congr 2
        funext v
        simp only [Function.comp_apply]
        omega

/-- The totals of steps that can be read are written as the steps' canonical forms. -/
theorem encode_runningTotals {steps : List Step} (whole : ∀ s ∈ steps, s.Whole)
    (short : ∀ s ∈ steps, s.isLong = false) :
    encode (Step.runningTotals steps) = .ok (written (steps.map Step.canonical)) := by
  have deltas : deltasFrom 0 (Step.runningTotals steps) = steps.map Step.change := by
    simpa using deltasFrom_runningTotals 0 steps
  have fits : ∀ d ∈ steps.map Step.change, d.natAbs < Decimal.bound := by
    intro d mem
    obtain ⟨s, member, rfl⟩ := List.mem_map.mp mem
    exact Step.natAbs_change_lt (whole s member) (short s member)
  have forms : (steps.map Step.change).map Step.ofDelta = steps.map Step.canonical := by
    rw [List.map_map]
    exact List.map_congr_left fun s mem => Step.ofDelta_change (whole s mem)
  rw [encode_values, deltas, writeSteps_eq_ok fits, forms, written]

theorem encode_eq_canon {text file : String} {values : List Int}
    (replayed : replay text file = .ok values) : encode values = .ok (canon text) := by
  obtain ⟨steps, whole, short, rfl, rfl⟩ := replay_eq_ok.mp replayed
  rw [encode_runningTotals whole short, canon_written whole]

/-- What is written is made of canonical steps that can be read, and every such
text is written for some values. -/
theorem exists_encode {text : String} :
    (∃ values, encode values = .ok text) ↔
      ∃ steps, text = written steps ∧
        ∀ s ∈ steps, s.IsCanonical ∧ s.digits.length ≤ Decimal.maxDigits := by
  constructor
  · rintro ⟨values, encoded⟩
    obtain ⟨fits, rfl⟩ := encode_eq_ok encoded
    refine ⟨(deltasFrom 0 values).map Step.ofDelta, rfl, ?_⟩
    intro s mem
    obtain ⟨d, change, rfl⟩ := List.mem_map.mp mem
    exact ⟨Step.isCanonical_ofDelta d, Decimal.length_toDigits_le.mpr (fits d change)⟩
  · rintro ⟨steps, rfl, all⟩
    have whole : ∀ s ∈ steps, s.Whole := fun s mem => (all s mem).1.toWhole
    have short : ∀ s ∈ steps, s.isLong = false :=
      fun s mem => decide_eq_false (Nat.not_lt.mpr (all s mem).2)
    have canonical : steps.map Step.canonical = steps :=
      (map_canonical_eq_self whole).mpr fun s mem => (all s mem).1
    refine ⟨Step.runningTotals steps, ?_⟩
    rw [encode_runningTotals whole short, canonical]

/-- **Reading and writing again.**  A text that is read is a run of whole steps,
and is written again with each step in canonical form, so it comes back unchanged
exactly when it is canonical.  The texts that are ever written are the canonical
ones whose steps can be read, and texts stand for the same values exactly when
their canonical forms agree. -/
theorem encode_of_replay :
    (∀ text file values, replay text file = .ok values →
      (∃ steps, (∀ s ∈ steps, s.Whole) ∧ text = written steps ∧
        canon text = written (steps.map Step.canonical)) ∧
      encode values = .ok (canon text) ∧
      (encode values = .ok text ↔ IsCanonical text)) ∧
    (∀ text, (∃ values, encode values = .ok text) ↔
      ∃ steps, text = written steps ∧
        ∀ s ∈ steps, s.IsCanonical ∧ s.digits.length ≤ Decimal.maxDigits) ∧
    ∀ text file values text' file' values',
      replay text file = .ok values → replay text' file' = .ok values' →
        (values = values' ↔ canon text = canon text') := by
  refine ⟨?_, fun text => exists_encode, ?_⟩
  · intro text file values replayed
    have encoded := encode_eq_canon replayed
    obtain ⟨steps, whole, -, rfl, -⟩ := replay_eq_ok.mp replayed
    refine ⟨⟨steps, whole, rfl, canon_written whole⟩, encoded, ?_⟩
    rw [encoded, Except.ok.injEq]
    exact canon_eq_self whole
  · intro text file values text' file' values' replayed replayed'
    have encoded := encode_eq_canon replayed
    have encoded' := encode_eq_canon replayed'
    constructor
    · rintro rfl
      rw [encoded] at encoded'
      exact Except.ok.inj encoded'
    · intro same
      rw [same] at encoded
      have back := replay_of_encode encoded file
      rw [replay_of_encode encoded' file] at back
      exact (Except.ok.inj back).symm

/-- Zeros that lead and a zero that goes down are read, and not written again. -/
theorem encode_of_replay_padded :
    replay "007+00-12-" "padded" = .ok [7, 7, -5] ∧
      encode [7, 7, -5] = .ok "7+0+12-" ∧ ¬ IsCanonical "007+00-12-" := by
  have replayed : replay "007+00-12-" "padded" = .ok [7, 7, -5] := by decide +kernel
  have canonical : canon "007+00-12-" = "7+0+12-" := by decide +kernel
  obtain ⟨-, encoded, unchanged⟩ := encode_of_replay.1 _ _ _ replayed
  rw [canonical] at encoded
  refine ⟨replayed, encoded, ?_⟩
  rw [← unchanged, encoded]
  decide

end LongForm

end DeltaTape
