/-
# DeltaTape.Proofs.ViableText — how far a refused text could still have become long form

A refused text is refused where its bad step begins.  The first character that no long form
has at its place may stand further right: digits are nothing bad by themselves, since more
digits and a sign could follow them.  Up to the end of these digits the text is viable, and
one character further it is not, whatever comes behind.

* `exists_complaint`: what a refusal is about and where it is placed;
* `viable_digits` and `not_viable`: whole steps and digits are viable, and nothing else;
* `Complaint.shorten`: cut off behind its first bad character, a text is refused alike;
* `isGreatest_viable`: so how far a refused text is viable;
* `column_of_refusal`: the column of a refusal, and when it is that of the first bad
  character.
-/
import Mathlib
import DeltaTape.Proofs.StepGrammar

namespace DeltaTape.LongForm

set_option autoImplicit false

/-- A text of whole steps and nothing else. -/
def Grammatical (text : List Char) : Prop :=
  ∃ steps : List Step, (∀ s ∈ steps, s.Whole) ∧ text = steps.flatMap Step.text

/-- A text that becomes one of whole steps when the right thing is put behind it. -/
def Viable (text : List Char) : Prop := ∃ more, Grammatical (text ++ more)

/-! ## Refusals -/

theorem Complaint.ne_nil {rest : List Char} {message : String}
    (complaint : Complaint rest message) : rest ≠ [] := by
  cases complaint with
  | missing nonempty all => exact nonempty
  | expected nonempty all maximal unsigned => simp
  | unexpected nondigit => simp

/-- A refusal is a complaint about what follows the longest beginning of whole steps, placed
where that ends. -/
theorem exists_complaint {text file : String} {d : Diagnostic}
    (refused : replay text file = .error (.malformed d)) :
    ∃ steps rest, Longest text.toList steps rest ∧ Complaint rest d.message ∧
      d.place = some ⟨file, 1, (Step.width steps + 1 : Nat)⟩ := by
  obtain ⟨steps, rest, longest⟩ := exists_longest text.toList
  have stuck := (longest_iff longest.cut longest.whole).mp longest
  have scanned : Step.scan text = (steps, (Step.scanFrom [] rest).2) := by
    rw [Step.scan, longest.cut, Step.scanFrom_steps longest.whole, scanFrom_rest stuck,
      List.append_nil]
  rw [replay, scanned] at refused
  refine ⟨steps, rest, longest, ?_⟩
  rcases stuck with rfl | ⟨message, complaint⟩
  · dsimp only [Step.scanFrom] at refused
    split at refused <;> cases refused
  · obtain ⟨bad, stopped, rfl⟩ := complaint.scanFrom
    rw [stopped] at refused
    dsimp only at refused
    split at refused
    · cases refused
    · cases refused
      exact ⟨complaint, rfl⟩

/-- The column of a bad step is the one its diagnostic was made with. -/
theorem BadStep.column_eq {bad : BadStep} {file file' : String} {column column' : Nat}
    (placed : (bad.diagnostic file column).place = some ⟨file', 1, column'⟩) :
    column = column' := by
  simp only [BadStep.diagnostic, Option.some.injEq, Place.mk.injEq] at placed
  omega

/-! ## Viable texts -/

/-- Whole steps and digits behind them are viable: another digit and a sign make them whole. -/
theorem viable_digits {steps : List Step} (whole : ∀ s ∈ steps, s.Whole) {digits : List Char}
    (all : ∀ c ∈ digits, c.isDigit = true) : Viable (steps.flatMap Step.text ++ digits) := by
  have last : Step.Whole ⟨digits ++ ['0'], .up⟩ := by
    refine ⟨by simp, ?_⟩
    intro c mem
    rcases List.mem_append.mp mem with digit | zero
    · exact all c digit
    · rw [List.mem_singleton.mp zero]
      rfl
  refine ⟨['0', '+'], steps ++ [⟨digits ++ ['0'], .up⟩], ?_, by simp [Step.text, Sign.symbol]⟩
  simpa [or_imp, forall_and] using ⟨whole, last⟩

/-- A text that can be complained about behind its whole steps is not made of whole steps. -/
theorem not_grammatical {steps : List Step} (whole : ∀ s ∈ steps, s.Whole) {rest : List Char}
    {message : String} (complaint : Complaint rest message) :
    ¬ Grammatical (steps.flatMap Step.text ++ rest) := by
  rintro ⟨steps', whole', same⟩
  -- One text cannot be scanned both to its end and to a bad step.
  obtain ⟨bad, stopped, -⟩ := complaint.scanFrom
  have scanned := Step.scanFrom_steps whole rest
  have scanned' := Step.scanFrom_steps whole' []
  rw [List.append_nil, ← same, scanned, stopped] at scanned'
  have verdict := congrArg Prod.snd scanned'
  simp [Step.scanFrom] at verdict

/-- Once a character is bad, nothing behind it changes the complaint. -/
theorem Complaint.append {rest : List Char} {message : String} (complaint : Complaint rest message)
    (broken : ∃ c ∈ rest, c.isDigit = false) (more : List Char) :
    Complaint (rest ++ more) message := by
  cases complaint with
  | missing nonempty all =>
      obtain ⟨c, mem, nondigit⟩ := broken
      rw [all c mem] at nondigit
      cases nondigit
  | expected nonempty all maximal unsigned =>
      rw [List.append_assoc, List.cons_append]
      exact .expected nonempty all maximal unsigned
  | unexpected nondigit => exact .unexpected nondigit

/-- So a text with a bad character is not viable. -/
theorem not_viable {steps : List Step} (whole : ∀ s ∈ steps, s.Whole) {rest : List Char}
    {message : String} (complaint : Complaint rest message)
    (broken : ∃ c ∈ rest, c.isDigit = false) : ¬ Viable (steps.flatMap Step.text ++ rest) := by
  rintro ⟨more, grammatical⟩
  rw [List.append_assoc] at grammatical
  exact not_grammatical whole (complaint.append broken more) grammatical

/-- The digits at the front of a text that can be complained about. -/
def leadingDigits (rest : List Char) : List Char := rest.takeWhile Char.isDigit

theorem leadingDigits_of_digits {digits : List Char} (all : ∀ c ∈ digits, c.isDigit = true) :
    leadingDigits digits = digits := List.takeWhile_eq_self_iff.mpr all

theorem leadingDigits_append {digits more : List Char} {c : Char}
    (all : ∀ c ∈ digits, c.isDigit = true) (maximal : c.isDigit = false) :
    leadingDigits (digits ++ c :: more) = digits := by
  rw [leadingDigits, List.takeWhile_append_of_pos all,
    List.takeWhile_cons_of_neg (by simp [maximal]), List.append_nil]

/-- Cut off anywhere behind its first bad character, a text is refused alike. -/
theorem Complaint.shorten {rest : List Char} {message : String}
    (complaint : Complaint rest message) {n : Nat} (beyond : (leadingDigits rest).length < n)
    (within : n ≤ rest.length) :
    Complaint (rest.take n) message ∧ ∃ c ∈ rest.take n, c.isDigit = false := by
  cases complaint with
  | missing nonempty all =>
      rw [leadingDigits_of_digits all] at beyond
      omega
  | @expected digits more c nonempty all maximal unsigned =>
      rw [leadingDigits_append all maximal] at beyond
      obtain ⟨k, rfl⟩ := Nat.exists_eq_add_of_lt beyond
      rw [Nat.add_assoc, List.take_length_add_append, List.take_succ_cons]
      exact ⟨.expected nonempty all maximal unsigned, c, by simp, maximal⟩
  | @unexpected more c nondigit =>
      obtain ⟨k, rfl⟩ := Nat.exists_eq_add_of_lt (Nat.zero_lt_of_lt beyond)
      rw [Nat.zero_add, List.take_succ_cons]
      exact ⟨.unexpected nondigit, c, by simp, nondigit⟩

/-- A refused text is viable up to the end of the digits of its bad step, and no further. -/
theorem isGreatest_viable {text : List Char} {steps : List Step} {rest : List Char}
    {message : String} (cut : text = steps.flatMap Step.text ++ rest)
    (whole : ∀ s ∈ steps, s.Whole) (complaint : Complaint rest message) :
    IsGreatest {n | n ≤ text.length ∧ Viable (text.take n)}
      (Step.width steps + (leadingDigits rest).length) := by
  have split : leadingDigits rest ++ rest.dropWhile Char.isDigit = rest :=
    List.takeWhile_append_dropWhile
  have digits : rest.take (leadingDigits rest).length = leadingDigits rest := by
    calc rest.take (leadingDigits rest).length
        = (leadingDigits rest ++ rest.dropWhile Char.isDigit).take (leadingDigits rest).length := by
          rw [split]
      _ = leadingDigits rest := List.take_left
  have longer : (leadingDigits rest).length ≤ rest.length :=
    (List.takeWhile_sublist Char.isDigit).length_le
  have length : text.length = Step.width steps + rest.length := by
    rw [cut, List.length_append, Step.width]
  have taken : ∀ k, text.take (Step.width steps + k) = steps.flatMap Step.text ++ rest.take k := by
    intro k
    rw [cut, Step.width, List.take_length_add_append]
  constructor
  · refine ⟨by omega, ?_⟩
    rw [taken, digits]
    exact viable_digits whole fun c mem => List.mem_takeWhile_imp mem
  · rintro n ⟨within, viable⟩
    by_contra beyond
    -- What is longer has the first bad character in it, whether or not it goes on behind it.
    obtain ⟨k, rfl⟩ : ∃ k, n = Step.width steps + k := ⟨n - Step.width steps, by omega⟩
    obtain ⟨shorter, broken⟩ := complaint.shorten (n := k) (by omega) (by omega)
    rw [taken] at viable
    exact not_viable whole shorter broken viable

/-- **The column of a refusal.**  A refused text is placed at the column where its bad step
begins.  From there it is viable for as many characters as the step has digits; the character
behind them is the first bad one.  So the column is that of the first bad character exactly
when there is no digit at it. -/
theorem column_of_refusal {text file : String} {d : Diagnostic}
    (refused : replay text file = .error (.malformed d)) :
    ∃ (start : Nat) (c : Char), d.place = some ⟨file, 1, (start + 1 : Nat)⟩ ∧
      text.toList[start]? = some c ∧
      IsGreatest {n | n ≤ text.length ∧ Viable (text.toList.take n)}
        (start + (leadingDigits (text.toList.drop start)).length) ∧
      (IsGreatest {n | n ≤ text.length ∧ Viable (text.toList.take n)} start ↔
        c.isDigit = false) := by
  obtain ⟨steps, rest, longest, complaint, place⟩ := exists_complaint refused
  have greatest := isGreatest_viable longest.cut longest.whole complaint
  have behind : text.toList.drop (Step.width steps) = rest := by
    rw [longest.cut, Step.width, List.drop_left]
  obtain ⟨c, more, rfl⟩ := List.exists_cons_of_ne_nil complaint.ne_nil
  have stands : text.toList[Step.width steps]? = some c := by
    rw [← List.head?_drop, behind, List.head?_cons]
  rw [String.length_toList] at greatest
  refine ⟨Step.width steps, c, place, stands, by rw [behind]; exact greatest, ?_⟩
  constructor
  · intro here
    have none : (leadingDigits (c :: more)).length = 0 := by
      have := here.unique greatest
      omega
    by_contra digit
    rw [leadingDigits, List.takeWhile_cons_of_pos (by simpa using digit)] at none
    cases none
  · intro nondigit
    rw [leadingDigits, List.takeWhile_cons_of_neg (by simp [nondigit])] at greatest
    exact greatest

/-- Behind a whole step, two digits that no sign follows: the text is refused at the first of
them, and it is viable up to the last. -/
theorem column_of_refusal_unsigned :
    ∃ d, replay "1+22*" "f" = .error (.malformed d) ∧ d.place = some ⟨"f", 1, 3⟩ ∧
      IsGreatest {n | n ≤ "1+22*".length ∧ Viable ("1+22*".toList.take n)} 4 := by
  have refused : replay "1+22*" "f" =
      .error (.malformed ((BadStep.unsigned ['2', '2']).diagnostic "f" 3)) := by decide +kernel
  obtain ⟨start, c, place, -, greatest, -⟩ := column_of_refusal refused
  obtain rfl : start = 2 := (Nat.succ.inj (BadStep.column_eq place)).symm
  exact ⟨_, refused, rfl, greatest⟩

/-- It is not so that the column of a refusal is always that of the first bad character. -/
theorem column_of_refusal_early :
    ¬ ∀ (text file : String) (d : Diagnostic), replay text file = .error (.malformed d) →
      ∃ n : Nat, IsGreatest {n | n ≤ text.length ∧ Viable (text.toList.take n)} n ∧
        d.place = some ⟨file, 1, (n + 1 : Nat)⟩ := by
  intro exact
  have refused : replay "3*" "f" =
      .error (.malformed ((BadStep.unsigned ['3']).diagnostic "f" 1)) := by decide +kernel
  obtain ⟨n, greatest, place⟩ := exact _ _ _ refused
  obtain rfl : n = 0 := (Nat.succ.inj (BadStep.column_eq place)).symm
  have front : "3*".toList.take 1 = [].flatMap Step.text ++ ['3'] := by decide +kernel
  have viable : Viable ("3*".toList.take 1) := by
    rw [front]
    exact viable_digits (by simp) (by simp)
  have more : 1 ≤ 0 := greatest.2 ⟨by decide +kernel, viable⟩
  omega

end DeltaTape.LongForm
