/-
# DeltaTape.Proofs.StepGrammar — which texts are long form, and what is said of the others

Long form is a run of whole steps: one or more digits, then a sign.  Every text
has a longest beginning of that kind (`Longest`).  What comes after it is empty,
or goes wrong at its first character in one of three ways, each with its own
wording (`Complaint`).

Reading takes the steps of the longest beginning in order.  The first with too
many digits is reported, whatever comes after it; then whatever comes after the
steps; and without either the values are the running totals.

* `Step.scanFrom_steps`: whole steps are cut off one by one, whatever follows;
* `longest_iff`: a beginning is the longest exactly when nothing follows it, or
  something that can be complained about;
* `replay_by_longest`: the outcome of reading any text;
* `replay_eq_ok`: the texts that are accepted, and their values.
-/
import Mathlib
import DeltaTape.LongForm

namespace DeltaTape.LongForm

set_option autoImplicit false

/-! ## Whole steps -/

namespace Sign

theorem isDigit_symbol (sign : Sign) : sign.symbol.isDigit = false := by
  cases sign <;> rfl

theorem ofSymbol?_symbol (sign : Sign) : ofSymbol? sign.symbol = some sign := by
  cases sign <;> rfl

theorem ofSymbol?_eq_none {c : Char} : ofSymbol? c = none ↔ c ≠ '+' ∧ c ≠ '-' := by
  unfold ofSymbol?
  split
  · simp_all
  · split <;> simp_all

end Sign

namespace Step

/-- A step of the grammar: one or more digits, then a sign. -/
structure Whole (s : Step) : Prop where
  nonempty : s.digits ≠ []
  digits : ∀ c ∈ s.digits, c.isDigit = true

theorem scanFrom_digits {digits : List Char} (all : ∀ c ∈ digits, c.isDigit = true)
    (held unread : List Char) :
    scanFrom held (digits ++ unread) = scanFrom (digits.reverse ++ held) unread := by
  induction digits generalizing held with
  | nil => rfl
  | cons d digits ih =>
      rw [List.cons_append, scanFrom, if_pos (all d (by simp)),
        ih (fun c mem => all c (List.mem_cons_of_mem d mem))]
      simp

/-- A whole step is cut off, whatever follows. -/
theorem scanFrom_step {s : Step} (whole : s.Whole) (unread : List Char) :
    scanFrom [] (s.text ++ unread) =
      (s :: (scanFrom [] unread).1, (scanFrom [] unread).2) := by
  have held : s.digits.reverse ≠ [] := by simpa using whole.nonempty
  rw [text, List.append_assoc, scanFrom_digits whole.digits, List.append_nil,
    List.singleton_append, scanFrom, if_neg (by simp [Sign.isDigit_symbol]), if_neg held,
    Sign.ofSymbol?_symbol]
  simp

/-- Whole steps are cut off one by one, whatever follows. -/
theorem scanFrom_steps {steps : List Step} (whole : ∀ s ∈ steps, s.Whole) (unread : List Char) :
    scanFrom [] (steps.flatMap text ++ unread) =
      (steps ++ (scanFrom [] unread).1, (scanFrom [] unread).2) := by
  induction steps with
  | nil => rfl
  | cons s steps ih =>
      have later := ih fun s' mem => whole s' (List.mem_cons_of_mem s mem)
      rw [List.flatMap_cons, List.append_assoc, scanFrom_step (whole s (by simp)), later]
      rfl

theorem width_append (steps steps' : List Step) :
    width (steps ++ steps') = width steps + width steps' := by
  simp [width]

theorem width_pos {s : Step} {steps : List Step} : 0 < width (s :: steps) := by
  simp [width, text]

end Step

/-! ## The longest beginning -/

/-- `steps` are the longest run of whole steps that begins `text`, and `rest`
is what follows them. -/
structure Longest (text : List Char) (steps : List Step) (rest : List Char) : Prop where
  cut : text = steps.flatMap Step.text ++ rest
  whole : ∀ s ∈ steps, s.Whole
  longest : ∀ steps' rest', (∀ s ∈ steps', s.Whole) →
    text = steps'.flatMap Step.text ++ rest' → Step.width steps' ≤ Step.width steps

/-- What is said of a text that neither is empty nor begins with a whole step:
its digits end with it, they are followed by a character that is no sign, or it
begins with something that is no digit. -/
inductive Complaint : List Char → String → Prop
  | missing {digits : List Char} (nonempty : digits ≠ [])
      (all : ∀ c ∈ digits, c.isDigit = true) :
      Complaint digits ("missing '+' or '-' after '" ++ String.ofList digits ++ "'")
  | expected {digits more : List Char} {c : Char} (nonempty : digits ≠ [])
      (all : ∀ c ∈ digits, c.isDigit = true) (maximal : c.isDigit = false)
      (unsigned : c ≠ '+' ∧ c ≠ '-') :
      Complaint (digits ++ c :: more) ("expected '+' or '-' after '" ++ String.ofList digits ++ "'")
  | unexpected {more : List Char} {c : Char} (nondigit : c.isDigit = false) :
      Complaint (c :: more) ("unexpected character " ++ Text.quoted c.toString)

/-- The scan stops at once at what can be complained about, and words the
complaint in the same way. -/
theorem Complaint.scanFrom {rest : List Char} {message : String}
    (complaint : Complaint rest message) :
    ∃ bad, Step.scanFrom [] rest = ([], some bad) ∧ bad.message = message := by
  cases complaint with
  | missing nonempty all =>
      refine ⟨.unended rest, ?_, rfl⟩
      have scanned := Step.scanFrom_digits all [] []
      rw [List.append_nil] at scanned
      rw [scanned, Step.scanFrom]
      simp [nonempty]
  | @expected digits more c nonempty all maximal unsigned =>
      refine ⟨.unsigned digits, ?_, rfl⟩
      rw [Step.scanFrom_digits all, Step.scanFrom, if_neg (by simp [maximal]),
        if_neg (by simp [nonempty]), Sign.ofSymbol?_eq_none.mpr unsigned]
      simp
  | @unexpected more c nondigit =>
      exact ⟨.unexpected c, by rw [Step.scanFrom, if_neg (by simp [nondigit]), if_pos rfl], rfl⟩

/-- Every text is empty, begins with a whole step, or can be complained about. -/
theorem step_or_complaint (rest : List Char) :
    rest = [] ∨ (∃ s unread, Step.Whole s ∧ rest = s.text ++ unread) ∨
      ∃ message, Complaint rest message := by
  -- Everything is decided by the digits at the front and the character after them.
  have split := List.takeWhile_append_dropWhile (p := Char.isDigit) (l := rest)
  have all : ∀ c ∈ rest.takeWhile Char.isDigit, c.isDigit = true :=
    fun c mem => List.mem_takeWhile_imp mem
  generalize rest.takeWhile Char.isDigit = digits at split all
  cases after : rest.dropWhile Char.isDigit with
  | nil =>
      rw [after, List.append_nil] at split
      subst split
      by_cases empty : digits = []
      · exact Or.inl empty
      · exact Or.inr (Or.inr ⟨_, .missing empty all⟩)
  | cons c more =>
      have nondigit : c.isDigit = false := by
        have := List.head?_dropWhile_not Char.isDigit rest
        simpa [after] using this
      rw [after] at split
      subst split
      by_cases empty : digits = []
      · subst empty
        exact Or.inr (Or.inr ⟨_, .unexpected nondigit⟩)
      · cases sign : Sign.ofSymbol? c with
        | some s =>
            refine Or.inr (Or.inl ⟨⟨digits, s⟩, more, ⟨empty, all⟩, ?_⟩)
            rw [Sign.ofSymbol?_eq_some sign]
            simp [Step.text]
        | none =>
            exact Or.inr (Or.inr ⟨_, .expected empty all nondigit (Sign.ofSymbol?_eq_none.mp sign)⟩)

theorem scanFrom_rest {rest : List Char} (stuck : rest = [] ∨ ∃ message, Complaint rest message) :
    (Step.scanFrom [] rest).1 = [] := by
  rcases stuck with rfl | ⟨message, complaint⟩
  · rfl
  · obtain ⟨bad, scanned, -⟩ := complaint.scanFrom
    rw [scanned]

/-- A run of whole steps is the longest exactly when nothing follows it, or
something that can be complained about. -/
theorem longest_iff {text : List Char} {steps : List Step} {rest : List Char}
    (cut : text = steps.flatMap Step.text ++ rest) (whole : ∀ s ∈ steps, s.Whole) :
    Longest text steps rest ↔ rest = [] ∨ ∃ message, Complaint rest message := by
  constructor
  · intro longest
    rcases step_or_complaint rest with empty | ⟨s, unread, more, rfl⟩ | complaint
    · exact Or.inl empty
    · have within := longest.longest (steps ++ [s]) unread
        (by simpa [or_imp, forall_and] using ⟨whole, more⟩) (by simp [cut])
      have longer : 0 < Step.width [s] := Step.width_pos
      rw [Step.width_append] at within
      omega
    · exact Or.inr complaint
  · intro stuck
    refine ⟨cut, whole, ?_⟩
    intro steps' rest' whole' cut'
    -- Both ways of cutting are what the scan finds, and after `steps` it stops.
    have scanned := Step.scanFrom_steps whole rest
    have scanned' := Step.scanFrom_steps whole' rest'
    rw [← cut, scanFrom_rest stuck, List.append_nil] at scanned
    rw [← cut', scanned] at scanned'
    have same : steps = steps' ++ (Step.scanFrom [] rest').1 := congrArg Prod.fst scanned'
    rw [same, Step.width_append]
    omega

/-- Every text has a longest beginning of whole steps. -/
theorem exists_longest (text : List Char) : ∃ steps rest, Longest text steps rest := by
  suffices cut : ∃ (steps : List Step) (rest : List Char),
      text = steps.flatMap Step.text ++ rest ∧ (∀ s ∈ steps, s.Whole) ∧
        (rest = [] ∨ ∃ message, Complaint rest message) by
    obtain ⟨steps, rest, cut, whole, stuck⟩ := cut
    exact ⟨steps, rest, (longest_iff cut whole).mpr stuck⟩
  induction length : text.length using Nat.strongRecOn generalizing text with
  | _ n ih =>
    rcases step_or_complaint text with empty | ⟨s, unread, more, rfl⟩ | complaint
    · exact ⟨[], text, rfl, by simp, Or.inl empty⟩
    · obtain ⟨steps, rest, cut, whole, stuck⟩ :=
        ih unread.length (by simp [← length, Step.text]; omega) unread rfl
      exact ⟨s :: steps, rest, by simp [← cut], by simpa using ⟨more, whole⟩, stuck⟩
    · exact ⟨[], text, rfl, by simp, Or.inr complaint⟩

/-! ## Reading -/

namespace Step

/-- The change a step stands for, however many digits it has. -/
def change (s : Step) : Int := s.sign.apply (Nat.ofDigitChars 10 s.digits 0)

/-- Whether a step has too many digits to be read. -/
def isLong (s : Step) : Bool := decide (Decimal.maxDigits < s.digits.length)

/-- The sums of the first step, of the first two, and so on. -/
def runningTotals (steps : List Step) : List Int :=
  (List.range steps.length).map fun k => ((steps.take (k + 1)).map change).sum

theorem amount_short {s : Step} (short : s.isLong = false) : s.amount = .ok s.change := by
  have fits : s.digits.length ≤ Decimal.maxDigits := by simpa [isLong] using short
  rw [amount, Decimal.toNat, if_pos fits]
  rfl

theorem amount_long {s : Step} (long : s.isLong = true) :
    s.amount = .error (.reading s.digits.length) := by
  have exceeds : ¬ s.digits.length ≤ Decimal.maxDigits := by simpa [isLong] using long
  rw [amount, Decimal.toNat, if_neg exceeds]
  rfl

theorem runningTotals_cons (s : Step) (steps : List Step) :
    runningTotals (s :: steps) = s.change :: (runningTotals steps).map (s.change + ·) := by
  unfold runningTotals
  rw [List.length_cons, List.range_succ_eq_map]
  simp [Function.comp_def]

/-- Steps short enough to be read have their running totals. -/
theorem totalsFrom_short {steps : List Step} (short : ∀ s ∈ steps, s.isLong = false) (total : Int) :
    totalsFrom total steps = .ok ((runningTotals steps).map (total + ·)) := by
  induction steps generalizing total with
  | nil => rfl
  | cons s steps ih =>
      have later := ih (fun s' mem => short s' (List.mem_cons_of_mem s mem)) (total + s.change)
      rw [totalsFrom, amount_short (short s (by simp)), runningTotals_cons]
      simp only [bind, Except.bind, later, pure, Except.pure, List.map_cons, List.map_map]
      congr 2
      apply List.map_congr_left
      intro v _
      exact Int.add_assoc total s.change v

/-- The first step with too many digits is reported, whatever stands after it. -/
theorem totalsFrom_long {steps : List Step} {s : Step} (first : steps.find? isLong = some s)
    (total : Int) : totalsFrom total steps = .error (.reading s.digits.length) := by
  induction steps generalizing total with
  | nil => simp at first
  | cons s' steps ih =>
      rw [totalsFrom]
      cases long : s'.isLong with
      | true =>
          rw [List.find?_cons_of_pos long] at first
          cases first
          rw [amount_long long]
          rfl
      | false =>
          rw [List.find?_cons_of_neg (by simp [long])] at first
          rw [amount_short long]
          simp only [bind, Except.bind, ih first]

end Step

/-- **Reading decides the grammar.**  Take the longest beginning of a text that
is a run of whole steps; there always is one.  The first of its steps with too
many digits is reported.  Without one, the text is accepted when nothing follows
the steps, with their running totals for values, and otherwise refused at the
column behind them with the one complaint there is. -/
theorem replay_by_longest (text file : String) :
    (∃ steps rest, Longest text.toList steps rest) ∧
    ∀ steps rest, Longest text.toList steps rest →
      (∀ s, steps.find? Step.isLong = some s →
        replay text file = .error (.tooLong (.reading s.digits.length))) ∧
      (steps.find? Step.isLong = none →
        (rest = [] → replay text file = .ok (Step.runningTotals steps)) ∧
        (rest ≠ [] → ∃ message, Complaint rest message) ∧
        ∀ message, Complaint rest message →
          replay text file = .error (.malformed {
            kind := .longFormat
            message := message
            place := some ⟨file, 1, (steps.flatMap Step.text).length + 1⟩
            hint := some "long-form text is a run of <digits>+ or <digits>- steps" })) := by
  refine ⟨exists_longest text.toList, ?_⟩
  intro steps rest longest
  have stuck := (longest_iff longest.cut longest.whole).mp longest
  have scanned : Step.scan text = (steps, (Step.scanFrom [] rest).2) := by
    rw [Step.scan, longest.cut, Step.scanFrom_steps longest.whole, scanFrom_rest stuck,
      List.append_nil]
  refine ⟨?_, ?_⟩
  · intro s first
    rw [replay, scanned]
    simp only [Step.totalsFrom_long first]
  · intro none
    have short : ∀ s ∈ steps, s.isLong = false := by simpa using none
    have totals : Step.totalsFrom 0 steps = .ok (Step.runningTotals steps) := by
      simpa using Step.totalsFrom_short short 0
    refine ⟨?_, ?_, ?_⟩
    · rintro rfl
      rw [replay, scanned]
      simp only [totals]
      rfl
    · intro more
      exact stuck.resolve_left more
    · intro message complaint
      obtain ⟨bad, stopped, worded⟩ := complaint.scanFrom
      rw [replay, scanned, stopped]
      simp only [totals, BadStep.diagnostic, worded]
      rfl

/-! ## Accepted texts -/

/-- The number a step is written with. -/
def Step.number (s : Step) : Nat := Nat.ofDigitChars 10 s.digits 0

theorem Step.natAbs_change (s : Step) : s.change.natAbs = s.number := by
  rw [change, number]
  cases s.sign <;> simp [Sign.apply]

/-- The text of steps, one behind the other. -/
def written (steps : List Step) : String := String.ofList (steps.flatMap Step.text)

/-- The text of whole steps is cut into these steps, and nothing is wrong with it. -/
theorem scan_written {steps : List Step} (whole : ∀ s ∈ steps, s.Whole) :
    Step.scan (written steps) = (steps, none) := by
  have scanned := Step.scanFrom_steps whole []
  rw [List.append_nil] at scanned
  rw [Step.scan, written, String.toList_ofList, scanned]
  simp [Step.scanFrom]

/-- Whole steps can be told from their text. -/
theorem written_inj {steps steps' : List Step} (whole : ∀ s ∈ steps, s.Whole)
    (whole' : ∀ s ∈ steps', s.Whole) : written steps = written steps' ↔ steps = steps' := by
  constructor
  · intro same
    have scanned := congrArg Step.scan same
    rw [scan_written whole, scan_written whole'] at scanned
    exact congrArg Prod.fst scanned
  · rintro rfl
    rfl

/-- What a text is cut into are whole steps, and they are all of it when nothing
is wrong. -/
theorem scan_whole (text : String) :
    (∀ s ∈ (Step.scan text).1, s.Whole) ∧
      ((Step.scan text).2 = none → text = written (Step.scan text).1) := by
  obtain ⟨steps, rest, longest⟩ := exists_longest text.toList
  have stuck := (longest_iff longest.cut longest.whole).mp longest
  have scanned : (Step.scan text).1 = steps := by
    rw [Step.scan, longest.cut, Step.scanFrom_steps longest.whole, scanFrom_rest stuck,
      List.append_nil]
  refine ⟨by rw [scanned]; exact longest.whole, ?_⟩
  intro fine
  obtain ⟨rest', cut, ended⟩ := Step.scan_text text
  rw [ended.mp fine, List.append_nil] at cut
  rw [written, ← cut, String.ofList_toList]

/-- Reading accepts exactly the texts of whole steps that are short enough, and
yields their running totals. -/
theorem replay_eq_ok {text file : String} {values : List Int} :
    replay text file = .ok values ↔
      ∃ steps, (∀ s ∈ steps, s.Whole) ∧ (∀ s ∈ steps, s.isLong = false) ∧
        text = written steps ∧ values = Step.runningTotals steps := by
  constructor
  · intro accepted
    obtain ⟨whole, all⟩ := scan_whole text
    rw [replay] at accepted
    generalize Step.scan text = scanned at whole all accepted
    obtain ⟨steps, bad⟩ := scanned
    have short : ∀ s ∈ steps, s.isLong = false := by
      by_contra long
      obtain ⟨s, first⟩ : ∃ s, steps.find? Step.isLong = some s := by
        simpa [List.find?_isSome, ← Option.isSome_iff_exists] using long
      simp [Step.totalsFrom_long first] at accepted
    simp only [Step.totalsFrom_short short] at accepted
    cases bad with
    | some bad => cases accepted
    | none =>
        refine ⟨steps, whole, short, all rfl, ?_⟩
        simpa using (Except.ok.inj accepted).symm
  · rintro ⟨steps, whole, short, rfl, rfl⟩
    rw [replay, scan_written whole]
    simp [Step.totalsFrom_short short]

end DeltaTape.LongForm
