/-
# DeltaTape.Proofs.ReplayOutcome — how a call of `replay` ends

A call for a file that is there can go wrong at three times: a text that is no long form
and a step with too many digits are found out while the file is read, when nothing has
been printed; a total with too many digits only when its turn comes, after the lines of
those before it.

What is read is the text of the file without the blanks at both ends (`longText`).  Digits
and signs are not blank, so blanks around a long form do not matter, and a blank anywhere
else is never part of one.

* `Replay.run_of_asks`: a call for a file that is there carries out its request;
* `Replay.run_refused` and `Replay.run_numbers`: what becomes of a text that is refused, and
  of one that is accepted;
* `longText_surrounded` and `replay_blank`: blanks around a long form, and within a text;
* `outcome_of_replay`: how a call ends, case by case.
-/
import Mathlib
import DeltaTape.Proofs.CheckedInput
import DeltaTape.Proofs.CompileReplay
import DeltaTape.Proofs.NullFree

namespace DeltaTape

set_option autoImplicit false

/-! ## Blanks around a text -/

/-- Blanks around a text are dropped, and the text is treated as it would be by itself. -/
theorem Text.trimmed_surrounded {lead trail : List Char} (before : ∀ c ∈ lead, isBlank c = true)
    (behind : ∀ c ∈ trail, isBlank c = true) (text : List Char) :
    trimmed (lead ++ text ++ trail) = trimmed text := by
  have ends : trail.dropWhile isBlank = [] := List.dropWhile_eq_nil_iff.mpr behind
  have backwards : ∀ c ∈ trail.reverse, isBlank c = true := by simpa using behind
  unfold trimmed
  rw [List.append_assoc, List.dropWhile_append_of_pos before, List.dropWhile_append]
  by_cases blank : text.dropWhile isBlank = []
  · simp [blank, ends]
  · rw [if_neg (by simpa using blank), List.reverse_append,
      List.dropWhile_append_of_pos backwards]

/-- The long form a file holds: its text without the blanks at both ends. -/
def longText (bytes : List UInt8) : String := String.ofList (Text.trimmed (textOfBytes bytes))

namespace LongForm

theorem isBlank_of_whole {steps : List Step} (whole : ∀ s ∈ steps, s.Whole) :
    ∀ c ∈ steps.flatMap Step.text, Text.isBlank c = false :=
  fun _ mem => isBlank_of_range (mem_steps_range whole mem)

/-- A file that holds whole steps between blanks holds the text of these steps. -/
theorem longText_surrounded {bytes : List UInt8} {lead trail : List Char} {steps : List Step}
    (whole : ∀ s ∈ steps, s.Whole) (before : ∀ c ∈ lead, Text.isBlank c = true)
    (behind : ∀ c ∈ trail, Text.isBlank c = true)
    (content : textOfBytes bytes = lead ++ steps.flatMap Step.text ++ trail) :
    longText bytes = written steps := by
  rw [longText, content, Text.trimmed_surrounded before behind,
    Text.trimmed_eq_self (isBlank_of_whole whole), written]

/-- A text with a blank in it is never accepted. -/
theorem replay_blank {text file : String} {c : Char} (mem : c ∈ text.toList)
    (blank : Text.isBlank c = true) : ∃ e, replay text file = .error e := by
  cases read : replay text file with
  | error e => exact ⟨e, rfl⟩
  | ok values =>
      obtain ⟨steps, whole, -, rfl, -⟩ := replay_eq_ok.mp read
      rw [written, String.toList_ofList] at mem
      rw [isBlank_of_whole whole c mem] at blank
      cases blank

/-- Where too many digits are reported, one of the steps read has them. -/
theorem exists_isLong_of_tooLong {text file : String} {limit : DigitLimit}
    (reported : replay text file = .error (.tooLong limit)) :
    ∃ s ∈ (Step.scan text).1, s.isLong = true := by
  by_contra none
  have short : ∀ s ∈ (Step.scan text).1, s.isLong = false := by simpa using none
  rw [replay] at reported
  simp only [Step.totalsFrom_short short] at reported
  split at reported <;> cases reported

/-- Whole steps are never malformed, even where one of them is too long. -/
theorem replay_written_ne_malformed {steps : List Step} (whole : ∀ s ∈ steps, s.Whole)
    {file : String} (d : Diagnostic) : replay (written steps) file ≠ .error (.malformed d) := by
  rw [replay, scan_written whole]
  dsimp only
  split <;> simp

end LongForm

namespace Command

/-! ## A call for a file that is there -/

/-- A path, as it was typed, leads to a file with some content. -/
structure Leads (t : FileTree) (cwd : Location) (file : String) (bytes : List UInt8) : Prop where
  free : NullFree file
  found : t.lookup cwd (Path.verbatim file) = .ok (.file bytes)

namespace Replay

/-- A call of `replay` for one file, and which of its two switches it has. -/
def Asks (call : List String) (file : String) (text verbose : Bool) : Prop :=
  ∃ args a, Grammar.program.parse call = .ok ⟨[], "replay" :: args⟩ ∧
    Grammar.replay.parse args = .ok a ∧ a.has .help = false ∧ a.operands = [file] ∧
    a.has .text = text ∧ a.has .verbose = verbose

/-- A file name that does not look like a switch can stand right behind `replay`. -/
theorem asks_plain {file : String} (plain : Grammar.isSwitch file = false) :
    Asks ["replay", file] file false false := by
  have dashes : file ≠ "--" := by
    rintro rfl
    exact absurd plain (by decide)
  refine ⟨[file], { operands := [file] }, parse_program (by decide) _, ?_, rfl, rfl, rfl, rfl⟩
  rw [Grammar.parse, if_neg dashes, if_neg (by simp [plain])]
  rfl

section Call

variable {t : FileTree} {cwd : Location} {call : List String} {file : String}
variable {bytes : List UInt8} {text verbose : Bool}

theorem checkInput_of_leads (there : Leads t cwd file bytes) : checkInput t cwd file = none := by
  simp only [checkInput, Path.hasNull_verbatim there.free, there.found, Bool.false_eq_true,
    if_false]

/-- A file that is there is read as the long form it holds. -/
theorem readValues_of_leads (there : Leads t cwd file bytes) :
    readValues t cwd (Path.ofText file) =
      (LongForm.replay (longText bytes) (Path.ofText file).render).mapError
        Failure.ofReadError := by
  have stored := FileTree.readFile_of_lookup there.found
  have read := readText_of_stored (Path.hasNull_ofText there.free) stored
  simp only [readValues, read, longText]
  cases LongForm.replay (String.ofList (Text.trimmed (textOfBytes bytes)))
    (Path.ofText file).render <;> rfl

variable (asked : Asks call file text verbose) (there : Leads t cwd file bytes)
include asked there

/-- A call for a file that is there carries out its request. -/
theorem run_of_asks :
    run t cwd call = Request.run ⟨Path.ofText file, text, verbose⟩ t cwd := by
  obtain ⟨args, a, called, parsed, working, operand, rfl, rfl⟩ := asked
  rw [run_of_replay called]
  simp only [runReplay, parsed, working, Bool.false_eq_true, request, operand, checkOperands,
    checkInput_of_leads there, if_true, if_false]

/-- A text that is refused ends the call before anything is printed. -/
theorem run_refused {e : LongForm.ReadError}
    (refused : LongForm.replay (longText bytes) (Path.ofText file).render = .error e) :
    run t cwd call = .failed t "" "" verbose (.ofReadError e) := by
  rw [run_of_asks asked there]
  simp only [Request.run, readValues_of_leads there, refused, Except.mapError]

end Call

section Numbers

variable {t : FileTree} {cwd : Location} {call : List String} {file : String}
variable {bytes : List UInt8} {values : List Int}
variable (asked : Asks call file false false) (there : Leads t cwd file bytes)
variable (accepted : LongForm.replay (longText bytes) (Path.ofText file).render = .ok values)
include asked there accepted

/-- The values of a text that is accepted are printed as numbers, to the first that is
too long. -/
theorem run_numbers :
    run t cwd call =
      match (numberLines values).2 with
      | none => .printed t (numberLines values).1
      | some limit => .failed t (numberLines values).1 "" false (.digitLimit limit) := by
  rw [run_of_asks asked there]
  simp only [Request.run, readValues_of_leads there, accepted, Except.mapError, Request.opening,
    Bool.false_eq_true, if_false, String.empty_append]
  obtain ⟨lines, stop⟩ := numberLines values
  cases stop <;> rfl

end Numbers

/-- The lines end before the first value that is too long. -/
theorem numberLines_stopped {before : List Int} {v : Int}
    (small : ∀ w ∈ before, w.natAbs < Decimal.bound) (large : Decimal.bound ≤ v.natAbs)
    (behind : List Int) :
    numberLines (before ++ v :: behind) =
      (String.join (before.map fun w => toString w ++ "\n"), some .writing) := by
  have stopped : numberLines (v :: behind) = ("", some .writing) := by
    rw [numberLines, Decimal.ofInt, Decimal.ofNat_eq_error large]
    rfl
  rw [numberLines_append small, stopped, String.append_empty]

end Replay

/-- **How a call of `replay` ends.**  Take a call that prints the numbers of a file that is
there, whatever its bytes, and the text of the file without the blanks at both ends.  A text
that is malformed, or that has a step with too many digits, is refused with nothing printed.
Of a text that is accepted the values are printed, each in decimal on its line, all of them or
up to the first that is too long.  So whole steps between blanks are accepted unless one of
them is too long, and a blank anywhere else is refused: it is malformed, unless a step
with too many digits comes before it. -/
theorem outcome_of_replay {t : FileTree} {cwd : Location} {call : List String} {file : String}
    {bytes : List UInt8} (asked : Replay.Asks call file false false)
    (there : Leads t cwd file bytes) :
    (∀ d, LongForm.replay (longText bytes) (Path.ofText file).render = .error (.malformed d) →
      (run t cwd call).exit = .buildError ∧ (run t cwd call).stdout = "") ∧
    (∀ limit, LongForm.replay (longText bytes) (Path.ofText file).render =
        .error (.tooLong limit) →
      (run t cwd call).exit = .internalError ∧ (run t cwd call).stdout = "") ∧
    (∀ values, LongForm.replay (longText bytes) (Path.ofText file).render = .ok values →
      ((∀ v ∈ values, v.natAbs < Decimal.bound) →
        (run t cwd call).exit = .success ∧
          (run t cwd call).stdout = String.join (values.map fun v => toString v ++ "\n")) ∧
      ∀ before v behind, values = before ++ v :: behind →
        (∀ w ∈ before, w.natAbs < Decimal.bound) → Decimal.bound ≤ v.natAbs →
        (run t cwd call).exit = .internalError ∧
          (run t cwd call).stdout = String.join (before.map fun w => toString w ++ "\n")) ∧
    (∀ lead steps trail,
      textOfBytes bytes = lead ++ steps.flatMap LongForm.Step.text ++ trail →
      (∀ c ∈ lead, Text.isBlank c = true) → (∀ c ∈ trail, Text.isBlank c = true) →
      (∀ s ∈ steps, s.Whole) →
      (∀ d, LongForm.replay (longText bytes) (Path.ofText file).render ≠
        .error (.malformed d)) ∧
      ((∀ s ∈ steps, s.isLong = false) →
        LongForm.replay (longText bytes) (Path.ofText file).render =
          .ok (LongForm.Step.runningTotals steps))) ∧
    ∀ c ∈ (longText bytes).toList, Text.isBlank c = true →
      (run t cwd call).stdout = "" ∧
        ((run t cwd call).exit = .buildError ∨ (run t cwd call).exit = .internalError ∧
          ∃ s ∈ (LongForm.Step.scan (longText bytes)).1, s.isLong = true) := by
  refine ⟨?_, ?_, ?_, ?_, ?_⟩
  · intro d malformed
    rw [Replay.run_refused asked there malformed]
    exact ⟨rfl, rfl⟩
  · intro limit long
    rw [Replay.run_refused asked there long]
    exact ⟨rfl, rfl⟩
  · intro values accepted
    have printed := Replay.run_numbers asked there accepted
    constructor
    · intro small
      rw [printed, Replay.numberLines_eq small]
      exact ⟨rfl, rfl⟩
    · rintro before v behind rfl small large
      rw [printed, Replay.numberLines_stopped small large]
      exact ⟨rfl, rfl⟩
  · intro lead steps trail content blank blank' whole
    rw [LongForm.longText_surrounded whole blank blank' content]
    refine ⟨LongForm.replay_written_ne_malformed whole, ?_⟩
    intro short
    exact LongForm.replay_eq_ok.mpr ⟨steps, whole, short, rfl, rfl⟩
  · intro c mem blank
    obtain ⟨e, refused⟩ := LongForm.replay_blank mem blank
    rw [Replay.run_refused asked there refused]
    refine ⟨rfl, ?_⟩
    -- A blank is never read as a step, but a step before it may be too long.
    cases e with
    | malformed d => exact Or.inl rfl
    | tooLong limit => exact Or.inr ⟨rfl, LongForm.exists_isLong_of_tooLong refused⟩

/-- A number as long as can be read, and one that is longer. -/
def grownValues : List Int := [(Decimal.bound : Int) - 1, Decimal.bound]

/-- Their long form, whose second step is `1+`. -/
def grownText : String :=
  String.ofList (((LongForm.deltasFrom 0 grownValues).map LongForm.Step.ofDelta).flatMap
    LongForm.Step.text)

/-- Three files: a long form between a no-break space and a line end, one with a space in it,
and one whose second value outgrows its steps. -/
def endingsTree : FileTree :=
  ((FileTree.root.set ["a"] (.file [0xC2, 0xA0, 0x33, 0x2B, 0x30, 0x34, 0x2D, 0x0D, 0x0A])).set
    ["b"] (.file [0x33, 0x2B, 0x20, 0x34, 0x2D])).set ["c"] (.file (Text.Utf8.encode grownText))

/-- Blanks around a long form do not matter, a blank within it is refused, and a value that
is too long ends the lines. -/
theorem outcome_of_replay_endings :
    ((run endingsTree [] ["replay", "a"]).exit = .success ∧
      (run endingsTree [] ["replay", "a"]).stdout = "3\n-1\n") ∧
    ((run endingsTree [] ["replay", "b"]).exit = .buildError ∧
      (run endingsTree [] ["replay", "b"]).stdout = "") ∧
    (run endingsTree [] ["replay", "c"]).exit = .internalError ∧
      (run endingsTree [] ["replay", "c"]).stdout =
        String.join ([(Decimal.bound : Int) - 1].map fun v => toString v ++ "\n") := by
  have surrounded : Leads endingsTree [] "a"
      [0xC2, 0xA0, 0x33, 0x2B, 0x30, 0x34, 0x2D, 0x0D, 0x0A] := ⟨by decide +kernel, rfl⟩
  have parted : Leads endingsTree [] "b" [0x33, 0x2B, 0x20, 0x34, 0x2D] :=
    ⟨by decide +kernel, rfl⟩
  have grown : Leads endingsTree [] "c" (Text.Utf8.encode grownText) := ⟨by decide +kernel, rfl⟩
  obtain ⟨-, -, printed, -⟩ := outcome_of_replay (Replay.asks_plain (by decide)) surrounded
  obtain ⟨refused, -⟩ := outcome_of_replay (Replay.asks_plain (by decide)) parted
  obtain ⟨-, -, stopped, -⟩ := outcome_of_replay (Replay.asks_plain (by decide)) grown
  have room : 1 < Decimal.bound := by decide +kernel
  have encoded : LongForm.encode grownValues = .ok grownText := by
    apply LongForm.encode_of_fits
    intro d mem
    simp only [grownValues, LongForm.deltasFrom, List.mem_cons, List.not_mem_nil, or_false] at mem
    omega
  have held : longText (Text.Utf8.encode grownText) = grownText := by
    rw [longText, LongForm.textOfBytes_encode encoded, LongForm.trimmed_encode encoded,
      String.ofList_toList]
  refine ⟨?_, ?_, ?_⟩
  · exact (printed [3, -1] (by decide +kernel)).1 (by decide +kernel)
  · exact refused ((LongForm.BadStep.unexpected ' ').diagnostic "b" 3) (by decide +kernel)
  · refine (stopped grownValues ?_).2 [(Decimal.bound : Int) - 1] Decimal.bound [] rfl ?_ ?_
    · rw [held]
      exact LongForm.replay_of_encode encoded _
    · intro w mem
      rw [List.mem_singleton.mp mem]
      omega
    · rw [Int.natAbs_natCast]

end Command

end DeltaTape
