/-
# DeltaTape.Proofs.CompileReplay — what was compiled to a file is printed from it

From a source file to the printed numbers the way leads through every part: the
bytes of the file, its instructions, the tape, the long form, the destinations,
the bytes again, and the reader.  The long form passes through a file unchanged,
because it holds nothing but digits and signs.  The values can be printed,
because none of them is larger than the number of increments and decrements.

* `textOfBytes_encode` and `trimmed_encode`: long form read back from a file;
* `numberLines_eq`: small values are printed, each on its line;
* `replay_of_compile`: the whole way, and once by a destination under two names.
-/
import Mathlib
import DeltaTape.Proofs.OutputRange
import DeltaTape.Proofs.RoundTrip
import DeltaTape.Proofs.SourceBytes
import DeltaTape.Proofs.Stages
import DeltaTape.Proofs.TidyPath
import DeltaTape.Proofs.WrittenFiles

namespace DeltaTape

set_option autoImplicit false

/-! ## Long form in a file -/

namespace LongForm

/-- Every character of a run of whole steps is a digit or a sign. -/
theorem mem_steps_range {steps : List Step} (whole : ∀ s ∈ steps, s.Whole) {c : Char}
    (mem : c ∈ steps.flatMap Step.text) : 0x2B ≤ c.toNat ∧ c.toNat ≤ 0x39 := by
  obtain ⟨s, member, part⟩ := List.mem_flatMap.mp mem
  rcases List.mem_append.mp part with digit | sign
  · obtain ⟨low, high⟩ := Char.isDigit_iff_toNat.mp ((whole s member).digits c digit)
    have zero : '0'.toNat = 0x30 := rfl
    have nine : '9'.toNat = 0x39 := rfl
    omega
  · rw [List.mem_singleton.mp sign]
    cases s.sign <;> decide

/-- What is written is made of digits and signs. -/
theorem mem_encode_range {values : List Int} {text : String} (written : encode values = .ok text)
    {c : Char} (mem : c ∈ text.toList) : 0x2B ≤ c.toNat ∧ c.toNat ≤ 0x39 := by
  obtain ⟨-, rfl⟩ := encode_eq_ok written
  rw [String.toList_ofList] at mem
  refine mem_steps_range ?_ mem
  intro s member
  obtain ⟨d, -, rfl⟩ := List.mem_map.mp member
  exact Step.whole_ofDelta d

/-- Written to a file and read as text, long form is unchanged. -/
theorem textOfBytes_encode {values : List Int} {text : String}
    (written : encode values = .ok text) : textOfBytes (Text.Utf8.encode text) = text.toList := by
  have decoded : Text.Utf8.decode (Text.Utf8.encode text) = text.toList := by
    apply Text.Utf8.decode_encode_ascii
    intro c mem
    have := mem_encode_range written mem
    omega
  rw [textOfBytes, decoded]
  apply Text.unifyNewlines_eq_self
  intro mem
  have := mem_encode_range written mem
  exact absurd this.1 (by decide)

/-- Digits and signs are not blank. -/
theorem isBlank_of_range {c : Char} (range : 0x2B ≤ c.toNat ∧ c.toNat ≤ 0x39) :
    Text.isBlank c = false := by
  obtain ⟨low, high⟩ := range
  simp only [Text.isBlank, Text.blankRanges, Text.inRanges]
  grind

/-- There are no blanks in long form to be dropped. -/
theorem trimmed_encode {values : List Int} {text : String} (written : encode values = .ok text) :
    Text.trimmed text.toList = text.toList := by
  apply Text.trimmed_eq_self
  intro c mem
  exact isBlank_of_range (mem_encode_range written mem)

end LongForm

/-! ## Printed values -/

theorem Decimal.ofInt_eq_ok {n : Int} (short : n.natAbs < bound) : ofInt n = .ok (toString n) := by
  rw [ofInt, ofNat_eq_ok short, ← Nat.repr_eq_ofList_toDigits, Int.toString_eq_repr, Int.repr_eq_if]
  by_cases negative : n < 0
  · have distance : (-n).toNat = n.natAbs := by omega
    simp only [Except.map, negative, if_true, if_neg (Int.not_le.mpr negative), distance]
  · have distance : n.toNat = n.natAbs := by omega
    simp only [Except.map, negative, if_false, if_pos (Int.not_lt.mp negative), distance]

/-- The decimal text of a number holds no control sequence. -/
theorem escape_notMem_toString (n : Int) : Text.Plain.escape ∉ (toString n).toList := by
  have digits : ∀ k : Nat, Text.Plain.escape ∉ k.repr.toList := by
    intro k mem
    rw [Nat.toList_repr] at mem
    exact absurd (Nat.isDigit_of_mem_toDigits (by decide) (by decide) mem) (by decide)
  rw [Int.toString_eq_repr, Int.repr_eq_if]
  split
  · exact digits _
  · have dash : "-".toList = ['-'] := rfl
    rw [String.toList_append, dash]
    intro mem
    rcases List.mem_append.mp mem with sign | digit
    · exact absurd (List.mem_singleton.mp sign) (by decide)
    · exact digits _ digit

namespace Command.Replay

/-- Small values are printed before whatever becomes of those behind them, each in
decimal on a line of its own. -/
theorem numberLines_append {values : List Int} (small : ∀ v ∈ values, v.natAbs < Decimal.bound)
    (behind : List Int) :
    numberLines (values ++ behind) =
      (String.join (values.map fun v => toString v ++ "\n") ++ (numberLines behind).1,
        (numberLines behind).2) := by
  induction values with
  | nil => simp
  | cons value values ih =>
      have later := ih fun v mem => small v (List.mem_cons_of_mem value mem)
      have printed : line (toString value) = toString value ++ "\n" := by
        rw [line, Text.plain_eq_self (escape_notMem_toString value)]
      rw [List.cons_append, numberLines, Decimal.ofInt_eq_ok (small value (by simp)), later]
      simp only [printed, List.map_cons, String.join_cons, String.append_assoc]

/-- Small values are printed, each in decimal on a line of its own. -/
theorem numberLines_eq {values : List Int} (small : ∀ v ∈ values, v.natAbs < Decimal.bound) :
    numberLines values = (String.join (values.map fun v => toString v ++ "\n"), none) := by
  simpa [numberLines] using numberLines_append small []

/-- A file that holds the long form of small values has these values printed. -/
theorem Request.run_encoded {t : FileTree} {cwd : Location} {p : Path} {values : List Int}
    {text : String} (clean : p.hasNull = false) (written : LongForm.encode values = .ok text)
    (small : ∀ v ∈ values, v.natAbs < Decimal.bound)
    (stored : t.readFile cwd p = .ok (Text.Utf8.encode text)) :
    Request.run ⟨p, false, false⟩ t cwd =
      ⟨.success, String.join (values.map fun v => toString v ++ "\n"), "", t⟩ := by
  have read : readText t cwd p = .ok text.toList := by
    simp only [readText, clean, stored, LongForm.textOfBytes_encode written, Bool.false_eq_true,
      if_false]
  have replayed := LongForm.replay_of_encode written p.render
  have found : readValues t cwd p = .ok values := by
    simp only [readValues, read, LongForm.trimmed_encode written, String.ofList_toList, replayed]
  simp only [Request.run, found, numberLines_eq small, Request.opening, Outcome.printed,
    Bool.false_eq_true, if_false, String.empty_append]

end Command.Replay

/-! ## The whole way -/

namespace Command

/-- How many bytes are a plus or a minus. -/
def signBytes (bytes : List UInt8) : Nat := bytes.countP fun b => decide (b = 0x2B ∨ b = 0x2D)

/-- The increments and decrements of a file are its plus and minus bytes. -/
theorem changes_scan (bytes : List UInt8) (file : String) :
    Walk.changes (Token.instructions (Token.scan (String.ofList (textOfBytes bytes)) file)) =
      signBytes bytes := by
  rw [instructions_textOfBytes, Walk.changes_filterMap, signBytes]
  apply List.countP_congr
  intro byte _
  have plus : Instruction.ofByte? byte = some .increment ↔ byte = 0x2B := by
    rw [Instruction.ofByte?_eq_some, ← UInt8.toNat_inj]
    rfl
  have minus : Instruction.ofByte? byte = some .decrement ↔ byte = 0x2D := by
    rw [Instruction.ofByte?_eq_some, ← UInt8.toNat_inj]
    rfl
  rw [decide_eq_true_eq, decide_eq_true_eq, plus, minus]

/-- The output directory of a call is tidy, whether it was named or not. -/
theorem Compile.tidy_directory {t : FileTree} {cwd : Location} {a : Arguments} {r : Request}
    (names : ∀ name ∈ cwd, Path.IsName name) (checked : request t cwd a = .ok r) :
    (r.options cwd).directory.Tidy := by
  unfold request at checked
  dsimp only at checked
  split at checked
  · cases checked
  · split at checked
    · cases checked
    · cases checked
      rw [Request.options]
      cases a.lastOf? .outputDirectory with
      | none => exact (Path.tidy_path names).child defaultDirectory
      | some text => exact Path.tidy_ofText text

/-- A destination below a tidy directory, once printed, is read as the same path. -/
theorem read_target {directory : Path} (tidy : directory.Tidy) {destinations : List String}
    {p : Path} (target : p ∈ Sink.targets directory destinations Sink.defaultExtension) :
    Path.verbatim p.render = p ∧ Path.ofText p.render = p := by
  obtain ⟨name, -, rfl⟩ := List.mem_map.mp target
  have named : (Path.ofText (name ++ Sink.defaultExtension)).steps ≠ [] := by
    have ends := Path.steps_ofText_ne_nil name.toList Sink.defaultExtension.toList (by decide)
      (by decide)
    rwa [String.ofList_append, String.ofList_toList, String.ofList_toList] at ends
  have below := Path.steps_child_ne_nil directory named
  exact ⟨Path.verbatim_render (tidy.child _) below, Path.ofText_render (tidy.child _) below⟩

/-- **Compile, then replay.**  When a call of `compile` has written its output,
a call of `replay` for any path it wrote to, in the same directory, succeeds and
prints exactly the values that the source outputs, each in decimal on a line of
its own.  The parts of the working directory are names; the source is any bytes, as
long as fewer of them are signs than the first number too long to be printed. -/
theorem replay_of_compile {t : FileTree} {cwd : Location} {args : List String} {a : Arguments}
    {r : Compile.Request} {bytes : List UInt8} (names : ∀ name ∈ cwd, Path.IsName name)
    (parsed : Grammar.compile.parse args = .ok a) (called : a.has .help = false)
    (checked : Compile.request t cwd a = .ok r) (writing : r.stdout = false)
    (stored : t.readFile cwd r.input = .ok bytes) (few : signBytes bytes < Decimal.bound)
    (succeeded : (run t cwd ("compile" :: args)).exit = .success) :
    ∃ result m, (compileFile (r.options cwd) t cwd r.input).result = .ok result ∧
      simulate (Token.scan (String.ofList (textOfBytes bytes)) r.input.render) = .ok m ∧
      result.written = Sink.targets (r.options cwd).directory (r.options cwd).destinations ".long" ∧
      ∀ p ∈ result.written,
        run (run t cwd ("compile" :: args)).tree cwd ["replay", "--", p.render] =
          ⟨.success, String.join ((Compilation.values m).map fun v => toString v ++ "\n"), "",
            (run t cwd ("compile" :: args)).tree⟩ := by
  rw [run_compile parsed called checked] at succeeded ⊢
  obtain ⟨result, compiled, left⟩ := Compile.Request.run_eq_success succeeded
  have source := compileFile_eq stored compiled
  rw [source] at compiled left
  obtain ⟨c, ofSource, sunk, tree, written⟩ :=
    compileSource_eq_ok (by simp [Compile.Request.options, writing]) compiled
  obtain ⟨ran, encoded⟩ := Compilation.ofSource_eq_ok ofSource
  refine ⟨result, c.machine, by rw [source]; exact compiled, ran, written, ?_⟩
  intro p mem
  rw [written] at mem
  have small : ∀ v ∈ Compilation.values c.machine, v.natAbs < Decimal.bound := by
    intro v output
    have bounded := Walk.value_le_changes ran output
    rw [changes_scan] at bounded
    omega
  obtain ⟨clean, read⟩ := Sink.readFile_of_write sunk mem
  rw [← tree, ← left] at read
  obtain ⟨typed, tidied⟩ := read_target (Compile.tidy_directory names checked) mem
  rw [run_replay_file typed tidied clean read]
  exact Replay.Request.run_encoded clean encoded small read

/-- A source whose first byte begins a character that never ends. -/
def aliasedSource : List UInt8 := [0xE2, 0x2D, 0x2E, 0x3E, 0x2B, 0x2E]

def aliasedTree : FileTree :=
  (FileTree.root.set ["w"] .directory).set ["a.bf", "w"] (.file aliasedSource)

/-- A call that names one destination twice, the second time by a detour. -/
def aliasedCall : List String := ["-n", "x", "a.bf", "-n", "../dist/x"]

def aliasedArguments : Arguments := ⟨[⟨.name, "x"⟩, ⟨.name, "../dist/x"⟩], ["a.bf"]⟩

def aliasedRequest : Compile.Request := ⟨⟨0, ["a.bf"]⟩, none, ["x", "../dist/x"], false, false⟩

/-- Both names of the one file that was written twice give its two values. -/
theorem replay_of_compile_aliased :
    (run aliasedTree ["w"] ("compile" :: aliasedCall)).exit = .success ∧
      ∀ p ∈ ["/w/dist/x.long", "/w/dist/../dist/x.long"],
        run (run aliasedTree ["w"] ("compile" :: aliasedCall)).tree ["w"] ["replay", "--", p] =
          ⟨.success, "-1\n1\n", "",
            (run aliasedTree ["w"] ("compile" :: aliasedCall)).tree⟩ := by
  have names : ∀ name ∈ ["w"], Path.IsName name := by
    intro name mem
    rw [List.mem_singleton.mp mem]
    exact ⟨by decide, by decide⟩
  have parsed : Grammar.compile.parse aliasedCall = .ok aliasedArguments := by decide +kernel
  have checked : Compile.request aliasedTree ["w"] aliasedArguments = .ok aliasedRequest := by
    decide +kernel
  have stored : aliasedTree.readFile ["w"] aliasedRequest.input = .ok aliasedSource := by
    decide +kernel
  have few : signBytes aliasedSource < Decimal.bound := by decide +kernel
  have succeeded : (run aliasedTree ["w"] ("compile" :: aliasedCall)).exit = .success := by
    decide +kernel
  obtain ⟨result, m, -, ran, written, replayed⟩ :=
    replay_of_compile names parsed rfl checked rfl stored few succeeded
  have values : Compilation.values m = [-1, 1] := by
    have output : (simulate (Token.scan (String.ofList (textOfBytes aliasedSource))
        aliasedRequest.input.render)).map Compilation.values = .ok [-1, 1] := by
      decide +kernel
    rw [ran] at output
    exact Except.ok.inj output
  have paths : result.written.map Path.render = ["/w/dist/x.long", "/w/dist/../dist/x.long"] := by
    rw [written]
    decide +kernel
  have lines : String.join ([(-1 : Int), 1].map fun v => toString v ++ "\n") = "-1\n1\n" := by
    decide +kernel
  refine ⟨succeeded, ?_⟩
  intro p mem
  rw [← paths] at mem
  obtain ⟨target, member, rfl⟩ := List.mem_map.mp mem
  rw [replayed target member, values, lines]

end Command

end DeltaTape
