/-
# DeltaTape.Proofs.CompileOutcome — how a call of `compile` ends

A call that has passed its checks can still fail in many places: reading, running,
encoding, and everything the sink asks of the file system.  But the input has been
looked up, so it can be read; a source with few signs runs and is encoded; and what
the sink is refused is reported as a diagnostic of its own.  So such a call ends
well or with this diagnostic, as the sink does.

* `Compilation.exists_ofSource`: a source with few signs is read, run and encoded;
* `compileSource_refused` and `compileSource_finished`: a compilation that writes;
* `Compile.Request.run_failed` and `run_finished`: the outcome of a request;
* `exit_of_compile`: the outcome of a call, by what the sink reports.
-/
import Mathlib
import DeltaTape.Proofs.CheckedInput
import DeltaTape.Proofs.OneText
import DeltaTape.Proofs.SinkRefusal
import DeltaTape.Proofs.SourceCompiles

namespace DeltaTape

set_option autoImplicit false

/-! ## A compilation -/

/-- A source with fewer signs than the first number too long to be written is read,
run and encoded. -/
theorem Compilation.exists_ofSource {source : String} (few : signs source < Decimal.bound)
    (file : String) : ∃ c, ofSource source file = .ok c := by
  obtain ⟨m, ran, small⟩ := simulate_source source file
  obtain ⟨text, encoded⟩ : ∃ text, LongForm.encode (values m) = .ok text :=
    ⟨_, LongForm.encode_of_fits fun d mem => (small d mem).trans_lt few⟩
  exact ⟨⟨Token.scan source file, m, text⟩, by simp only [ofSource, ran, encode_events, encoded]⟩

theorem Compilation.compileLong_eq {source file : String} {c : Compilation}
    (compiled : ofSource source file = .ok c) : compileLong source = .ok c.text := by
  rw [compileLong, text_ofSource source Place.unnamed file, compiled]
  rfl

section Writing

variable {o : Options} {t : FileTree} {cwd : Location} {source file : String} {c : Compilation}

/-- A compilation whose output is refused fails as the sink does. -/
theorem compileSource_refused {e : Sink.Error} (writing : o.writeOutput = true)
    (compiled : Compilation.ofSource source file = .ok c)
    (refused : (Sink.write t cwd ⟨o.destinations, c.text⟩ o.directory o.extension).error = some e) :
    (compileSource o t cwd source file).tree =
        (Sink.write t cwd ⟨o.destinations, c.text⟩ o.directory o.extension).tree ∧
      (compileSource o t cwd source file).result = .error e.failure := by
  simp only [compileSource, compiled, writing, if_true, refused, and_self]

/-- A compilation whose output is written succeeds. -/
theorem compileSource_finished (writing : o.writeOutput = true)
    (compiled : Compilation.ofSource source file = .ok c)
    (finished : (Sink.write t cwd ⟨o.destinations, c.text⟩ o.directory o.extension).error = none) :
    (compileSource o t cwd source file).tree =
        (Sink.write t cwd ⟨o.destinations, c.text⟩ o.directory o.extension).tree ∧
      ∃ result, (compileSource o t cwd source file).result = .ok result ∧
        result.written = Sink.targets o.directory o.destinations o.extension := by
  simp only [compileSource, compiled, writing, if_true, finished, true_and]
  exact ⟨_, rfl, Sink.write_written finished⟩

end Writing

namespace Command

/-- A directory that a call can work in: it stands in the tree, and no name on the way
down to it holds a null character. -/
structure WorkingDirectory (t : FileTree) (cwd : Location) : Prop where
  stands : t.get? cwd = some .directory
  free : ∀ name ∈ cwd, NullFree name

/-! ## A request -/

/-- The signs of a file are its plus and minus bytes. -/
theorem signs_textOfBytes (bytes : List UInt8) :
    signs (String.ofList (textOfBytes bytes)) = signBytes bytes := by
  rw [← changes_scan_source _ Place.unnamed, changes_scan]

namespace Compile

variable {t : FileTree} {cwd : Location} {a : Arguments} {r : Request}

/-- What the sink reports of a long form that a request writes. -/
def Request.sunk (r : Request) (t : FileTree) (cwd : Location) (long : String) : Sink.Report :=
  Sink.write t cwd ⟨(r.options cwd).destinations, long⟩ (r.options cwd).directory
    (r.options cwd).extension

theorem Request.run_failed {f : Failure}
    (failed : (compileFile (r.options cwd) t cwd r.input).result = .error f) :
    (r.run t cwd).exit = f.exitCode ∧ (r.run t cwd).stdout = r.opening ∧
      (r.verbose = false → (r.run t cwd).stderr = f.report "") := by
  simp only [Request.run, failed, Outcome.failed, true_and]
  intro quiet
  simp only [quiet, Bool.false_eq_true, if_false, String.empty_append]

theorem Request.run_finished {result : Result}
    (finished : (compileFile (r.options cwd) t cwd r.input).result = .ok result) :
    (r.run t cwd).exit = .success ∧
      (r.run t cwd).stdout = r.opening ++ r.summary result ++ r.product result := by
  simp only [Request.run, finished, and_self]

theorem Request.tree_run (r : Request) (t : FileTree) (cwd : Location) :
    (r.run t cwd).tree = (compileFile (r.options cwd) t cwd r.input).tree := by
  simp only [Request.run]
  split <;> rfl

section Compiled

variable {source : List Char} {c : Compilation}
variable (read : readText t cwd r.input = .ok source)
variable (compiled : Compilation.ofSource (String.ofList source) r.input.render = .ok c)
include read compiled

/-- A request that prints a long form succeeds. -/
theorem Request.run_printing (printing : r.stdout = true) : (r.run t cwd).exit = .success := by
  have unwritten : (r.options cwd).writeOutput = false := by simp [Request.options, printing]
  obtain ⟨result, finished⟩ :
      ∃ result, (compileFile (r.options cwd) t cwd r.input).result = .ok result := by
    simp only [compileFile, read, compileSource, compiled, unwritten, Bool.false_eq_true, if_false]
    exact ⟨_, rfl⟩
  exact (run_finished finished).1

/-- A request whose output is refused fails as the sink does. -/
theorem Request.run_refused {e : Sink.Error} (writing : r.stdout = false)
    (refused : (r.sunk t cwd c.text).error = some e) :
    (r.run t cwd).exit = e.failure.exitCode ∧ (r.run t cwd).stdout = r.opening ∧
      (r.verbose = false → (r.run t cwd).stderr = e.failure.report "") ∧
      (r.run t cwd).tree = (r.sunk t cwd c.text).tree := by
  have enabled : (r.options cwd).writeOutput = true := by simp [Request.options, writing]
  have file := compileFile_of_read read (r.options cwd)
  obtain ⟨tree, failed⟩ := compileSource_refused enabled compiled refused
  obtain ⟨exit, stdout, stderr⟩ := run_failed (file ▸ failed)
  exact ⟨exit, stdout, stderr, by rw [tree_run, file, tree, sunk]⟩

/-- A request whose output is written succeeds, and prints a line for each path. -/
theorem Request.run_written (writing : r.stdout = false)
    (finished : (r.sunk t cwd c.text).error = none) :
    (r.run t cwd).exit = .success ∧
      ∃ result, (r.run t cwd).stdout = r.opening ++ r.summary result ++
        String.join ((Sink.targets (r.options cwd).directory (r.options cwd).destinations
          (r.options cwd).extension).map fun p =>
            line ("Compiled " ++ r.input.render ++ " -> " ++ p.render)) := by
  have enabled : (r.options cwd).writeOutput = true := by simp [Request.options, writing]
  have file := compileFile_of_read read (r.options cwd)
  obtain ⟨-, result, succeeded, written⟩ := compileSource_finished enabled compiled finished
  obtain ⟨exit, stdout⟩ := run_finished (file ▸ succeeded)
  refine ⟨exit, result, ?_⟩
  rw [stdout, Request.product, if_neg (by simp [writing]), written]

end Compiled

/-- The input of a call that passes its checks can be read. -/
theorem readText_input (operands : ∀ operand ∈ a.operands, NullFree operand)
    (checked : request t cwd a = .ok r) :
    ∃ bytes, t.readFile cwd r.input = .ok bytes ∧
      readText t cwd r.input = .ok (textOfBytes bytes) := by
  obtain ⟨text, operand, passes, rfl⟩ := request_eq_ok checked
  obtain ⟨bytes, -, stored⟩ := readFile_of_checkInput passes
  have clean := Path.hasNull_ofText (operands text (by simp [operand]))
  exact ⟨bytes, stored, readText_of_stored clean stored⟩

theorem nullFree_of_mem_valuesOf (values : ∀ choice ∈ a.choices, NullFree choice.value)
    {switch : Switch} {value : String} (given : value ∈ a.valuesOf switch) : NullFree value := by
  obtain ⟨choice, mem, rfl⟩ := List.mem_map.mp given
  exact values choice (List.mem_of_mem_filter mem)

/-- The destinations of a call without null characters are without them. -/
theorem nullFree_destinations (values : ∀ choice ∈ a.choices, NullFree choice.value)
    (checked : request t cwd a = .ok r) :
    ∀ name ∈ (r.options cwd).destinations, NullFree name := by
  obtain ⟨text, -, -, rfl⟩ := request_eq_ok checked
  intro name mem
  rw [Request.options] at mem
  dsimp only at mem
  split at mem
  · rw [List.mem_singleton.mp mem]
    decide
  · exact nullFree_of_mem_valuesOf values mem

/-- So is its output directory, named or not. -/
theorem hasNull_directory (here : WorkingDirectory t cwd)
    (values : ∀ choice ∈ a.choices, NullFree choice.value)
    (checked : request t cwd a = .ok r) : (r.options cwd).directory.hasNull = false := by
  obtain ⟨text, -, -, rfl⟩ := request_eq_ok checked
  show (((a.lastOf? .outputDirectory).map Path.ofText).getD (Options.directoryAt cwd)).hasNull =
    false
  cases given : a.lastOf? .outputDirectory with
  | none =>
      rw [Option.map_none, Option.getD_none, Options.directoryAt]
      have above : (Location.path cwd).hasNull = false := by
        rw [Path.hasNull_eq_false]
        intro name mem
        exact here.free name (List.mem_reverse.mp mem)
      have unnamed : NullFree defaultDirectory := by decide
      exact Path.hasNull_child above unnamed
  | some directory =>
      rw [Option.map_some, Option.getD_some]
      exact Path.hasNull_ofText (nullFree_of_mem_valuesOf values (List.mem_of_getLast? given))

end Compile

/-! ## A call -/

variable {t : FileTree} {cwd : Location} {call args : List String} {a : Arguments}
variable {r : Compile.Request}

/-- The values and operands of a call of `compile` without null characters. -/
theorem arguments_nullFree (free : ∀ arg ∈ call, NullFree arg)
    (called : Grammar.program.parse call = .ok ⟨[], "compile" :: args⟩)
    (parsed : Grammar.compile.parse args = .ok a) :
    (∀ choice ∈ a.choices, NullFree choice.value) ∧ ∀ operand ∈ a.operands, NullFree operand := by
  obtain ⟨-, operands⟩ := Grammar.parse_nullFree free called
  exact Grammar.parse_nullFree (List.forall_mem_cons.mp operands).2 parsed

/-- **How `compile` ends.**  A call is made in a directory of the tree.  The input of a
call that passes its checks can be read.
If it has fewer signs than the first number too long to be written, it has a long
form, and the call ends well or with a diagnostic: well exactly when it prints the
long form or the sink succeeds, with a diagnostic exactly when it runs the sink and
the sink fails.  A call that is not verbose then prints the sink's diagnostic, and
nothing on the other stream; and when the sink succeeds, a line for each
destination, in order. -/
theorem exit_of_compile (free : ∀ arg ∈ call, NullFree arg) (here : WorkingDirectory t cwd)
    (called : Grammar.program.parse call = .ok ⟨[], "compile" :: args⟩)
    (parsed : Grammar.compile.parse args = .ok a) (working : a.has .help = false)
    (checked : Compile.request t cwd a = .ok r) :
    ∃ bytes, t.readFile cwd r.input = .ok bytes ∧
      (signBytes bytes < Decimal.bound →
        ∃ long, compileLong (String.ofList (textOfBytes bytes)) = .ok long ∧
          ((run t cwd call).exit = .success ∨ (run t cwd call).exit = .buildError) ∧
          ((run t cwd call).exit = .success ↔
            a.has .stdout = true ∨ (r.sunk t cwd long).error = none) ∧
          ((run t cwd call).exit = .buildError ↔
            a.has .stdout = false ∧ ∃ e, (r.sunk t cwd long).error = some e) ∧
          (a.has .stdout = false → a.has .verbose = false →
            (∀ e, (r.sunk t cwd long).error = some e →
              ∃ d, e.failure = .diagnostic d ∧ .sink ∈ d.kind.lineage ∧
                (run t cwd call).stderr = Text.plain d.render ++ "\n" ∧
                (run t cwd call).stdout = "") ∧
            ((r.sunk t cwd long).error = none →
              (run t cwd call).stdout = String.join ((Sink.targets (r.options cwd).directory
                (r.options cwd).destinations (r.options cwd).extension).map fun p =>
                  Text.plain ("Compiled " ++ r.input.render ++ " -> " ++ p.render) ++ "\n")))) := by
  obtain ⟨values, operands⟩ := arguments_nullFree free called parsed
  have names := Compile.nullFree_destinations values checked
  have directory := Compile.hasNull_directory here values checked
  obtain ⟨bytes, stored, read⟩ := Compile.readText_input operands checked
  obtain ⟨text, -, -, request⟩ := Compile.request_eq_ok checked
  have printing : r.stdout = a.has .stdout := by rw [request]
  have loud : r.verbose = a.has .verbose := by rw [request]
  refine ⟨bytes, stored, ?_⟩
  intro few
  rw [← signs_textOfBytes] at few
  obtain ⟨c, compiled⟩ := Compilation.exists_ofSource few r.input.render
  refine ⟨c.text, Compilation.compileLong_eq compiled, ?_⟩
  rw [run_of_request called parsed working checked, ← printing, ← loud]
  cases stdout : r.stdout with
  | true => simp [Compile.Request.run_printing read compiled stdout]
  | false =>
      cases sunk : (r.sunk t cwd c.text).error with
      | none =>
          obtain ⟨exit, result, printed⟩ := Compile.Request.run_written read compiled stdout sunk
          refine ⟨Or.inl exit, by simp [exit], by simp [exit], ?_⟩
          intro _ quiet
          refine ⟨by simp, ?_⟩
          intro _
          simpa only [Compile.Request.opening, Compile.Request.summary, quiet, Bool.false_eq_true,
            if_false, String.empty_append, line] using printed
      | some e =>
          have ending : NullFree (r.options cwd).extension :=
            show NullFree Sink.defaultExtension by decide
          obtain ⟨d, failure, kind⟩ := Sink.failure_of_write directory names ending sunk
          obtain ⟨exit, printed, reported, -⟩ :=
            Compile.Request.run_refused read compiled stdout sunk
          rw [failure, Failure.exitCode] at exit
          refine ⟨Or.inr exit, by simp [exit], by simp [exit], ?_⟩
          intro _ quiet
          refine ⟨?_, by simp⟩
          intro e' same
          cases same
          refine ⟨d, failure, kind, ?_, ?_⟩
          · rw [reported quiet, failure]
            simp [Failure.report, Failure.exitCode, Failure.heading, Failure.message]
          · rw [printed, Compile.Request.opening, if_neg (by simp [quiet])]

/-- A working directory with a source file. -/
def endedTree : FileTree :=
  (FileTree.root.set ["w"] .directory).set ["a.bf", "w"] (.file [0x2B, 0x2E])

/-- A call whose second destination lies in a directory that is missing. -/
def endedCall : List String := ["compile", "a.bf", "-n", "x", "-n", "y/z"]

def endedArguments : Arguments := ⟨[⟨.name, "x"⟩, ⟨.name, "y/z"⟩], ["a.bf"]⟩

def endedRequest : Compile.Request := ⟨⟨0, ["a.bf"]⟩, none, ["x", "y/z"], false, false⟩

/-- The call ends with the diagnostic of the sink, although one destination was written. -/
theorem exit_of_compile_missing :
    (run endedTree ["w"] endedCall).exit = .buildError ∧
      (run endedTree ["w"] endedCall).stdout = "" ∧
      (run endedTree ["w"] endedCall).stderr =
        "error: unable to write compiled file '/w/dist/y/z.long': No such file or directory\n" := by
  have free : ∀ arg ∈ endedCall, NullFree arg := by decide +kernel
  have here : WorkingDirectory endedTree ["w"] := ⟨by decide +kernel, by decide +kernel⟩
  have called : Grammar.program.parse endedCall = .ok ⟨[], "compile" :: endedCall.tail⟩ := by
    decide +kernel
  have parsed : Grammar.compile.parse endedCall.tail = .ok endedArguments := by decide +kernel
  have checked : Compile.request endedTree ["w"] endedArguments = .ok endedRequest := by
    decide +kernel
  obtain ⟨bytes, stored, ends⟩ := exit_of_compile free here called parsed rfl checked
  have content : endedTree.readFile ["w"] endedRequest.input = .ok [0x2B, 0x2E] := by
    decide +kernel
  rw [content] at stored
  cases stored
  obtain ⟨long, compiled, -, -, failing, printed⟩ := ends (by decide +kernel)
  have one : compileLong (String.ofList (textOfBytes [0x2B, 0x2E])) = .ok "1+" := by
    decide +kernel
  rw [one] at compiled
  cases compiled
  have refused : (endedRequest.sunk endedTree ["w"] "1+").error =
      some (.write ⟨1, ["w", "dist", "y", "z.long"]⟩ .missing) := by
    decide +kernel
  obtain ⟨d, failure, -, stderr, stdout⟩ := (printed rfl rfl).1 _ refused
  cases failure
  refine ⟨failing.mpr ⟨rfl, _, refused⟩, stdout, ?_⟩
  rw [stderr]
  decide +kernel

end Command

end DeltaTape
