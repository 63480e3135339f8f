/-
# DeltaTape.Proofs.Stages — what a compilation that succeeds has been through

Compiling reads a file, runs its instructions, encodes what they output and
writes the text.  Each statement here takes one of these apart: from its success
follow the success of its stages and what they handed on.

* `Compilation.ofSource_stages` and `compileLong_eq_ok`: the run and the encoding
  of a source;
* `compileSource_eq_ok` and `compileSource_unwritten`: a source with its output
  written, and without;
* `compileFile_of_stored`: a file as the source that its text is;
* `Command.run_compile` and `Command.run_replay_file`: the commands behind the
  words of a call.
-/
import Mathlib
import DeltaTape.Command

namespace DeltaTape

set_option autoImplicit false

/-- The events of a run are encoded as their values are. -/
theorem Compilation.encode_events (m : Machine) :
    LongForm.encode m.events.toList = LongForm.encode (values m) := by
  rw [LongForm.encode_eq, values, Array.toList_map]
  rfl

/-- A source that compiles has been read, run, and the values of the run encoded. -/
theorem Compilation.ofSource_stages {source file : String} {c : Compilation}
    (compiled : ofSource source file = .ok c) :
    c.tokens = Token.scan source file ∧ simulate (Token.scan source file) = .ok c.machine ∧
      LongForm.encode (values c.machine) = .ok c.text := by
  unfold ofSource at compiled
  dsimp only at compiled
  split at compiled
  · cases compiled
  · rename_i machine ran
    split at compiled
    · cases compiled
    · rename_i text encoded
      cases compiled
      exact ⟨rfl, ran, (encode_events machine).symm.trans encoded⟩

theorem Compilation.ofSource_eq_ok {source file : String} {c : Compilation}
    (compiled : ofSource source file = .ok c) :
    simulate (Token.scan source file) = .ok c.machine ∧
      LongForm.encode (values c.machine) = .ok c.text :=
  (ofSource_stages compiled).2

/-- A source has a long form exactly when it has been run and the values of the
run encoded, whatever its name. -/
theorem compileLong_eq_ok {source text : String} (file : String) :
    compileLong source = .ok text ↔
      ∃ m, simulate (Token.scan source file) = .ok m ∧
        LongForm.encode (Compilation.values m) = .ok text := by
  rw [compileLong, Compilation.text_ofSource source Place.unnamed file]
  constructor
  · intro compiled
    cases done : Compilation.ofSource source file with
    | error f => rw [done] at compiled; cases compiled
    | ok c =>
        rw [done] at compiled
        cases compiled
        exact ⟨c.machine, Compilation.ofSource_eq_ok done⟩
  · rintro ⟨m, ran, encoded⟩
    simp only [Compilation.ofSource, ran, Compilation.encode_events, encoded, Except.map]

/-- A source that compiles with output enabled has been written to its
destinations, and the tree is the one that writing left. -/
theorem compileSource_eq_ok {o : Options} {t : FileTree} {cwd : Location} {source file : String}
    {result : Result} (writing : o.writeOutput = true)
    (succeeded : (compileSource o t cwd source file).result = .ok result) :
    ∃ c, Compilation.ofSource source file = .ok c ∧
      (Sink.write t cwd ⟨o.destinations, c.text⟩ o.directory o.extension).error = none ∧
      (compileSource o t cwd source file).tree =
        (Sink.write t cwd ⟨o.destinations, c.text⟩ o.directory o.extension).tree ∧
      result.written = Sink.targets o.directory o.destinations o.extension := by
  unfold compileSource at succeeded ⊢
  cases compiled : Compilation.ofSource source file with
  | error f => rw [compiled] at succeeded; cases succeeded
  | ok c =>
      rw [compiled] at succeeded
      simp only [writing, if_true] at succeeded ⊢
      refine ⟨c, rfl, ?_⟩
      cases sunk : (Sink.write t cwd ⟨o.destinations, c.text⟩ o.directory o.extension).error with
      | some e => rw [sunk] at succeeded; cases succeeded
      | none =>
          rw [sunk] at succeeded
          cases succeeded
          exact ⟨rfl, rfl, Sink.write_written sunk⟩

/-- A result counts the tokens of its source. -/
theorem compileSource_tokenCount {o : Options} {t : FileTree} {cwd : Location}
    {source file : String} {result : Result}
    (succeeded : (compileSource o t cwd source file).result = .ok result) :
    result.tokenCount = (Token.scan source file).length := by
  unfold compileSource at succeeded
  cases compiled : Compilation.ofSource source file with
  | error f => rw [compiled] at succeeded; cases succeeded
  | ok c =>
      rw [compiled] at succeeded
      obtain ⟨tokens, -⟩ := Compilation.ofSource_stages compiled
      dsimp only at succeeded
      split at succeeded
      · split at succeeded
        · cases succeeded
        · cases succeeded
          rw [← tokens]
      · cases succeeded
        rw [← tokens]

/-- With output disabled a source compiles exactly when it has a long form, and
to that long form. -/
theorem compileSource_unwritten {o : Options} (unwritten : o.writeOutput = false) (t : FileTree)
    (cwd : Location) (source file : String) :
    (compileSource o t cwd source file).result.map Result.compiled = compileLong source := by
  rw [compileLong, Compilation.text_ofSource source Place.unnamed file, compileSource]
  cases Compilation.ofSource source file with
  | error f => rfl
  | ok c =>
      simp only [unwritten, Bool.false_eq_true, if_false]
      rfl

theorem readText_of_stored {t : FileTree} {cwd : Location} {p : Path} {bytes : List UInt8}
    (clean : p.hasNull = false) (stored : t.readFile cwd p = .ok bytes) :
    readText t cwd p = .ok (textOfBytes bytes) := by
  simp only [readText, clean, stored, Bool.false_eq_true, if_false]

theorem compileFile_of_read {t : FileTree} {cwd : Location} {p : Path} {text : List Char}
    (read : readText t cwd p = .ok text) (o : Options) :
    compileFile o t cwd p = compileSource o t cwd (String.ofList text) p.render := by
  simp only [compileFile, read]

/-- A file that can be read compiles as the source that its text is. -/
theorem compileFile_of_stored {t : FileTree} {cwd : Location} {p : Path} {bytes : List UInt8}
    (clean : p.hasNull = false) (stored : t.readFile cwd p = .ok bytes) (o : Options) :
    compileFile o t cwd p =
      compileSource o t cwd (String.ofList (textOfBytes bytes)) p.render :=
  compileFile_of_read (readText_of_stored clean stored) o

/-- A file that compiles is the source that its text is. -/
theorem compileFile_eq {o : Options} {t : FileTree} {cwd : Location} {p : Path}
    {bytes : List UInt8} {result : Result} (stored : t.readFile cwd p = .ok bytes)
    (succeeded : (compileFile o t cwd p).result = .ok result) :
    compileFile o t cwd p =
      compileSource o t cwd (String.ofList (textOfBytes bytes)) p.render := by
  cases null : p.hasNull with
  | true =>
      simp only [compileFile, readText, null, if_true] at succeeded
      cases succeeded
  | false => exact compileFile_of_stored null stored o

namespace Command

/-- A word that is no switch is the command, and what follows is left to it. -/
theorem parse_program {word : String} (plain : Grammar.isSwitch word = false) (args : List String) :
    Grammar.program.parse (word :: args) = .ok { operands := word :: args } := by
  have dashes : word ≠ "--" := by
    rintro rfl
    exact absurd plain (by decide)
  rw [Grammar.parse, if_neg dashes, if_neg (by simp [plain])]
  rfl

/-- A call that names `compile` is left to it. -/
theorem run_of_compile {t : FileTree} {cwd : Location} {call args : List String}
    (called : Grammar.program.parse call = .ok ⟨[], "compile" :: args⟩) :
    run t cwd call = runCompile t cwd args := by
  have some : call ≠ [] := by
    rintro rfl
    cases called
  rw [run, if_neg some, called]
  simp only [if_true]

/-- A call that names `replay` is left to it. -/
theorem run_of_replay {t : FileTree} {cwd : Location} {call args : List String}
    (called : Grammar.program.parse call = .ok ⟨[], "replay" :: args⟩) :
    run t cwd call = runReplay t cwd args := by
  have some : call ≠ [] := by
    rintro rfl
    cases called
  rw [run, if_neg some, called]
  simp only [show ¬ ("replay" = "compile") by decide, if_true, if_false]

/-- A call of `compile` whose arguments pass their checks carries out the request. -/
theorem run_of_request {t : FileTree} {cwd : Location} {call args : List String} {a : Arguments}
    {r : Compile.Request} (called : Grammar.program.parse call = .ok ⟨[], "compile" :: args⟩)
    (parsed : Grammar.compile.parse args = .ok a) (working : a.has .help = false)
    (checked : Compile.request t cwd a = .ok r) : run t cwd call = r.run t cwd := by
  rw [run_of_compile called]
  simp only [runCompile, parsed, working, checked, Bool.false_eq_true, if_false]

theorem run_compile {t : FileTree} {cwd : Location} {args : List String} {a : Arguments}
    {r : Compile.Request} (parsed : Grammar.compile.parse args = .ok a)
    (called : a.has .help = false) (checked : Compile.request t cwd a = .ok r) :
    run t cwd ("compile" :: args) = r.run t cwd :=
  run_of_request (parse_program (by decide) args) parsed called checked

/-- A request that ends in success has compiled its file, and leaves the tree
that compiling left. -/
theorem Compile.Request.run_eq_success {r : Request} {t : FileTree} {cwd : Location}
    (succeeded : (r.run t cwd).exit = .success) :
    ∃ result, (compileFile (r.options cwd) t cwd r.input).result = .ok result ∧
      (r.run t cwd).tree = (compileFile (r.options cwd) t cwd r.input).tree := by
  unfold Request.run at succeeded ⊢
  dsimp only at succeeded ⊢
  cases compiled : (compileFile (r.options cwd) t cwd r.input).result with
  | error f =>
      rw [compiled] at succeeded
      exact absurd succeeded f.exitCode_ne_success
  | ok result => exact ⟨result, rfl, rfl⟩

/-- A call of `replay` for a printed path to a file carries out the request. -/
theorem run_replay_file {t : FileTree} {cwd : Location} {text : String} {p : Path}
    {content : List UInt8} (typed : Path.verbatim text = p) (tidied : Path.ofText text = p)
    (clean : p.hasNull = false) (stored : t.readFile cwd p = .ok content) :
    run t cwd ["replay", "--", text] = Replay.Request.run ⟨p, false, false⟩ t cwd := by
  have passes : checkInput t cwd text = none := by
    rw [checkInput, typed]
    simp only [clean, Bool.false_eq_true, if_false]
    rw [FileTree.readFile] at stored
    cases found : t.lookup cwd p with
    | error refusal =>
        rw [found] at stored
        cases stored
    | ok entry =>
        rw [found] at stored
        cases entry with
        | directory => cases stored
        | file _ => rfl
  rw [run_of_replay (parse_program (by decide) ["--", text])]
  simp only [runReplay, Grammar.parse_operands, Replay.request, checkOperands, passes, tidied,
    if_true]
  rfl

end Command

end DeltaTape
