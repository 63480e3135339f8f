/-
# DeltaTape.Compiler — from a source text to long form, and on to files

Compiling reads the tokens of a source, runs them, and encodes the values of the
recorded events.  With output enabled the text is then written to the chosen
destinations.  Whatever happens, the tree that is left comes back, and the log of
what was done; where writing fails, the log ends there.

* `compileSource_compiled`: every successful compilation of a source yields the
  one text `compileLong` gives it.
-/
import DeltaTape.Failure
import DeltaTape.Machine
import DeltaTape.Sink
import DeltaTape.Text.Newline

namespace DeltaTape

set_option autoImplicit false

/-! ## The log -/

/-- How loud a log line is. -/
inductive Level where
  | debug
  | info

/-- One line of the log. -/
structure LogLine where
  level : Level
  message : String

/-- A log line as it is printed. -/
def LogLine.render (line : LogLine) : String :=
  match line.level with
  | .debug => "DEBUG: " ++ line.message ++ "\n"
  | .info => "INFO: " ++ line.message ++ "\n"

/-! ## One source -/

/-- A source text that has been read, run and encoded. -/
structure Compilation where
  tokens : List Token
  machine : Machine
  text : String

namespace Compilation

/-- The values recorded by a run, in order. -/
def values (m : Machine) : List Int := (m.events.map Event.value).toList

/-- Reads, runs and encodes a source text. -/
def ofSource (source file : String) : Except Failure Compilation :=
  let tokens := Token.scan source file
  match simulate tokens with
  | .error fault => .error (.fault fault)
  | .ok machine =>
    match LongForm.encode machine.events.toList with
    | .error limit => .error (.digitLimit limit)
    | .ok text => .ok ⟨tokens, machine, text⟩

/-- What is logged of a compilation before anything is written. -/
def log (c : Compilation) (file : String) : List LogLine :=
  let count := toString c.tokens.length
  let outputs := toString c.machine.events.size
  let skipped := (Token.instructions c.tokens).filter fun i => !i.isLinear
  let first := file ++ ": " ++ count ++ " instruction tokens"
  let skips := skipped.map fun i => "Skipping unsupported instruction " ++ i.display
  let ran := "Simulated " ++ count ++ " instructions: " ++ outputs ++ " outputs, " ++
    toString c.machine.tape.cells.size ++ " cells"
  let encoded := file ++ ": encoded " ++ outputs ++ " outputs as " ++ Text.quoted c.text
  (first :: skips ++ [ran, encoded]).map (LogLine.mk .debug)

end Compilation

/-- The long form of what a source text outputs. -/
def compileLong (source : String) : Except Failure String :=
  (Compilation.ofSource source Place.unnamed).map Compilation.text

/-! ## Sources and files -/

/-- The name of the output file unless others are chosen. -/
def defaultDestination : String := "compiled"

/-- The name of the output directory unless another is chosen. -/
def defaultDirectory : String := "dist"

/-- Where output goes. -/
structure Options where
  destinations : List String := [defaultDestination]
  directory : Path
  extension : String := Sink.defaultExtension
  writeOutput : Bool := true

/-- The output directory of a working directory unless another is chosen. -/
def Options.directoryAt (cwd : Location) : Path := (Location.path cwd).child defaultDirectory

/-- The options of a working directory. -/
def Options.at (cwd : Location) : Options := { directory := Options.directoryAt cwd }

/-- What a compilation yields. -/
structure Result where
  file : String := Place.unnamed
  tokenCount : Nat := 0
  events : Array Event := #[]
  output : Option Output := none
  written : List Path := []

/-- The long form of a result, empty before anything was compiled. -/
def Result.compiled (r : Result) : String := (r.output.map Output.compiled).getD ""

/-- What is left of a compilation: the tree, the log, and a result or a failure. -/
structure Report where
  tree : FileTree
  log : List LogLine
  result : Except Failure Result

/-- What is logged of the paths written. -/
def writtenLog (text : String) (paths : List Path) : List LogLine :=
  paths.map fun p => ⟨.debug, "Wrote " ++ toString text.length ++ " bytes to " ++ p.render⟩

/-- Compiles a source text, and writes it if that is enabled. -/
def compileSource (o : Options) (t : FileTree) (cwd : Location) (source file : String) : Report :=
  match Compilation.ofSource source file with
  | .error f => ⟨t, [], .error f⟩
  | .ok c =>
    let output : Output := ⟨o.destinations, c.text⟩
    let result : Result :=
      { file, tokenCount := c.tokens.length, events := c.machine.events, output := some output }
    if o.writeOutput then
      let sunk := Sink.write t cwd output o.directory o.extension
      let log := c.log file ++ writtenLog c.text sunk.written
      match sunk.error with
      | some e => ⟨sunk.tree, log, .error e.failure⟩
      | none =>
        let done := "Compiled " ++ file ++ " -> " ++ toString sunk.written.length ++
          " file(s) in " ++ o.directory.render
        ⟨sunk.tree, log ++ [⟨.info, done⟩], .ok { result with written := sunk.written }⟩
    else ⟨t, c.log file, .ok result⟩

/-- The text of a compilation depends on the instructions of its source only. -/
theorem Compilation.text_congr {source source' file file' : String}
    (same : Token.instructions (Token.scan source file) =
      Token.instructions (Token.scan source' file')) :
    (Compilation.ofSource source file).map Compilation.text =
      (Compilation.ofSource source' file').map Compilation.text := by
  simp only [ofSource, simulate_eq, same]
  split
  · rfl
  · split <;> rfl

/-- The text of a compilation does not depend on the name of its source. -/
theorem Compilation.text_ofSource (source file file' : String) :
    (Compilation.ofSource source file).map Compilation.text =
      (Compilation.ofSource source file').map Compilation.text :=
  text_congr (by rw [Token.instructions_scan, Token.instructions_scan])

/-- Every successful compilation of a source yields the text `compileLong` gives it. -/
theorem compileSource_compiled {o : Options} {t : FileTree} {cwd : Location}
    {source file : String} {r : Result}
    (succeeded : (compileSource o t cwd source file).result = .ok r) :
    compileLong source = .ok r.compiled := by
  unfold compileLong
  rw [Compilation.text_ofSource source Place.unnamed file]
  unfold compileSource at succeeded
  split at succeeded
  · cases succeeded
  · rename_i c compiled
    rw [compiled]
    split at succeeded
    · dsimp only at succeeded
      split at succeeded
      · cases succeeded
      · cases succeeded
        rfl
    · cases succeeded
      rfl

/-- The text of a file: UTF-8 as far as it goes, with one kind of line end. -/
def textOfBytes (bytes : List UInt8) : List Char := Text.unifyNewlines (Text.Utf8.decode bytes)

/-- Reads the text of a file. -/
def readText (t : FileTree) (cwd : Location) (p : Path) : Except Failure (List Char) :=
  if p.hasNull then .error .embeddedNull
  else
    match t.readFile cwd p with
    | .error r => .error (.ofRefusal r p.render)
    | .ok bytes => .ok (textOfBytes bytes)

/-- Compiles a source file under the name of its path. -/
def compileFile (o : Options) (t : FileTree) (cwd : Location) (p : Path) : Report :=
  match readText t cwd p with
  | .error f => ⟨t, [], .error f⟩
  | .ok source => compileSource o t cwd (String.ofList source) p.render

end DeltaTape
