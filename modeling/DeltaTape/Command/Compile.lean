/-
# DeltaTape.Command.Compile — compile a source file from the command line

The arguments are checked against the tree before anything is read: the input
must be a file, and the output directory, if one is named, must not be one.
Then the file is compiled; the long form is printed, or written and the paths
printed.  A verbose call also prints its progress, and the log on the other
stream.
-/
import DeltaTape.Command.Arguments
import DeltaTape.Command.Check
import DeltaTape.Command.Outcome
import DeltaTape.Compiler

namespace DeltaTape.Command.Compile

set_option autoImplicit false

/-- A call of `compile` that has passed its checks. -/
structure Request where
  input : Path
  directory : Option Path
  names : List String
  stdout : Bool
  verbose : Bool
  deriving DecidableEq

/-- Checks the arguments of a call, the output directory first. -/
def request (t : FileTree) (cwd : Location) (a : Arguments) : Except Objection Request :=
  let directory := a.lastOf? .outputDirectory
  match directory.bind (checkDirectory t cwd) with
  | some objection => .error objection
  | none =>
    match checkOperands t cwd a.operands with
    | .error objection => .error objection
    | .ok input =>
      .ok {
        input := Path.ofText input
        directory := directory.map Path.ofText
        names := a.valuesOf .name
        stdout := a.has .stdout
        verbose := a.has .verbose }

/-- The options a call chooses. -/
def Request.options (r : Request) (cwd : Location) : Options where
  destinations := if r.names = [] then [defaultDestination] else r.names
  directory := r.directory.getD (Options.directoryAt cwd)
  writeOutput := !r.stdout

/-- What a verbose call prints before it compiles. -/
def Request.opening (r : Request) : String :=
  if r.verbose then line ("Compiling " ++ r.input.render ++ "...") else ""

/-- What a verbose call prints of a result. -/
def Request.summary (r : Request) (result : Result) : String :=
  if r.verbose then
    line ("Tokenized: " ++ toString result.tokenCount ++ " instructions") ++
      line ("Simulated: " ++ toString result.events.size ++ " outputs")
  else ""

/-- The long form, or the paths it was written to. -/
def Request.product (r : Request) (result : Result) : String :=
  if r.stdout then line result.compiled
  else
    String.join (result.written.map fun p =>
      line ("Compiled " ++ r.input.render ++ " -> " ++ p.render))

/-- Carries out a call. -/
def Request.run (r : Request) (t : FileTree) (cwd : Location) : Outcome :=
  let report := compileFile (r.options cwd) t cwd r.input
  let log := if r.verbose then String.join (report.log.map LogLine.render) else ""
  match report.result with
  | .error f => .failed report.tree r.opening log r.verbose f
  | .ok result =>
    ⟨.success, r.opening ++ r.summary result ++ r.product result, log, report.tree⟩

end DeltaTape.Command.Compile
