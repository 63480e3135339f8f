/-
# DeltaTape.Command.Outcome — what a call leaves behind

A call ends with an exit code, what it printed on the two streams, and the file
tree it leaves.
-/
import DeltaTape.Command.Usage
import DeltaTape.Failure
import DeltaTape.FileTree

namespace DeltaTape.Command

set_option autoImplicit false

/-- An exit code, what was printed, and the tree that is left. -/
structure Outcome where
  exit : ExitCode
  stdout : String
  stderr : String
  tree : FileTree

namespace Outcome

/-- A call that only prints. -/
def printed (t : FileTree) (stdout : String) : Outcome := ⟨.success, stdout, "", t⟩

/-- A call that cannot be understood. -/
def misused (t : FileTree) (scope : Scope) (m : Misuse) : Outcome :=
  ⟨.invalidArguments, "", m.report scope, t⟩

/-- A call that breaks off before it has done or said anything. -/
def brokenOff (t : FileTree) : Outcome := ⟨.buildError, "", "", t⟩

/-- A call that fails after printing `stdout` and `log`.  A verbose call traces an
internal failure. -/
def failed (t : FileTree) (stdout log : String) (verbose : Bool) (f : Failure) : Outcome :=
  ⟨f.exitCode, stdout, log ++ f.report (if verbose then traceHeading else ""), t⟩

end Outcome

/-- A printed line, without control sequences. -/
def line (text : String) : String := Text.plain text ++ "\n"

end DeltaTape.Command
