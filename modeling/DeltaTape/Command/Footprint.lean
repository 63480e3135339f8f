/-
# DeltaTape.Command.Footprint — the locations a call can look at

A call looks at its input file, at its output directory and at its destinations,
and at what it passes on the way to them.  All of these can be told from the
working directory and the arguments alone, without a tree: that is what has to
be read of a file system before a call can be carried out on it.
-/
import DeltaTape.Command.Arguments
import DeltaTape.Compiler

namespace DeltaTape.Command.Footprint

set_option autoImplicit false

/-- Where a name leads when everything stands where it should. -/
def turn (here : Location) (name : String) : Location :=
  if name = "" ∨ name = "." then here
  else if name = ".." then here.tail
  else name :: here

/-- The locations passed in following names. -/
def trailFrom (here : Location) : List String → List Location
  | [] => [here]
  | name :: names => here :: trailFrom (turn here name) names

/-- The locations passed in following a path. -/
def trail (cwd : Location) (p : Path) : List Location :=
  trailFrom (FileTree.start cwd p) p.steps

/-- The paths that `compile` is given. -/
def compilePaths (cwd : Location) (a : Arguments) : List Path :=
  let directory := ((a.lastOf? .outputDirectory).map Path.ofText).getD (Options.directoryAt cwd)
  let names := if a.valuesOf .name = [] then [defaultDestination] else a.valuesOf .name
  a.operands.map Path.verbatim ++ directory ::
    Sink.targets directory names Sink.defaultExtension

/-- The paths that a call is given. -/
def paths (cwd : Location) (args : List String) : List Path :=
  match Grammar.program.parse args with
  | .ok ⟨_, "compile" :: rest⟩ =>
    match Grammar.compile.parse rest with
    | .ok a => compilePaths cwd a
    | .error _ => []
  | .ok ⟨_, "replay" :: rest⟩ =>
    match Grammar.replay.parse rest with
    | .ok a => a.operands.map Path.verbatim
    | .error _ => []
  | _ => []

/-- The locations a call can look at. -/
def locations (cwd : Location) (args : List String) : List Location :=
  ((paths cwd args).flatMap (trail cwd)).eraseDups

end DeltaTape.Command.Footprint
