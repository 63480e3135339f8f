/-
# DeltaTape.Command — the command line

A call names a command behind the switches of the program itself.  Without any
argument, and wherever help is asked for, the page of help is printed.  A name
that is no command is a mistake; one that could not even begin a word is taken
for a call for help.

A call is a function of the file tree, the working directory and the arguments.
An argument that is to be looked up and holds a null character breaks it off.
-/
import DeltaTape.Command.Compile
import DeltaTape.Command.Replay
import DeltaTape.Text.Word

namespace DeltaTape.Command

set_option autoImplicit false

/-- Whether a name that is no command reads as one. -/
def readsAsCommand (name : String) : Bool :=
  match name.toList with
  | [] => true
  | c :: _ => Text.isWordCharacter c

/-- The outcome of a call that fails its checks. -/
def objected (t : FileTree) (scope : Scope) : Objection → Outcome
  | .misuse m => .misused t scope m
  | .embeddedNull => .brokenOff t

/-- A call of `compile`. -/
def runCompile (t : FileTree) (cwd : Location) (args : List String) : Outcome :=
  match Grammar.compile.parse args with
  | .error m => .misused t .compile m
  | .ok a =>
    if a.has .help then .printed t Scope.compile.help
    else
      match Compile.request t cwd a with
      | .error objection => objected t .compile objection
      | .ok r => r.run t cwd

/-- A call of `replay`. -/
def runReplay (t : FileTree) (cwd : Location) (args : List String) : Outcome :=
  match Grammar.replay.parse args with
  | .error m => .misused t .replay m
  | .ok a =>
    if a.has .help then .printed t Scope.replay.help
    else
      match Replay.request t cwd a with
      | .error objection => objected t .replay objection
      | .ok r => r.run t cwd

/-- What the first switch of the program itself prints. -/
def answer (c : Choice) : String :=
  match c.switch with
  | .version => versionLine
  | _ => Scope.program.help

/-- A call of the program. -/
def run (t : FileTree) (cwd : Location) (args : List String) : Outcome :=
  if args = [] then .printed t Scope.program.help
  else
    match Grammar.program.parse args with
    | .error m => .misused t .program m
    | .ok ⟨choice :: _, _⟩ => .printed t (answer choice)
    | .ok ⟨[], []⟩ => .misused t .program .missingCommand
    | .ok ⟨[], name :: rest⟩ =>
      if name = "compile" then runCompile t cwd rest
      else if name = "replay" then runReplay t cwd rest
      else if readsAsCommand name then .misused t .program (.noSuchCommand name)
      else .printed t Scope.program.help

end DeltaTape.Command
