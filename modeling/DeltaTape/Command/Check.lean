/-
# DeltaTape.Command.Check — arguments held against the file tree

Both commands take one input file.  It is looked up as it was typed, before the
path is tidied, so a slash behind the name of a file is a mistake.  Whatever
keeps an input from being found, it is said not to exist.  An output directory
need not exist, but it must not be a file.
-/
import DeltaTape.Command.Usage
import DeltaTape.FileTree

namespace DeltaTape.Command

set_option autoImplicit false

/-- What is wrong with an argument: it is a misuse, or it cannot be a path. -/
inductive Objection where
  | misuse (m : Misuse)
  | embeddedNull
  deriving DecidableEq

/-- Checks that an argument names a file. -/
def checkInput (t : FileTree) (cwd : Location) (text : String) : Option Objection :=
  let p := Path.verbatim text
  if p.hasNull then some .embeddedNull
  else
    match t.lookup cwd p with
    | .error _ => some (.misuse (.absentInput text))
    | .ok .directory => some (.misuse (.directoryInput text))
    | .ok (.file _) => none

/-- Checks that an argument does not name a file. -/
def checkDirectory (t : FileTree) (cwd : Location) (text : String) : Option Objection :=
  let p := Path.verbatim text
  if p.hasNull then some .embeddedNull
  else
    match t.lookup cwd p with
    | .ok (.file _) => some (.misuse (.fileDirectory text))
    | _ => none

/-- Checks the operands of a command, which takes one input file. -/
def checkOperands (t : FileTree) (cwd : Location) : List String → Except Objection String
  | [] => .error (.misuse .missingInput)
  | input :: others =>
    match checkInput t cwd input with
    | some objection => .error objection
    | none => if others = [] then .ok input else .error (.misuse (.extraArguments others))

end DeltaTape.Command
