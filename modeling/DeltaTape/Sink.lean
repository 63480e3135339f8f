/-
# DeltaTape.Sink — one text written to several destinations

The output directory is created with whatever is missing above it; then the text
is written to one file per destination, in order, each named by the destination
and an extension below the directory.  The first refusal ends the work, and what
was done before it stays done.

A path with a null character is turned away before the file system sees it.

* `writeAll_written`: without an error, exactly the given paths were written, in
  order;
* `write_written`: likewise for the destinations of an output.
-/
import DeltaTape.Failure
import DeltaTape.FileTree
import DeltaTape.Text.Utf8

namespace DeltaTape

set_option autoImplicit false

/-- A text and the names it is to be written under. -/
structure Output where
  destinations : List String
  compiled : String
  deriving DecidableEq

namespace Sink

/-- The extension of a destination file unless another is chosen. -/
def defaultExtension : String := ".long"

/-- Why the work ended early. -/
inductive Error where
  | directory (path : Path) (refusal : Refusal)
  | write (path : Path) (refusal : Refusal)
  | embeddedNull
  deriving DecidableEq

/-- How the user reads of it. -/
def Error.failure : Error → Failure
  | directory p r => .diagnostic (.outputDirectory p.render r.reason)
  | write p r => .diagnostic (.outputWrite p.render r.reason)
  | embeddedNull => .embeddedNull

/-- The tree that is left, the paths written, and what ended the work early. -/
structure Report where
  tree : FileTree
  written : List Path
  error : Option Error

/-- The path of each destination. -/
def targets (directory : Path) (destinations : List String) (extension : String) : List Path :=
  destinations.map fun name => directory.child (name ++ extension)

/-- Writes the same content to each path in order. -/
def writeAll (cwd : Location) (content : List UInt8) : FileTree → List Path → Report
  | t, [] => ⟨t, [], none⟩
  | t, p :: paths =>
    if p.hasNull then ⟨t, [], some .embeddedNull⟩
    else
      match t.writeFile cwd p content with
      | .error r => ⟨t, [], some (.write p r)⟩
      | .ok t' =>
        let later := writeAll cwd content t' paths
        { later with written := p :: later.written }

/-- Writes an output below a directory. -/
def write (t : FileTree) (cwd : Location) (output : Output) (directory : Path)
    (extension : String) : Report :=
  if directory.hasNull then ⟨t, [], some .embeddedNull⟩
  else
    match t.makeDirectories cwd directory with
    | (t', some r) => ⟨t', [], some (.directory directory r)⟩
    | (t', none) =>
      writeAll cwd (Text.Utf8.encode output.compiled) t'
        (targets directory output.destinations extension)

/-- Without an error, exactly the given paths were written, in order. -/
theorem writeAll_written {cwd : Location} {content : List UInt8} {t : FileTree}
    {paths : List Path} (succeeded : (writeAll cwd content t paths).error = none) :
    (writeAll cwd content t paths).written = paths := by
  induction paths generalizing t with
  | nil => rfl
  | cons p paths ih =>
      unfold writeAll at succeeded ⊢
      split at succeeded
      · cases succeeded
      · rename_i clean
        rw [if_neg clean]
        cases outcome : t.writeFile cwd p content with
        | error r => rw [outcome] at succeeded; cases succeeded
        | ok t' =>
            rw [outcome] at succeeded
            exact congrArg (p :: ·) (ih succeeded)

/-- Without an error, the paths written are those of the destinations. -/
theorem write_written {t : FileTree} {cwd : Location} {output : Output} {directory : Path}
    {extension : String} (succeeded : (write t cwd output directory extension).error = none) :
    (write t cwd output directory extension).written =
      targets directory output.destinations extension := by
  unfold write at succeeded ⊢
  split at succeeded
  · cases succeeded
  · rename_i clean
    rw [if_neg clean]
    cases made : t.makeDirectories cwd directory with
    | mk t' refusal =>
        rw [made] at succeeded
        cases refusal with
        | some r => cases succeeded
        | none => exact writeAll_written succeeded

end Sink

end DeltaTape
