/-
# DeltaTape.Main — the program

The part of the file system that a call can look at is read into a tree, the
call is carried out on the tree, and what it changed is written back.  Links are
taken for what they lead to.
-/
import DeltaTape.Command
import DeltaTape.Command.Footprint

namespace DeltaTape.Program

set_option autoImplicit false

/-- The number under which a system refuses to read a directory as a file. -/
def directoryCode : UInt32 := UInt32.ofNat Refusal.isDirectory.code

/-- What stands at a path of the file system. -/
def entryAt (path : String) : IO (Option Entry) := do
  match ← (IO.FS.readBinFile path).toBaseIO with
  | .ok bytes => pure (some (.file bytes.toList))
  | .error (.inappropriateType _ code _) =>
    pure (if code = directoryCode then some .directory else none)
  | .error _ => pure none

/-- Reads locations of the file system into a tree. -/
def snapshot (locations : List Location) : IO FileTree :=
  locations.foldlM (fun t l => do
    match ← entryAt (Location.path l).render with
    | some entry => pure (t.set l entry)
    | none => pure t) FileTree.root

/-- The entries that one tree has and another has not, outer ones first. -/
def changes (before after : FileTree) : List (Location × Entry) :=
  let changed := after.entries.toList.filter fun (l, e) => before.get? l ≠ some e
  changed.mergeSort fun a b => decide (a.1.length ≤ b.1.length)

/-- Writes an entry to the file system. -/
def commit (l : Location) (e : Entry) : IO Unit :=
  let path := (Location.path l).render
  match e with
  | .directory => IO.FS.createDirAll path
  | .file content => IO.FS.writeBinFile path ⟨content.toArray⟩

/-- Carries out a call in the working directory. -/
def call (args : List String) : IO UInt32 := do
  let cwd : Location := (Path.ofText (toString (← IO.currentDir))).steps.reverse
  let before ← snapshot (cwd :: Command.Footprint.locations cwd args)
  let outcome := Command.run before cwd args
  for (l, e) in changes before outcome.tree do
    commit l e
  IO.print outcome.stdout
  IO.eprint outcome.stderr
  pure (UInt32.ofNat outcome.exit.number)

end DeltaTape.Program

def main (args : List String) : IO UInt32 := DeltaTape.Program.call args
