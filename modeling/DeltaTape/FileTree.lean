/-
# DeltaTape.FileTree — directories and files, and the refusals of a file system

A tree is a finite map from locations to entries.  A location lists the names
from an entry up to the root, innermost first, so a directory's parent is the
tail of its location and the root is its own parent.

A path is followed name by name from the working directory or the root.  Each
name is looked up in a directory; a double dot leads to the parent.  A path that
creates something need not lead anywhere yet, but all names before its last must.

Two trees with the same entries are equal, so what an operation leaves alone can
be said by an equation.

* `get?_set`: an assignment changes one location and no other;
* `makeDirectory_keeps`, `writeFile_keeps`: an operation that succeeds adds or
  overwrites at one location; one that is refused gives no tree at all.
-/
import Std.Data.ExtTreeMap
import DeltaTape.Path

namespace DeltaTape

set_option autoImplicit false

/-- What stands at a location. -/
inductive Entry where
  | directory
  | file (content : List UInt8)
  deriving DecidableEq

/-- The names from an entry up to the root, innermost first. -/
abbrev Location := List String

/-- The absolute path of a location. -/
def Location.path (l : Location) : Path := ⟨1, l.reverse⟩

/-- Why the file system refuses an operation. -/
inductive Refusal where
  | missing
  | alreadyExists
  | notDirectory
  | isDirectory
  | nameTooLong
  deriving DecidableEq

namespace Refusal

/-- The number a refusal is reported under. -/
def code : Refusal → Nat
  | missing => 2
  | alreadyExists => 17
  | notDirectory => 20
  | isDirectory => 21
  | nameTooLong => 36

/-- A refusal in words. -/
def reason : Refusal → String
  | missing => "No such file or directory"
  | alreadyExists => "File exists"
  | notDirectory => "Not a directory"
  | isDirectory => "Is a directory"
  | nameTooLong => "File name too long"

end Refusal

/-- Entries by location. -/
@[ext] structure FileTree where
  entries : Std.ExtTreeMap Location Entry

namespace FileTree

/-- Nothing but the root directory. -/
def root : FileTree := ⟨(∅ : Std.ExtTreeMap Location Entry).insert [] .directory⟩

/-- What stands at a location. -/
def get? (t : FileTree) (l : Location) : Option Entry := t.entries[l]?

/-- The tree with an entry put at a location. -/
def set (t : FileTree) (l : Location) (e : Entry) : FileTree := ⟨t.entries.insert l e⟩

/-- An assignment changes one location and no other. -/
theorem get?_set (t : FileTree) (l l' : Location) (e : Entry) :
    (t.set l e).get? l' = if l = l' then some e else t.get? l' := by
  simp [set, get?, Std.ExtTreeMap.getElem?_insert]

/-- Trees with the same entries are equal. -/
theorem ext_get? {t u : FileTree} (same : ∀ l, t.get? l = u.get? l) : t = u :=
  FileTree.ext (Std.ExtTreeMap.ext_getElem? same)

/-! ## Following paths -/

/-- The longest name, in bytes. -/
def maxName : Nat := 255

/-- The longest path, in bytes. -/
def maxPath : Nat := 4095

/-- Where a name leads from a location, whether or not anything stands there. -/
def reach (t : FileTree) (here : Location) (name : String) : Except Refusal Location :=
  match t.get? here with
  | none => .error .missing
  | some (.file _) => .error .notDirectory
  | some .directory =>
    if name = "" ∨ name = "." then .ok here
    else if name = ".." then .ok here.tail
    else if maxName < name.utf8ByteSize then .error .nameTooLong
    else .ok (name :: here)

/-- Where a name leads from a location, if something stands there. -/
def enter (t : FileTree) (here : Location) (name : String) : Except Refusal Location :=
  match t.reach here name with
  | .error r => .error r
  | .ok there => if (t.get? there).isSome then .ok there else .error .missing

/-- Follows names one by one, as far as entries stand there. -/
def walk (t : FileTree) : Location → List String → Except Refusal Location
  | here, [] => .ok here
  | here, name :: names =>
    match t.enter here name with
    | .error r => .error r
    | .ok there => t.walk there names

/-- Where a path starts. -/
def start (cwd : Location) (p : Path) : Location := if p.slashes = 0 then cwd else []

/-- Refuses a path that is too long, or empty, before it is followed. -/
def turnsAway? (p : Path) : Option Refusal :=
  if maxPath < p.render.utf8ByteSize then some .nameTooLong
  else if p.render = "" then some .missing
  else none

/-- The location of an entry a path leads to. -/
def resolve (t : FileTree) (cwd : Location) (p : Path) : Except Refusal Location :=
  match turnsAway? p with
  | some r => .error r
  | none => t.walk (start cwd p) p.steps

/-- The location a path names, whose last name need not lead anywhere yet. -/
def slot (t : FileTree) (cwd : Location) (p : Path) : Except Refusal Location :=
  match turnsAway? p with
  | some r => .error r
  | none =>
    match p.steps.getLast? with
    | none => .ok (start cwd p)
    | some name =>
      match t.walk (start cwd p) p.steps.dropLast with
      | .error r => .error r
      | .ok here => t.reach here name

/-- What a path leads to. -/
def lookup (t : FileTree) (cwd : Location) (p : Path) : Except Refusal Entry :=
  match t.resolve cwd p with
  | .error r => .error r
  | .ok l =>
    match t.get? l with
    | some e => .ok e
    | none => .error .missing

/-- Whether a path leads to a directory. -/
def hasDirectory (t : FileTree) (cwd : Location) (p : Path) : Bool :=
  match t.lookup cwd p with
  | .ok .directory => true
  | _ => false

/-! ## Operations -/

/-- The content of the file a path leads to. -/
def readFile (t : FileTree) (cwd : Location) (p : Path) : Except Refusal (List UInt8) :=
  match t.lookup cwd p with
  | .error r => .error r
  | .ok .directory => .error .isDirectory
  | .ok (.file content) => .ok content

/-- Writes a file, creating it if it is not there. -/
def writeFile (t : FileTree) (cwd : Location) (p : Path) (content : List UInt8) :
    Except Refusal FileTree :=
  match t.slot cwd p with
  | .error r => .error r
  | .ok l =>
    if t.get? l = some .directory then .error .isDirectory else .ok (t.set l (.file content))

/-- Creates a directory where there is nothing. -/
def makeDirectory (t : FileTree) (cwd : Location) (p : Path) : Except Refusal FileTree :=
  match t.slot cwd p with
  | .error r => .error r
  | .ok l => if (t.get? l).isSome then .error .alreadyExists else .ok (t.set l .directory)

/-- A refusal to create a directory, unless the directory is there all the same. -/
def unlessDirectory (t : FileTree) (cwd : Location) (p : Path) (r : Refusal) : Option Refusal :=
  if t.hasDirectory cwd p then none else some r

/-- Creates a directory and those above it that are missing, the names given
innermost first.  What was created before a refusal stays. -/
def makeChain (cwd : Location) (slashes : Nat) :
    List String → FileTree → FileTree × Option Refusal
  | [], t =>
    match t.makeDirectory cwd ⟨slashes, []⟩ with
    | .ok t' => (t', none)
    | .error r => (t, t.unlessDirectory cwd ⟨slashes, []⟩ r)
  | name :: above, t =>
    let p : Path := ⟨slashes, (name :: above).reverse⟩
    match t.makeDirectory cwd p with
    | .ok t' => (t', none)
    | .error .missing =>
      match makeChain cwd slashes above t with
      | (t', some r) => (t', some r)
      | (t', none) =>
        match t'.makeDirectory cwd p with
        | .ok t'' => (t'', none)
        | .error .missing => (t', some .missing)
        | .error r => (t', t'.unlessDirectory cwd p r)
    | .error r => (t, t.unlessDirectory cwd p r)

/-- Creates the directory a path names, with the missing ones above it.  A
directory that is already there is left as it is. -/
def makeDirectories (t : FileTree) (cwd : Location) (p : Path) : FileTree × Option Refusal :=
  makeChain cwd p.slashes p.steps.reverse t

/-- Everything below a location, by its path from there, in the order of these
paths as text. -/
def below (t : FileTree) (top : Location) : List (String × Entry) :=
  let inside := t.entries.toList.filterMap fun (l, e) =>
    if top.length < l.length ∧ l.drop (l.length - top.length) = top then
      some (String.intercalate "/" (l.take (l.length - top.length)).reverse, e)
    else none
  inside.mergeSort fun a b => decide (a.1 ≤ b.1)

/-! ## What operations leave alone -/

/-- A written file stands where the path names; all else is as it was. -/
theorem writeFile_keeps {t t' : FileTree} {cwd : Location} {p : Path} {content : List UInt8}
    (written : t.writeFile cwd p content = .ok t') :
    ∃ l, t.slot cwd p = .ok l ∧ t.get? l ≠ some .directory ∧ t' = t.set l (.file content) := by
  unfold writeFile at written
  split at written
  · cases written
  · rename_i l found
    split at written
    · cases written
    · rename_i free
      exact ⟨l, found, free, by cases written; rfl⟩

/-- A created directory stands where nothing stood; all else is as it was. -/
theorem makeDirectory_keeps {t t' : FileTree} {cwd : Location} {p : Path}
    (made : t.makeDirectory cwd p = .ok t') :
    ∃ l, t.slot cwd p = .ok l ∧ t.get? l = none ∧ t' = t.set l .directory := by
  unfold makeDirectory at made
  split at made
  · cases made
  · rename_i l found
    split at made
    · cases made
    · rename_i free
      exact ⟨l, found, by simpa using free, by cases made; rfl⟩

end FileTree

end DeltaTape
