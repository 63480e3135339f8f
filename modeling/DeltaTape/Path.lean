/-
# DeltaTape.Path — paths as text, taken apart at their slashes

A path is a number of leading slashes and the names between the slashes that
follow.  `Path.verbatim` keeps a text exactly, empty names and dots included.
`Path.ofText` tidies it: empty names and single dots are dropped, two leading
slashes stay two and any other number becomes one; a double dot is kept, since
it takes a file tree to tell where it leads.

A path that starts with a slash, joined to another, replaces it.
-/

namespace DeltaTape

set_option autoImplicit false

/-- Leading slashes, and the names to follow from there. -/
structure Path where
  slashes : Nat
  steps : List String
  deriving DecidableEq

namespace Path

/-- The pieces of a text between its slashes; there is always at least one. -/
def pieces : List Char → List (List Char)
  | [] => [[]]
  | c :: text =>
    if c = '/' then [] :: pieces text
    else
      match pieces text with
      | [] => [[c]]
      | piece :: others => (c :: piece) :: others

/-- A text taken apart, with nothing dropped. -/
def verbatim (text : String) : Path where
  slashes := (text.toList.takeWhile (· = '/')).length
  steps := (pieces (text.toList.dropWhile (· = '/'))).map String.ofList

/-- Whether a name leads anywhere but to the place it stands at. -/
def isStep (name : String) : Bool := !(name = "" || name = ".")

/-- Leading slashes as a tidy path has them. -/
def tidySlashes : Nat → Nat
  | 0 => 0
  | 2 => 2
  | _ => 1

/-- The tidy path a text stands for. -/
def ofText (text : String) : Path where
  slashes := tidySlashes (verbatim text).slashes
  steps := (verbatim text).steps.filter isStep

/-- A path as text; the empty path is a dot. -/
def render (p : Path) : String :=
  if p.slashes = 0 ∧ p.steps = [] then "."
  else String.ofList (List.replicate p.slashes '/') ++ String.intercalate "/" p.steps

/-- The path to follow from `p`; one that starts with a slash replaces `p`. -/
def join (p q : Path) : Path := if q.slashes = 0 then ⟨p.slashes, p.steps ++ q.steps⟩ else q

/-- What a text names below a path. -/
def child (p : Path) (text : String) : Path := p.join (ofText text)

/-- The path without its last name. -/
def parent (p : Path) : Path := ⟨p.slashes, p.steps.dropLast⟩

/-- Whether a path holds a null character, which no file name can. -/
def hasNull (p : Path) : Bool := p.render.toList.contains '\x00'

end Path

end DeltaTape
