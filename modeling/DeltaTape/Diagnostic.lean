/-
# DeltaTape.Diagnostic — an error of the program, as its user reads it

A diagnostic says what is wrong, where in a text it is wrong if that is known,
and what to do about it if something can be done.  The kinds form a small tree:
every kind is a special case of those in its lineage.
-/
import DeltaTape.Place

namespace DeltaTape

set_option autoImplicit false

/-- What a diagnostic is about. -/
inductive Diagnostic.Kind where
  | general
  | longFormat
  | sink
  | outputDirectory
  | outputWrite
  deriving DecidableEq

/-- A kind and the more general kinds it belongs to, nearest first. -/
def Diagnostic.Kind.lineage : Kind → List Kind
  | general => [general]
  | longFormat => [longFormat, general]
  | sink => [sink, general]
  | outputDirectory => [outputDirectory, sink, general]
  | outputWrite => [outputWrite, sink, general]

/-- A message for the user, with its place and a hint where there are any. -/
structure Diagnostic where
  kind : Diagnostic.Kind
  message : String
  place : Option Place := none
  hint : Option String := none
  deriving DecidableEq

namespace Diagnostic

/-- The message behind its place, and the hint on a line of its own.  An empty
hint is no hint. -/
def render (d : Diagnostic) : String :=
  let located :=
    match d.place with
    | some place => place.render ++ ": error: " ++ d.message
    | none => "error: " ++ d.message
  match d.hint with
  | none | some "" => located
  | some hint => located ++ "\nhint: " ++ hint

/-- The output directory cannot be created. -/
def outputDirectory (directory reason : String) : Diagnostic where
  kind := .outputDirectory
  message := "cannot create output directory '" ++ directory ++ "': " ++ reason
  hint := some "Try deleting the dist directory"

/-- A destination file cannot be written. -/
def outputWrite (path reason : String) : Diagnostic where
  kind := .outputWrite
  message := "unable to write compiled file '" ++ path ++ "': " ++ reason

end Diagnostic

end DeltaTape
