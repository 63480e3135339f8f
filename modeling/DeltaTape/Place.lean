/-
# DeltaTape.Place — where in a source text something stands

A place names a file, a line and a column, all counted from one.  A column that
is not positive means that only the line is known, and is left out of the text.
-/

namespace DeltaTape

set_option autoImplicit false

/-- A line of a file, and a column of that line when it is known. -/
structure Place where
  file : String
  line : Int
  column : Int := 0
  deriving DecidableEq

/-- The file that text without a name of its own is said to come from. -/
def Place.unnamed : String := "<input>"

/-- `file:line:column`, or `file:line` when the column is not known. -/
def Place.render (p : Place) : String :=
  if 0 < p.column then
    p.file ++ ":" ++ toString p.line ++ ":" ++ toString p.column
  else
    p.file ++ ":" ++ toString p.line

end DeltaTape
