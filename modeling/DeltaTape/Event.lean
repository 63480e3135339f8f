/-
# DeltaTape.Event — what an output records, and what counts for a value

An output instruction records the value of a cell, together with the cell and
with its own position in the run.  Where values are asked for, a number counts
for itself and an event for the value it recorded, and the two may be mixed.
-/

namespace DeltaTape

set_option autoImplicit false

/-- What an output instruction recorded: the cell's value, which cell it was,
and the position of the instruction in the run. -/
structure Event where
  value : Int
  pointer : Int := 0
  index : Int := 0
  deriving DecidableEq

/-- What counts for a value. -/
class Valued (σ : Type) where
  value : σ → Int

/-- A number counts for itself. -/
@[default_instance] instance : Valued Int := ⟨id⟩

/-- An event counts for the value it recorded. -/
instance : Valued Event := ⟨Event.value⟩

/-- Events and numbers mixed. -/
instance : Valued (Event ⊕ Int) := ⟨Sum.elim Valued.value Valued.value⟩

end DeltaTape
