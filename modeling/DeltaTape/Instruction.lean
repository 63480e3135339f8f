/-
# DeltaTape.Instruction — the eight instructions and the symbols that write them

A program is a run of eight one-character symbols; every other character is a
comment.  Five of the instructions are *linear*: they move the pointer, change
the cell under it, or record it.  Reading input and the two loop brackets are
instructions too, so they are counted and carry positions, but the machine
passes over them.

* `ofSymbol?_eq_some`: a character stands for an instruction exactly when it is
  that instruction's symbol, so the symbols are distinct and none is missing.
-/

namespace DeltaTape

set_option autoImplicit false

/-- The instructions of a tape program. -/
inductive Instruction where
  | increment
  | decrement
  | moveLeft
  | moveRight
  | output
  | input
  | loopStart
  | loopEnd
  deriving DecidableEq

namespace Instruction

/-- The character that writes an instruction. -/
def symbol : Instruction → Char
  | increment => '+'
  | decrement => '-'
  | moveLeft => '<'
  | moveRight => '>'
  | output => '.'
  | input => ','
  | loopStart => '['
  | loopEnd => ']'

/-- The instructions, each once. -/
def all : List Instruction :=
  [increment, decrement, moveLeft, moveRight, output, input, loopStart, loopEnd]

/-- The instruction a character writes; a comment character writes none. -/
def ofSymbol? (c : Char) : Option Instruction := all.find? fun i => i.symbol = c

/-- The name an instruction is shown under. -/
def name : Instruction → String
  | increment => "INCREMENT"
  | decrement => "DECREMENT"
  | moveLeft => "MOVE_LEFT"
  | moveRight => "MOVE_RIGHT"
  | output => "OUTPUT"
  | input => "INPUT"
  | loopStart => "LOOP_START"
  | loopEnd => "LOOP_END"

/-- Whether the machine acts on an instruction; the others are passed over. -/
def isLinear : Instruction → Bool
  | increment | decrement | moveLeft | moveRight | output => true
  | input | loopStart | loopEnd => false

/-- How a log line shows an instruction: its name beside its quoted symbol. -/
def display (i : Instruction) : String :=
  "<Instruction." ++ i.name ++ ": '" ++ i.symbol.toString ++ "'>"

@[simp] theorem ofSymbol?_symbol (i : Instruction) : ofSymbol? i.symbol = some i := by
  cases i <;> rfl

/-- A character writes an instruction exactly when it is its symbol. -/
theorem ofSymbol?_eq_some {c : Char} {i : Instruction} :
    ofSymbol? c = some i ↔ c = i.symbol := by
  constructor
  · intro written
    have matching := List.find?_some written
    exact (of_decide_eq_true matching).symm
  · rintro rfl
    exact ofSymbol?_symbol i

end Instruction

end DeltaTape
