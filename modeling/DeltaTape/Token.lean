/-
# DeltaTape.Token — instructions read from a source text, with their positions

A `Reader` stands somewhere in a source text: it knows the line and column of
the next character and what is left to read.  `Reader.next?` passes over
comments up to the next instruction; `Reader.rest` reads all that are left.
Reading never fails: a text without instructions has no tokens.

* `Reader.rest_of_next?`: taking one token and then the rest gives the same
  tokens, with the same positions, as reading the rest at once;
* `Reader.next?_eq_none`: nothing is delivered exactly when nothing is left;
* `Reader.pull_append_rest`: no way of asking loses or repeats a token;
* `Token.instructions_scan`: the instructions of a source are its symbols in order.
-/
import DeltaTape.Instruction
import DeltaTape.Place
import DeltaTape.Text.Decimal

namespace DeltaTape

set_option autoImplicit false

/-- One instruction of a source text and where it stands. -/
structure Token where
  instruction : Instruction
  line : Nat
  column : Nat
  file : String := Place.unnamed
  deriving DecidableEq

namespace Token

/-- The place a token was read at. -/
def place (t : Token) : Place := ⟨t.file, t.line, t.column⟩

/-- A token as text: its instruction's name, then its line and column. -/
def display (t : Token) : Except DigitLimit String := do
  let line ← Decimal.ofNat t.line
  let column ← Decimal.ofNat t.column
  pure ("Token(" ++ t.instruction.name ++ ", " ++ line ++ ":" ++ column ++ ")")

/-- The instructions of a token list, without positions. -/
def instructions (tokens : List Token) : List Instruction := tokens.map instruction

end Token

/-- A line and column of a source text, both counted from one. -/
structure Spot where
  line : Nat := 1
  column : Nat := 1
  deriving DecidableEq

/-- The spot of the character after `c`: only a line feed starts a new line. -/
def Spot.after (s : Spot) (c : Char) : Spot :=
  if c = '\n' then ⟨s.line + 1, 1⟩ else ⟨s.line, s.column + 1⟩

/-- A source text being read: the spot of the next character, and the
characters not yet read. -/
structure Reader where
  file : String := Place.unnamed
  spot : Spot := {}
  ahead : List Char

namespace Reader

/-- A reader at the start of a text. -/
def start (source : String) (file : String) : Reader := ⟨file, {}, source.toList⟩

/-- The token a character makes at a spot, if it is not a comment. -/
def tokenAt? (file : String) (s : Spot) (c : Char) : Option Token :=
  (Instruction.ofSymbol? c).map fun i => ⟨i, s.line, s.column, file⟩

/-- The tokens of the characters `cs`, the first of which stands at `s`. -/
def tokensFrom (file : String) : Spot → List Char → List Token
  | _, [] => []
  | s, c :: cs =>
    match tokenAt? file s c with
    | some t => t :: tokensFrom file (s.after c) cs
    | none => tokensFrom file (s.after c) cs

/-- The first token of the characters `cs`, and the spot and characters after it. -/
def firstFrom (file : String) : Spot → List Char → Option (Token × Spot × List Char)
  | _, [] => none
  | s, c :: cs =>
    match tokenAt? file s c with
    | some t => some (t, s.after c, cs)
    | none => firstFrom file (s.after c) cs

/-- All tokens not yet delivered. -/
def rest (r : Reader) : List Token := tokensFrom r.file r.spot r.ahead

/-- A reader that has delivered everything. -/
def finish (r : Reader) : Reader :=
  { r with spot := r.ahead.foldl Spot.after r.spot, ahead := [] }

/-- The next token and the reader after it, or nothing when none is left. -/
def next? (r : Reader) : Option (Token × Reader) :=
  (firstFrom r.file r.spot r.ahead).map fun (t, s, cs) => (t, ⟨r.file, s, cs⟩)

/-- What may be asked of a reader: its next token, all that are left, or to begin
delivering anew, which goes on where it stands. -/
inductive Pull where
  | next
  | rest
  | renew
  deriving DecidableEq

/-- What a pull delivers, and the reader after it. -/
def pull (r : Reader) : Pull → List Token × Reader
  | .next =>
    match r.next? with
    | some (t, r') => ([t], r')
    | none => ([], r.finish)
  | .rest => (r.rest, r.finish)
  | .renew => ([], r)

theorem tokensFrom_of_firstFrom (file : String) (s : Spot) (cs : List Char) :
    tokensFrom file s cs =
      match firstFrom file s cs with
      | some (t, s', cs') => t :: tokensFrom file s' cs'
      | none => [] := by
  induction cs generalizing s with
  | nil => rfl
  | cons c cs ih =>
      simp only [tokensFrom, firstFrom]
      cases tokenAt? file s c with
      | some t => rfl
      | none => exact ih (s.after c)

/-- One token, then the rest, is the same as the rest. -/
theorem rest_of_next? {r r' : Reader} {t : Token} (delivered : r.next? = some (t, r')) :
    r.rest = t :: r'.rest := by
  unfold next? at delivered
  unfold rest
  rw [tokensFrom_of_firstFrom]
  cases h : firstFrom r.file r.spot r.ahead with
  | none => rw [h] at delivered; cases delivered
  | some found =>
      obtain ⟨t₀, s₀, cs₀⟩ := found
      rw [h] at delivered
      cases delivered
      rfl

/-- Nothing is delivered exactly when nothing is left. -/
theorem next?_eq_none {r : Reader} : r.next? = none ↔ r.rest = [] := by
  unfold next? rest
  rw [tokensFrom_of_firstFrom]
  cases firstFrom r.file r.spot r.ahead <;> simp

/-- A reader that has delivered everything has nothing left. -/
theorem rest_finish (r : Reader) : r.finish.rest = [] := rfl

/-- No pull loses or repeats a token: what it delivers and what is left after it
are what was left before. -/
theorem pull_append_rest (r : Reader) (p : Pull) : (r.pull p).1 ++ (r.pull p).2.rest = r.rest := by
  cases p with
  | next =>
      simp only [pull]
      cases delivered : r.next? with
      | none => simp [next?_eq_none.1 delivered, rest_finish]
      | some found => simp [rest_of_next? delivered]
  | rest => simp [pull, rest_finish]
  | renew => rfl

end Reader

namespace Token

/-- The tokens of a source text, in the order they stand there. -/
def scan (source : String) (file : String) : List Token := (Reader.start source file).rest

theorem instructions_tokensFrom (file : String) (s : Spot) (cs : List Char) :
    instructions (Reader.tokensFrom file s cs) = cs.filterMap Instruction.ofSymbol? := by
  induction cs generalizing s with
  | nil => rfl
  | cons c cs ih =>
      simp only [Reader.tokensFrom, Reader.tokenAt?, List.filterMap_cons]
      cases Instruction.ofSymbol? c with
      | none => exact ih (s.after c)
      | some i => exact congrArg (i :: ·) (ih (s.after c))

/-- The instructions of a source are its symbols in order, whatever its name. -/
theorem instructions_scan (source file : String) :
    instructions (scan source file) = source.toList.filterMap Instruction.ofSymbol? :=
  instructions_tokensFrom file {} source.toList

end Token

end DeltaTape
