/-
# DeltaTape.LongForm — output values written as the changes between them

The long form of a list of values is a run of steps without separators.  Each
step is the distance from the value before it, the first from zero, in decimal,
followed by the direction: `+` for up or unchanged, `-` for down.  So the values
3, 3, 5, 1 are written `3+0+2+4-`.

`encode` writes a list of values, which may be carried by events; `replay` reads
a text back.  Reading is more generous than writing: it takes leading zeros, and a
zero step down.

A text is first cut into whole steps as far as they go (`Step.scan`), and what
stops the cutting short of the end is a `BadStep`.  The steps are then summed
up.  A step with too many digits is reported before a bad step, which can only
come after it.

* `encode_eq`: values are written by themselves as what carries them is;
* `Step.scan_text`: the whole steps of a text, written out again, begin the text,
  and nothing follows them exactly when nothing is wrong.
-/
import DeltaTape.Diagnostic
import DeltaTape.Event
import DeltaTape.Text.Decimal
import DeltaTape.Text.Quoted

namespace DeltaTape.LongForm

set_option autoImplicit false

/-- The direction of a step. -/
inductive Sign where
  | up
  | down
  deriving DecidableEq

namespace Sign

/-- The character that ends a step. -/
def symbol : Sign → Char
  | up => '+'
  | down => '-'

/-- The direction a character stands for. -/
def ofSymbol? (c : Char) : Option Sign :=
  if c = '+' then some up else if c = '-' then some down else none

/-- A distance in a direction. -/
def apply : Sign → Nat → Int
  | up, distance => distance
  | down, distance => -distance

theorem ofSymbol?_eq_some {c : Char} {s : Sign} (written : ofSymbol? c = some s) :
    c = s.symbol := by
  unfold ofSymbol? at written
  split at written
  · cases written
    assumption
  · split at written
    · cases written
      assumption
    · cases written

end Sign

/-! ## Writing -/

/-- The changes from each value to the next, starting at `previous`. -/
def deltasFrom : Int → List Int → List Int
  | _, [] => []
  | previous, value :: values => (value - previous) :: deltasFrom value values

/-- One change as a step; no change is a step up. -/
def writeStep (delta : Int) : Except DigitLimit String :=
  (Decimal.ofNat delta.natAbs).map fun digits => if delta < 0 then digits ++ "-" else digits ++ "+"

/-- Changes as steps, one behind the other. -/
def writeSteps : List Int → Except DigitLimit String
  | [] => .ok ""
  | delta :: deltas => do
      let step ← writeStep delta
      let steps ← writeSteps deltas
      pure (step ++ steps)

/-- The long form of a list of values, each a number by itself or carried by an event. -/
def encode {σ : Type} [Valued σ] (samples : List σ) : Except DigitLimit String :=
  writeSteps (deltasFrom 0 (samples.map Valued.value))

theorem encode_values (values : List Int) : encode values = writeSteps (deltasFrom 0 values) :=
  congrArg (fun values => writeSteps (deltasFrom 0 values)) (List.map_id values)

/-- Values are written by themselves as what carries them is. -/
theorem encode_eq {σ : Type} [Valued σ] (samples : List σ) :
    encode samples = encode (samples.map Valued.value) :=
  (encode_values _).symm

/-! ## Reading -/

/-- A step as it is written. -/
structure Step where
  digits : List Char
  sign : Sign
  deriving DecidableEq

/-- Why a text does not go on with a whole step: its digits end with the text,
its digits are followed by something other than a sign, or it has no digits. -/
inductive BadStep where
  | unended (digits : List Char)
  | unsigned (digits : List Char)
  | unexpected (c : Char)
  deriving DecidableEq

namespace Step

/-- The change a step stands for. -/
def amount (s : Step) : Except DigitLimit Int := (Decimal.toNat s.digits).map s.sign.apply

/-- The characters of a step. -/
def text (s : Step) : List Char := s.digits ++ [s.sign.symbol]

/-- Cuts a text into steps.  The digits of the step being read are held backwards. -/
def scanFrom (held : List Char) : List Char → List Step × Option BadStep
  | [] => ([], if held = [] then none else some (.unended held.reverse))
  | c :: text =>
    if c.isDigit then scanFrom (c :: held) text
    else if held = [] then ([], some (.unexpected c))
    else
      match Sign.ofSymbol? c with
      | some sign =>
        let (steps, bad) := scanFrom [] text
        (⟨held.reverse, sign⟩ :: steps, bad)
      | none => ([], some (.unsigned held.reverse))

/-- The whole steps a text begins with, and what keeps it from being nothing else. -/
def scan (text : String) : List Step × Option BadStep := scanFrom [] text.toList

/-- How many characters steps take up. -/
def width (steps : List Step) : Nat := (steps.flatMap text).length

/-- The running totals of steps, starting at `total`. -/
def totalsFrom : Int → List Step → Except DigitLimit (List Int)
  | _, [] => .ok []
  | total, step :: steps => do
      let amount ← step.amount
      let later ← totalsFrom (total + amount) steps
      pure ((total + amount) :: later)

theorem scanFrom_text (held unread : List Char) :
    ∃ rest, held.reverse ++ unread = (scanFrom held unread).1.flatMap text ++ rest ∧
      ((scanFrom held unread).2 = none ↔ rest = []) := by
  induction unread generalizing held with
  | nil =>
      refine ⟨held.reverse, by simp [scanFrom], ?_⟩
      by_cases h : held = [] <;> simp [scanFrom, h]
  | cons c unread ih =>
      unfold scanFrom
      by_cases digit : c.isDigit
      · obtain ⟨rest, cut, ended⟩ := ih (c :: held)
        rw [if_pos digit]
        exact ⟨rest, by simpa using cut, ended⟩
      · rw [if_neg digit]
        by_cases h : held = []
        · rw [if_pos h]
          exact ⟨c :: unread, by simp [h], by simp⟩
        · rw [if_neg h]
          cases sign : Sign.ofSymbol? c with
          | none => exact ⟨held.reverse ++ c :: unread, by simp, by simp⟩
          | some s =>
              obtain ⟨rest, cut, ended⟩ := ih []
              refine ⟨rest, ?_, ended⟩
              rw [List.reverse_nil, List.nil_append] at cut
              rw [List.flatMap_cons, List.append_assoc, ← cut, text,
                Sign.ofSymbol?_eq_some sign]
              simp

/-- The whole steps of a text, written out again, begin the text; what follows
them is empty exactly when nothing is wrong. -/
theorem scan_text (s : String) :
    ∃ rest, s.toList = (scan s).1.flatMap text ++ rest ∧ ((scan s).2 = none ↔ rest = []) :=
  scanFrom_text [] s.toList

end Step

/-- What is wrong with a bad step. -/
def BadStep.message : BadStep → String
  | unended digits => "missing '+' or '-' after '" ++ String.ofList digits ++ "'"
  | unsigned digits => "expected '+' or '-' after '" ++ String.ofList digits ++ "'"
  | unexpected c => "unexpected character " ++ Text.quoted c.toString

/-- A bad step, placed at the column where it begins.  Long form is one line. -/
def BadStep.diagnostic (bad : BadStep) (file : String) (column : Nat) : Diagnostic where
  kind := .longFormat
  message := bad.message
  place := some ⟨file, 1, column⟩
  hint := some "long-form text is a run of <digits>+ or <digits>- steps"

/-- Why a text cannot be read. -/
inductive ReadError where
  | tooLong (limit : DigitLimit)
  | malformed (diagnostic : Diagnostic)
  deriving DecidableEq

/-- The values a text is the long form of. -/
def replay (text : String) (file : String) : Except ReadError (List Int) :=
  let (steps, bad) := Step.scan text
  match Step.totalsFrom 0 steps with
  | .error limit => .error (.tooLong limit)
  | .ok values =>
    match bad with
    | some bad => .error (.malformed (bad.diagnostic file (Step.width steps + 1)))
    | none => .ok values

end DeltaTape.LongForm
