/-
# DeltaTape.Text.Plain — text without terminal control sequences

What is printed is stripped of control sequences: an escape character, an
opening bracket, any number of digits, semicolons and question marks, and a
letter.  The text is read once from left to right, so what the removal of one
sequence brings together is not looked at again.

* `plain_eq_self`: text without escape characters is left alone.
-/

namespace DeltaTape.Text

set_option autoImplicit false

namespace Plain

/-- The character that begins a control sequence. -/
def escape : Char := '\x1b'

/-- Whether a character may stand between the bracket and the letter. -/
def isParameter (c : Char) : Bool := c.isDigit || c = ';' || c = '?'

/-- What the beginning of a control sequence, read backwards, becomes with one
more character. -/
inductive Progress where
  | growing
  | complete
  | broken

/-- How a character continues the beginning of a control sequence. -/
def progress : List Char → Char → Progress
  | [], c => if c = escape then .growing else .broken
  | [_], c => if c = '[' then .growing else .broken
  | _ :: _ :: _, c =>
    if isParameter c then .growing else if c.isAlpha then .complete else .broken

/-- Strips the characters after the beginning of a sequence, held backwards.  A
beginning that comes to nothing is text, and the character that broke it may
begin another. -/
def strip : List Char → List Char → List Char
  | held, [] => held.reverse
  | held, c :: text =>
    match progress held c with
    | .growing => strip (c :: held) text
    | .complete => strip [] text
    | .broken =>
      held.reverse ++ (if c = escape then strip [c] text else c :: strip [] text)

theorem strip_eq_self {text : List Char} (free : escape ∉ text) : strip [] text = text := by
  induction text with
  | nil => rfl
  | cons c text ih =>
      have other : c ≠ escape := fun h => free (by simp [h])
      have rest : escape ∉ text := fun h => free (List.mem_cons_of_mem c h)
      simp [strip, progress, other, ih rest]

end Plain

/-- A text without its control sequences. -/
def plain (text : String) : String := String.ofList (Plain.strip [] text.toList)

/-- Text without escape characters is left alone. -/
theorem plain_eq_self {text : String} (free : Plain.escape ∉ text.toList) : plain text = text := by
  unfold plain
  rw [Plain.strip_eq_self free, String.ofList_toList]

end DeltaTape.Text
