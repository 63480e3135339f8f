/-
# DeltaTape.Failure — everything that can go wrong, its wording, and its exit code

A failure is a cause; its wording is a function of the cause.  Diagnostics are
failures of the user's program or of writing its output.  A bad argument, a
missing file and a denied permission are failures of the command line.  All else
is internal: it should not happen, and a trace may be printed after it.

* `exitCode_ne_success`: no failure ends in success.
-/
import DeltaTape.Diagnostic
import DeltaTape.FileTree
import DeltaTape.LongForm
import DeltaTape.Tape
import DeltaTape.Text.Plain

namespace DeltaTape

set_option autoImplicit false

/-- How a command ends. -/
inductive ExitCode where
  | success
  | buildError
  | invalidArguments
  | internalError
  deriving DecidableEq

/-- The number a command ends with. -/
def ExitCode.number : ExitCode → Nat
  | success => 0
  | buildError => 1
  | invalidArguments => 2
  | internalError => 3

/-! ## Failures from outside -/

/-- One particular of a failure that comes from outside the program. -/
inductive Detail where
  | number (n : Int)
  | truth (b : Bool)
  | text (s : String)
  | nothing
  deriving DecidableEq

namespace Detail

/-- A particular by itself. -/
def plain : Detail → String
  | number n => toString n
  | truth b => if b then "True" else "False"
  | text s => s
  | nothing => "None"

/-- A particular among others: text is quoted. -/
def quoted : Detail → String
  | text s => Text.quoted s
  | d => d.plain

/-- Particulars as one text: none is empty, one stands by itself, several stand
in brackets. -/
def listed : List Detail → String
  | [] => ""
  | [d] => d.plain
  | ds => "(" ++ String.intercalate ", " (ds.map quoted) ++ ")"

/-- The number a particular counts as; a truth value counts as zero or one. -/
def count? : Detail → Option Int
  | number n => some n
  | truth b => some (if b then 1 else 0)
  | text _ => none
  | nothing => none

end Detail

/-- The kinds of failure of the system that are told apart. -/
inductive SystemKind where
  | missing
  | denied
  | alreadyExists
  | notDirectory
  | isDirectory
  | wouldBlock
  | other
  deriving DecidableEq

namespace SystemKind

/-- The kind a number stands for. -/
def ofCode : Int → SystemKind
  | 1 | 13 => denied
  | 2 => missing
  | 11 | 114 | 115 => wouldBlock
  | 17 => alreadyExists
  | 20 => notDirectory
  | 21 => isDirectory
  | _ => other

/-- The kind of a failure that is known by its particulars alone: a number with
a reason, and no more than belongs to them, stands for a kind. -/
def ofDetails : List Detail → SystemKind
  | code :: _ :: others =>
    if others.length ≤ 3 then (code.count?.map ofCode).getD other else other
  | _ => other

/-- What a failure was about.  When something would block, a number says how much
was done before it did. -/
def subject? (kind : SystemKind) (d : Detail) : Option Detail :=
  if d = .nothing then none
  else if kind = .wouldBlock ∧ d.count?.isSome then none
  else some d

/-- Whether the amount done before something would block is no signed number of
sixty-four bits. -/
def amountOverflows (kind : SystemKind) : List Detail → Bool
  | _ :: _ :: amount :: _ =>
    decide (kind = .wouldBlock) && amount.count?.any fun n =>
      decide (n < -9223372036854775808 ∨ 9223372036854775807 < n)
  | _ => false

/-- What the subject of a failure was to become, which stands two places behind it. -/
def target : List Detail → String
  | [_, d] => if d = .nothing then "" else " -> " ++ d.quoted
  | _ => ""

/-- A failure in words: a number, a reason, perhaps what it was about and what
that was to become.  Particulars of another form are merely listed. -/
def wording (kind : SystemKind) : List Detail → String
  | [] => ""
  | [d] => d.plain
  | code :: reason :: others =>
    let start := "[Errno " ++ code.plain ++ "] " ++ reason.plain
    match others with
    | [] => start
    | about :: others' =>
      if 2 < others'.length then Detail.listed (code :: reason :: others)
      else
        match kind.subject? about with
        | none => start
        | some d => start ++ ": " ++ d.quoted ++ target others'

end SystemKind

/-! ## All failures -/

/-- The cause of a failure. -/
inductive Failure where
  | diagnostic (d : Diagnostic)
  | badArgument (message : String)
  | system (kind : SystemKind) (details : List Detail)
  | digitLimit (limit : DigitLimit)
  | fault (f : Fault)
  | embeddedNull
  | amountOverflow
  | unexpected (details : List Detail)
  deriving DecidableEq

namespace Failure

/-- The file system refused something about a path. -/
def ofRefusal (r : Refusal) (path : String) : Failure :=
  .system (.ofCode r.code) [.number r.code, .text r.reason, .text path]

/-- The failure of the system that particulars stand for, unless an amount among
them overflows. -/
def ofDetails (details : List Detail) : Except Failure Failure :=
  let kind := SystemKind.ofDetails details
  if kind.amountOverflows details then .error .amountOverflow else .ok (.system kind details)

/-- A text that is not long form. -/
def ofReadError : LongForm.ReadError → Failure
  | .tooLong limit => .digitLimit limit
  | .malformed d => .diagnostic d

/-- A failure in words. -/
def message : Failure → String
  | diagnostic d => d.render
  | badArgument message => message
  | system kind details => kind.wording details
  | digitLimit limit => limit.message
  | fault f => f.message
  | embeddedNull => "embedded null byte"
  | amountOverflow => "cannot fit 'int' into an index-sized integer"
  | unexpected details => Detail.listed details

/-- The exit code of a command that fails. -/
def exitCode : Failure → ExitCode
  | diagnostic _ => .buildError
  | badArgument _ => .invalidArguments
  | system .missing _ => .invalidArguments
  | system .denied _ => .invalidArguments
  | system _ _ => .internalError
  | digitLimit _ => .internalError
  | fault _ => .internalError
  | embeddedNull => .internalError
  | amountOverflow => .internalError
  | unexpected _ => .internalError

/-- What stands before the wording of a failure that ends with a code.  A
diagnostic speaks for itself. -/
def heading : ExitCode → String
  | .success => ""
  | .buildError => ""
  | .invalidArguments => "Error: "
  | .internalError => "Internal error: "

/-- What is printed of a failure; `trace` follows an internal one. -/
def report (f : Failure) (trace : String) : String :=
  let line := Text.plain (heading f.exitCode ++ f.message) ++ "\n"
  if f.exitCode = .internalError then line ++ trace else line

/-- No failure ends in success. -/
theorem exitCode_ne_success (f : Failure) : f.exitCode ≠ .success := by
  fun_cases exitCode f <;> simp

end Failure

/-- What is printed of a failure for its wording alone, and the code it ends the
program with if it is fatal. -/
def Failure.announce (f : Failure) (fatal : Bool) : Option ExitCode × String :=
  (if fatal then some .buildError else none, Text.plain f.message ++ "\n")

/-- The trace of a failure that is reported without having happened. -/
def idleTrace : String := "NoneType: None\n"

/-- How the trace of a failure that has happened begins.  The calls that led to the
failure, which a trace goes on to name, are not known here. -/
def traceHeading : String := "Traceback (most recent call last):\n"

end DeltaTape
