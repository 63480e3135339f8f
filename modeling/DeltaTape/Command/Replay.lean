/-
# DeltaTape.Command.Replay — print what a long-form file stands for

The file is read as text and blanks at its ends are dropped; the rest must be
long form.  The values are printed as numbers, one to a line, or as characters
by their remainder modulo 256.  A number too long to print ends the call where
it stands, after the lines before it.
-/
import DeltaTape.Command.Arguments
import DeltaTape.Command.Check
import DeltaTape.Command.Outcome
import DeltaTape.Compiler
import DeltaTape.Text.Blank

namespace DeltaTape.Command.Replay

set_option autoImplicit false

/-- A call of `replay` that has passed its checks. -/
structure Request where
  input : Path
  text : Bool
  verbose : Bool
  deriving DecidableEq

/-- Checks the arguments of a call. -/
def request (t : FileTree) (cwd : Location) (a : Arguments) : Except Objection Request :=
  match checkOperands t cwd a.operands with
  | .error objection => .error objection
  | .ok input =>
    .ok { input := Path.ofText input, text := a.has .text, verbose := a.has .verbose }

/-- The values of a long-form file. -/
def readValues (t : FileTree) (cwd : Location) (p : Path) : Except Failure (List Int) :=
  match readText t cwd p with
  | .error f => .error f
  | .ok text =>
    match LongForm.replay (String.ofList (Text.trimmed text)) p.render with
    | .error e => .error (.ofReadError e)
    | .ok values => .ok values

/-- Values as characters. -/
def characters (values : List Int) : String :=
  String.ofList (values.map fun v => Char.ofNat (v.emod 256).toNat)

/-- Values as lines, up to the first that is too long to print. -/
def numberLines : List Int → String × Option DigitLimit
  | [] => ("", none)
  | value :: values =>
    match Decimal.ofInt value with
    | .error limit => ("", some limit)
    | .ok digits =>
      let (lines, limit) := numberLines values
      (line digits ++ lines, limit)

/-- What a verbose call prints before the values. -/
def Request.opening (r : Request) (values : List Int) : String :=
  if r.verbose then
    line ("Replayed " ++ toString values.length ++ " outputs from " ++ r.input.render)
  else ""

/-- Carries out a call. -/
def Request.run (r : Request) (t : FileTree) (cwd : Location) : Outcome :=
  match readValues t cwd r.input with
  | .error f => .failed t "" "" r.verbose f
  | .ok values =>
    if r.text then .printed t (r.opening values ++ Text.plain (characters values))
    else
      match numberLines values with
      | (lines, none) => .printed t (r.opening values ++ lines)
      | (lines, some limit) =>
        .failed t (r.opening values ++ lines) "" r.verbose (.digitLimit limit)

end DeltaTape.Command.Replay
