/-
# DeltaTape.Command.Arguments — switches and operands of a call

An argument that starts with a dash and is not a dash alone is a switch.  A long
switch is a whole argument, with its value after an equals sign or in the next
argument; short switches are single letters and may share one argument, in which
the first that takes a value takes the rest, or the next argument when nothing
is left.  Two dashes end the switches.  Other arguments are operands; a grammar
says whether switches may still follow them.

Names are never shortened.  A value is taken whatever it looks like.

* `parse_operands`: arguments after two dashes are operands, whatever they are.
-/
import DeltaTape.Command.Usage
import DeltaTape.Text.Similarity

namespace DeltaTape.Command

set_option autoImplicit false

/-- What a call can ask for. -/
inductive Switch where
  | outputDirectory
  | name
  | stdout
  | text
  | verbose
  | version
  | help
  deriving DecidableEq

/-- Whether a switch is followed by a value. -/
def Switch.takesValue : Switch → Bool
  | outputDirectory | name => true
  | stdout | text | verbose | version | help => false

/-- The switches of a call, and whether they mix with operands. -/
structure Grammar where
  long : List (String × Switch)
  short : List (Char × Switch)
  mixed : Bool

namespace Grammar

/-- The switches of the program itself, which all stand before the command. -/
def program : Grammar where
  long := [("--version", .version), ("--help", .help)]
  short := [('V', .version)]
  mixed := false

/-- The switches of `compile`. -/
def compile : Grammar where
  long := [("--output-dir", .outputDirectory), ("--name", .name), ("--stdout", .stdout),
    ("--verbose", .verbose), ("--help", .help)]
  short := [('o', .outputDirectory), ('n', .name), ('v', .verbose)]
  mixed := true

/-- The switches of `replay`. -/
def replay : Grammar where
  long := [("--text", .text), ("--verbose", .verbose), ("--help", .help)]
  short := [('t', .text), ('v', .verbose)]
  mixed := true

end Grammar

/-- A switch with its value, which is empty for one that takes none. -/
structure Choice where
  switch : Switch
  value : String := ""
  deriving DecidableEq

/-- The switches and operands of a call, each in order. -/
structure Arguments where
  choices : List Choice := []
  operands : List String := []
  deriving DecidableEq

namespace Arguments

/-- Whether a switch was given. -/
def has (a : Arguments) (s : Switch) : Bool := a.choices.any fun c => decide (c.switch = s)

/-- The values given to a switch, in order. -/
def valuesOf (a : Arguments) (s : Switch) : List String :=
  (a.choices.filter fun c => decide (c.switch = s)).map Choice.value

/-- The last value given to a switch. -/
def lastOf? (a : Arguments) (s : Switch) : Option String := (a.valuesOf s).getLast?

/-- Puts choices in front. -/
def choosing (a : Arguments) (choices : List Choice) : Arguments :=
  { a with choices := choices ++ a.choices }

/-- Puts an operand in front. -/
def withOperand (a : Arguments) (operand : String) : Arguments :=
  { a with operands := operand :: a.operands }

end Arguments

/-- What one argument says: complete choices, and perhaps a switch, under the
name it was given, whose value is the next argument. -/
structure Reading where
  choices : List Choice
  pending : Option (Switch × String)

namespace Grammar

/-- Reads the letters of an argument with short switches. -/
def readLetters (g : Grammar) : List Char → Except Misuse Reading
  | [] => .ok ⟨[], none⟩
  | letter :: letters =>
    let name := String.ofList ['-', letter]
    match g.short.lookup letter with
    | none => .error (.noSuchOption name [])
    | some switch =>
      if switch.takesValue then
        if letters = [] then .ok ⟨[], some (switch, name)⟩
        else .ok ⟨[⟨switch, String.ofList letters⟩], none⟩
      else
        match g.readLetters letters with
        | .error m => .error m
        | .ok later => .ok ⟨⟨switch, ""⟩ :: later.choices, later.pending⟩

/-- Reads a long switch, given its name and the value after an equals sign. -/
def readLong (switch : Switch) (name : String) (value : Option String) : Except Misuse Reading :=
  if switch.takesValue then
    match value with
    | some value => .ok ⟨[⟨switch, value⟩], none⟩
    | none => .ok ⟨[], some (switch, name)⟩
  else
    match value with
    | some _ => .error (.takesNoValue name)
    | none => .ok ⟨[⟨switch, ""⟩], none⟩

/-- The name of a long switch and the value after the first equals sign. -/
def splitValue (arg : String) : String × Option String :=
  let name := String.ofList (arg.toList.takeWhile (· ≠ '='))
  match arg.toList.dropWhile (· ≠ '=') with
  | [] => (name, none)
  | _ :: value => (name, some (String.ofList value))

/-- Reads an argument that is a switch.  One that is no long switch is read as
letters, unless it starts with two dashes. -/
def read (g : Grammar) (arg : String) : Except Misuse Reading :=
  let (name, value) := splitValue arg
  match g.long.lookup name with
  | some switch => readLong switch name value
  | none =>
    if arg.toList.take 2 = ['-', '-'] then
      .error (.noSuchOption name (Text.Similarity.closest name (g.long.map Prod.fst)))
    else g.readLetters (arg.toList.drop 1)

/-- Whether an argument is a switch. -/
def isSwitch (arg : String) : Bool :=
  match arg.toList with
  | '-' :: _ :: _ => true
  | _ => false

/-- Reads the arguments of a call. -/
def parse (g : Grammar) : List String → Except Misuse Arguments
  | [] => .ok {}
  | arg :: args =>
    if arg = "--" then .ok { operands := args }
    else if isSwitch arg then
      match g.read arg with
      | .error m => .error m
      | .ok ⟨choices, none⟩ => (g.parse args).map (·.choosing choices)
      | .ok ⟨choices, some (switch, name)⟩ =>
        match args with
        | [] => .error (.needsValue name)
        | value :: args => (g.parse args).map (·.choosing (choices ++ [⟨switch, value⟩]))
    else if g.mixed then (g.parse args).map (·.withOperand arg)
    else .ok { operands := arg :: args }

/-- Arguments after two dashes are operands, whatever they are. -/
theorem parse_operands (g : Grammar) (args : List String) :
    g.parse ("--" :: args) = .ok { operands := args } := by
  rw [parse, if_pos rfl]

end Grammar

end DeltaTape.Command
