/-
# DeltaTape.Command.Usage — what the commands say of themselves

The program has two commands.  Each, and the program itself, has a line that
shows how it is called and a page of help.  A call that cannot be understood is
answered by that line, a pointer to the help and one line saying what is wrong;
two of the mistakes get the last line alone.
-/
import DeltaTape.Text.Plain
import DeltaTape.Text.Quoted

namespace DeltaTape.Command

set_option autoImplicit false

/-- What a call is addressed to. -/
inductive Scope where
  | program
  | compile
  | replay
  deriving DecidableEq

namespace Scope

/-- How it is called, without arguments. -/
def name : Scope → String
  | program => "bflong"
  | compile => "bflong compile"
  | replay => "bflong replay"

/-- How it is called. -/
def usage : Scope → String
  | program => "Usage: bflong [OPTIONS] COMMAND [ARGS]..."
  | compile => "Usage: bflong compile [OPTIONS] INPUT_FILE"
  | replay => "Usage: bflong replay [OPTIONS] INPUT_FILE"

/-- The lines of the help page below the usage line. -/
def helpLines : Scope → List String
  | program => [
      "",
      "  Brainfuck long-form compiler.",
      "",
      "  Runs a Brainfuck program on a virtual tape and records everything it outputs",
      "  as a compact delta-encoded string.",
      "",
      "  Commands:",
      "    compile   Compile source to .long files",
      "    replay    Print the values encoded in a .long file",
      "",
      "  Examples:",
      "    bflong compile hello.bf",
      "    bflong compile hello.bf -o build -n hello",
      "    bflong replay dist/compiled.long",
      "",
      "Options:",
      "  -V, --version  Show the version and exit.",
      "  --help         Show this message and exit.",
      "",
      "Commands:",
      "  compile  Compile a Brainfuck source file to long form.",
      "  replay   Print the output values encoded in a long-form file."]
  | compile => [
      "",
      "  Compile a Brainfuck source file to long form.",
      "",
      "  INPUT_FILE is the Brainfuck source. Every character that is not one of + - < >",
      "  . , [ ] is treated as a comment.",
      "",
      "  Examples:",
      "    bflong compile hello.bf               # Writes dist/compiled.long",
      "    bflong compile hello.bf -n hello      # Writes dist/hello.long",
      "    bflong compile hello.bf --stdout      # Prints the long form",
      "",
      "Options:",
      "  -o, --output-dir DIRECTORY  Output directory (default: ./dist)",
      "  -n, --name TEXT             Output file name without extension (default:",
      "                              compiled, can be repeated)",
      "  --stdout                    Print the long form instead of writing files",
      "  -v, --verbose               Verbose output",
      "  --help                      Show this message and exit."]
  | replay => [
      "",
      "  Print the output values encoded in a long-form file.",
      "",
      "  INPUT_FILE is a `.long` file produced by `bflong compile`.",
      "",
      "  Examples:",
      "    bflong replay dist/compiled.long",
      "    bflong replay --text dist/compiled.long",
      "",
      "Options:",
      "  -t, --text     Print values as characters (value modulo 256) instead of",
      "                 numbers",
      "  -v, --verbose  Verbose output",
      "  --help         Show this message and exit."]

/-- The page of help. -/
def help (s : Scope) : String := String.join ((s.usage :: s.helpLines).map (· ++ "\n"))

end Scope

/-- What the program says of its version. -/
def versionLine : String := "bflong, version 1.0.0\n"

/-- What is wrong with a call. -/
inductive Misuse where
  | noSuchOption (name : String) (similar : List String)
  | needsValue (name : String)
  | takesNoValue (name : String)
  | missingCommand
  | noSuchCommand (name : String)
  | missingInput
  | absentInput (text : String)
  | directoryInput (text : String)
  | fileDirectory (text : String)
  | extraArguments (args : List String)
  deriving DecidableEq

namespace Misuse

/-- The names offered in place of one that does not exist. -/
def offer : List String → String
  | [] => ""
  | [name] => " Did you mean " ++ name ++ "?"
  | names => " (Possible options: " ++ String.intercalate ", " names ++ ")"

/-- A mistake in words. -/
def message : Misuse → String
  | noSuchOption name similar => "No such option: " ++ name ++ offer similar
  | needsValue name => "Option " ++ Text.quoted name ++ " requires an argument."
  | takesNoValue name => "Option " ++ Text.quoted name ++ " does not take a value."
  | missingCommand => "Missing command."
  | noSuchCommand name => "No such command " ++ Text.quoted name ++ "."
  | missingInput => "Missing argument 'INPUT_FILE'."
  | absentInput text =>
    "Invalid value for 'INPUT_FILE': File " ++ Text.quoted text ++ " does not exist."
  | directoryInput text =>
    "Invalid value for 'INPUT_FILE': File " ++ Text.quoted text ++ " is a directory."
  | fileDirectory text =>
    "Invalid value for '-o' / '--output-dir': Directory " ++ Text.quoted text ++ " is a file."
  | extraArguments [arg] => "Got unexpected extra argument (" ++ arg ++ ")"
  | extraArguments args =>
    "Got unexpected extra arguments (" ++ String.intercalate " " args ++ ")"

/-- Whether the usage line stands before the mistake. -/
def showsUsage : Misuse → Bool
  | needsValue _ | takesNoValue _ => false
  | _ => true

/-- What is printed of a mistake in a call of `scope`. -/
def report (m : Misuse) (scope : Scope) : String :=
  let line := Text.plain ("Error: " ++ m.message) ++ "\n"
  if m.showsUsage then
    scope.usage ++ "\nTry '" ++ scope.name ++ " --help' for help.\n\n" ++ line
  else line

end Misuse

end DeltaTape.Command
