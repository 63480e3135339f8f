/-
# DeltaTape.Proofs.VerboseCalls — a verbose call does what the plain call does

A verbose call says how far it has come: that it compiles, what it has read and run, how many
values a file held.  Nothing it does depends on having said so.  The switch changes one field
of the request that the arguments amount to, and this field is looked at only where a line of
progress is printed or the log is.  Each line of progress stands before everything that the
plain call prints, so wherever the two calls end, what the plain one has printed by then is the
end of what the verbose one has.

* `Grammar.parse_loud`: the switch in front of other arguments;
* `Compile.request_loud` and `Replay.request_loud`: it changes one field of a request;
* `Compile.Request.run_loud` and `Replay.Request.run_loud`: what a verbose request prints first;
* `Heeds.exists_announces`: so for all arguments of a command, those with a mistake too;
* `Grammar.parse_behind`: what can stand before the name of a command;
* `verbose_of_call`: any call of a command, and the same call with the switch.
-/
import Mathlib
import DeltaTape.Proofs.TreeUntouched

namespace DeltaTape.Command

set_option autoImplicit false

/-- One outcome is like another, only with `progress` printed first. -/
structure Outcome.Announces (loud : Outcome) (progress : String) (plain : Outcome) : Prop where
  exit : loud.exit = plain.exit
  tree : loud.tree = plain.tree
  stdout : loud.stdout = progress ++ plain.stdout

namespace Outcome

theorem announces_rfl {o : Outcome} : o.Announces "" o := ⟨rfl, rfl, by simp⟩

theorem announces_printed (progress : String) (t : FileTree) (stdout : String) :
    (printed t (progress ++ stdout)).Announces progress (printed t stdout) := ⟨rfl, rfl, rfl⟩

/-- A failure is reported with its trace by the verbose call only, which is no matter of what
was printed before it. -/
theorem announces_failed (progress : String) (t : FileTree) (stdout log : String)
    (verbose verbose' : Bool) (f : Failure) :
    (failed t (progress ++ stdout) log verbose f).Announces progress
      (failed t stdout log verbose' f) :=
  ⟨rfl, rfl, rfl⟩

end Outcome

/-! ## The switch among the arguments -/

namespace Arguments

/-- The same arguments behind the switch for verbose calls. -/
def loud (a : Arguments) : Arguments := a.choosing [⟨.verbose, ""⟩]

variable {a : Arguments} {s : Switch}

@[simp] theorem operands_loud : a.loud.operands = a.operands := rfl

@[simp] theorem has_loud_verbose : a.loud.has .verbose = true := by
  simp [loud, choosing, has]

theorem has_loud (other : s ≠ .verbose) : a.loud.has s = a.has s := by
  simp [loud, choosing, has, other.symm]

theorem valuesOf_loud (other : s ≠ .verbose) : a.loud.valuesOf s = a.valuesOf s := by
  simp [loud, choosing, valuesOf, other.symm]

theorem lastOf?_loud (other : s ≠ .verbose) : a.loud.lastOf? s = a.lastOf? s := by
  rw [lastOf?, valuesOf_loud other, lastOf?]

end Arguments

namespace Grammar

/-- A grammar that knows the switch reads it, and then the other arguments as without it. -/
theorem parse_loud {g : Grammar} (known : g.read "-v" = .ok ⟨[⟨.verbose, ""⟩], none⟩)
    (args : List String) : g.parse ("-v" :: args) = (g.parse args).map Arguments.loud := by
  rw [parse, if_neg (by decide), if_pos (by decide), known]
  rfl

end Grammar

/-! ## Requests -/

variable {t : FileTree} {cwd : Location}

namespace Compile

/-- The same request, made by a verbose call. -/
def Request.loud (r : Request) : Request := { r with verbose := true }

theorem request_loud (t : FileTree) (cwd : Location) (a : Arguments) :
    request t cwd a.loud = (request t cwd a).map Request.loud := by
  have directory : a.loud.lastOf? .outputDirectory = a.lastOf? .outputDirectory :=
    Arguments.lastOf?_loud (by decide)
  have names : a.loud.valuesOf .name = a.valuesOf .name := Arguments.valuesOf_loud (by decide)
  have printing : a.loud.has .stdout = a.has .stdout := Arguments.has_loud (by decide)
  simp only [request, directory, names, printing, Arguments.operands_loud,
    Arguments.has_loud_verbose]
  cases (a.lastOf? .outputDirectory).bind (checkDirectory t cwd) with
  | some objection => rfl
  | none => cases checkOperands t cwd a.operands <;> rfl

/-- The progress of a request: that it compiles its input, and once it has, how many
instructions were read and how many outputs recorded. -/
def Request.progress (r : Request) (t : FileTree) (cwd : Location) : String :=
  match (compileFile (r.options cwd) t cwd r.input).result with
  | .error _ => r.loud.opening
  | .ok result => r.loud.opening ++ r.loud.summary result

/-- A verbose request prints its progress before what the plain request prints. -/
theorem Request.run_loud {r : Request} (quiet : r.verbose = false) :
    (r.loud.run t cwd).Announces (r.progress t cwd) (r.run t cwd) := by
  have silent : r.opening = "" := by simp [Request.opening, quiet]
  have tree : (r.loud.run t cwd).tree = (r.run t cwd).tree := by
    rw [tree_run, tree_run]
    rfl
  rw [progress]
  cases compiled : (compileFile (r.options cwd) t cwd r.input).result with
  | error f =>
      obtain ⟨exit, printed, -⟩ := run_failed compiled
      obtain ⟨exit', printed', -⟩ := run_failed (r := r.loud) compiled
      refine ⟨by rw [exit, exit'], tree, ?_⟩
      rw [printed, printed', silent, String.append_empty]
  | ok result =>
      obtain ⟨exit, printed⟩ := run_finished compiled
      obtain ⟨exit', printed'⟩ := run_finished (r := r.loud) compiled
      have unsaid : r.summary result = "" := by simp [Request.summary, quiet]
      refine ⟨by rw [exit, exit'], tree, ?_⟩
      rw [printed, printed', silent, unsaid, String.empty_append, String.empty_append]
      rfl

end Compile

namespace Replay

/-- The same request, made by a verbose call. -/
def Request.loud (r : Request) : Request := { r with verbose := true }

theorem request_loud (t : FileTree) (cwd : Location) (a : Arguments) :
    request t cwd a.loud = (request t cwd a).map Request.loud := by
  have characters : a.loud.has .text = a.has .text := Arguments.has_loud (by decide)
  simp only [request, characters, Arguments.operands_loud, Arguments.has_loud_verbose]
  cases checkOperands t cwd a.operands <;> rfl

/-- The progress of a request: how many values its input holds, once they have been read. -/
def Request.progress (r : Request) (t : FileTree) (cwd : Location) : String :=
  match readValues t cwd r.input with
  | .error _ => ""
  | .ok values => r.loud.opening values

/-- A verbose request prints its progress before what the plain request prints, also where
the numbers break off. -/
theorem Request.run_loud {r : Request} (quiet : r.verbose = false) :
    (r.loud.run t cwd).Announces (r.progress t cwd) (r.run t cwd) := by
  have silent : ∀ values, r.opening values = "" := by simp [Request.opening, quiet]
  have input : r.loud.input = r.input := rfl
  have text : r.loud.text = r.text := rfl
  simp only [Request.run, Request.progress, input, text]
  cases readValues t cwd r.input with
  | error f => exact Outcome.announces_failed "" t "" "" _ _ f
  | ok values =>
      simp only [silent, String.empty_append]
      cases r.text with
      | true => exact Outcome.announces_printed ..
      | false =>
          -- Both print the same lines, so they break off at the same value.
          cases numberLines values with
          | mk lines stop =>
              cases stop with
              | none => exact Outcome.announces_printed ..
              | some limit => exact Outcome.announces_failed ..

end Replay

/-! ## Commands -/

section Dispatch

variable {R : Type}

/-- What both commands do with their arguments: read them, check them, and carry out the request
they amount to. -/
def dispatch (t : FileTree) (scope : Scope) (g : Grammar)
    (request : Arguments → Except Objection R) (carry : R → Outcome) (args : List String) :
    Outcome :=
  match g.parse args with
  | .error m => .misused t scope m
  | .ok a =>
    if a.has .help then .printed t scope.help
    else
      match request a with
      | .error objection => objected t scope objection
      | .ok r => carry r

/-- Arguments that pass the checks of a command, and the request they amount to. -/
def Passes (g : Grammar) (request : Arguments → Except Objection R) (args : List String)
    (r : R) : Prop :=
  ∃ a, g.parse args = .ok a ∧ a.has .help = false ∧ request a = .ok r

/-- A command takes the switch for verbose calls: it knows it by its letter, the switch makes a
request verbose and does nothing else to it, and a request that is made verbose prints its
progress and then does what it did. -/
structure Heeds (g : Grammar) (request : Arguments → Except Objection R) (carry : R → Outcome)
    (verbose : R → Bool) (louder : R → R) (progress : R → String) : Prop where
  known : g.read "-v" = .ok ⟨[⟨.verbose, ""⟩], none⟩
  asked : ∀ a, request a.loud = (request a).map louder
  already : ∀ r, verbose r = true → louder r = r
  carried : ∀ r, verbose r = false → (carry (louder r)).Announces (progress r) (carry r)

namespace Heeds

variable {g : Grammar} {request : Arguments → Except Objection R} {carry : R → Outcome}
variable {verbose : R → Bool} {louder : R → R} {progress : R → String}
variable (heeds : Heeds g request carry verbose louder progress)
include heeds

/-- With the switch in front, a command does as it did and may print something first.  A mistake
in the arguments and a page of help are the same with the switch. -/
theorem exists_announces (t : FileTree) (scope : Scope) (args : List String) :
    ∃ said, (dispatch t scope g request carry ("-v" :: args)).Announces said
      (dispatch t scope g request carry args) := by
  have helping : ∀ a : Arguments, a.loud.has .help = a.has .help :=
    fun _ => Arguments.has_loud (by decide)
  simp only [dispatch, Grammar.parse_loud heeds.known]
  cases g.parse args with
  | error m => exact ⟨"", Outcome.announces_rfl⟩
  | ok a =>
      simp only [Except.map, helping, heeds.asked]
      cases a.has .help with
      | true => exact ⟨"", Outcome.announces_rfl⟩
      | false =>
          cases request a with
          | error objection => exact ⟨"", Outcome.announces_rfl⟩
          | ok r =>
              -- A call that was verbose already has nothing more to say.
              simp only [Bool.false_eq_true, if_false]
              cases said : verbose r with
              | true => exact ⟨"", by rw [heeds.already r said]; exact Outcome.announces_rfl⟩
              | false => exact ⟨progress r, heeds.carried r said⟩

/-- Where the arguments pass their checks, what is printed first is the progress. -/
theorem announces_progress {args : List String} {r : R} (passes : Passes g request args r)
    (quiet : verbose r = false) (t : FileTree) (scope : Scope) :
    (dispatch t scope g request carry ("-v" :: args)).Announces (progress r)
      (dispatch t scope g request carry args) := by
  obtain ⟨a, parsed, working, checked⟩ := passes
  have working' : a.loud.has .help = false := by rw [Arguments.has_loud (by decide), working]
  simp only [dispatch, Grammar.parse_loud heeds.known, parsed, Except.map, working, working',
    heeds.asked, checked, Bool.false_eq_true, if_false]
  exact heeds.carried r quiet

end Heeds

end Dispatch

theorem runCompile_eq (t : FileTree) (cwd : Location) (args : List String) :
    runCompile t cwd args =
      dispatch t .compile .compile (Compile.request t cwd) (·.run t cwd) args := by
  rw [runCompile, dispatch]
  cases Grammar.compile.parse args with
  | error m => rfl
  | ok a =>
      dsimp only
      cases Compile.request t cwd a <;> rfl

theorem runReplay_eq (t : FileTree) (cwd : Location) (args : List String) :
    runReplay t cwd args =
      dispatch t .replay .replay (Replay.request t cwd) (·.run t cwd) args := by
  rw [runReplay, dispatch]
  cases Grammar.replay.parse args with
  | error m => rfl
  | ok a =>
      dsimp only
      cases Replay.request t cwd a <;> rfl

theorem Compile.heeds (t : FileTree) (cwd : Location) :
    Heeds .compile (request t cwd) (·.run t cwd) Request.verbose Request.loud
      (·.progress t cwd) where
  known := rfl
  asked := request_loud t cwd
  already r said := by rw [Request.loud, ← said]
  carried _ quiet := Request.run_loud quiet

theorem Replay.heeds (t : FileTree) (cwd : Location) :
    Heeds .replay (request t cwd) (·.run t cwd) Request.verbose Request.loud
      (·.progress t cwd) where
  known := rfl
  asked := request_loud t cwd
  already r said := by rw [Request.loud, ← said]
  carried _ quiet := Request.run_loud quiet

/-! ## What stands before a command -/

namespace Grammar

variable {g : Grammar}

theorem readLetters_ne_nothing (letter : Char) (letters : List Char) :
    g.readLetters (letter :: letters) ≠ .ok ⟨[], none⟩ := by
  rw [readLetters]
  split
  · simp
  · split
    · split <;> simp
    · split <;> simp

/-- An argument that is a switch chooses something, or asks for a value. -/
theorem read_ne_nothing {arg : String} (switch : isSwitch arg = true) :
    g.read arg ≠ .ok ⟨[], none⟩ := by
  intro read
  obtain ⟨letter, letters, chars⟩ : ∃ letter letters, arg.toList = '-' :: letter :: letters := by
    unfold isSwitch at switch
    split at switch
    · rename_i letter letters chars
      exact ⟨letter, letters, chars⟩
    · cases switch
  unfold Grammar.read at read
  split at read
  split at read
  · unfold readLong at read
    split at read <;> split at read <;> cases read
  · split at read
    · cases read
    · rw [chars] at read
      exact readLetters_ne_nothing letter letters read

/-- Where switches do not mix with operands, a call that chooses nothing is its operands, perhaps
behind two dashes. -/
theorem call_of_parse (unmixed : g.mixed = false) {call operands : List String}
    (parsed : g.parse call = .ok ⟨[], operands⟩) : call = operands ∨ call = "--" :: operands := by
  revert parsed
  fun_cases parse g call with
  | case1 => rintro ⟨⟩; exact Or.inl rfl
  | case2 args => rintro ⟨⟩; exact Or.inr rfl
  | case3 => rintro ⟨⟩
  | case4 arg args _ switch choices read =>
      intro parsed
      obtain ⟨later, -, chosen⟩ := exists_of_map_eq_ok parsed
      have none : choices ++ later.choices = [] := congrArg Arguments.choices chosen
      rw [(List.append_eq_nil_iff.mp none).1] at read
      exact absurd read (read_ne_nothing switch)
  | case5 => rintro ⟨⟩
  | case6 arg _ _ choices switch name read value args =>
      intro parsed
      obtain ⟨later, -, chosen⟩ := exists_of_map_eq_ok parsed
      have none : choices ++ [⟨switch, value⟩] ++ later.choices = [] :=
        congrArg Arguments.choices chosen
      simp at none
  | case7 arg args _ _ mixed => rw [unmixed] at mixed; cases mixed
  | case8 => rintro ⟨⟩; exact Or.inl rfl

/-- Whatever stands before the name of a command, other arguments behind the name are left to
it just as well. -/
theorem parse_behind {before args : List String} {name : String} (plain : isSwitch name = false)
    (called : program.parse (before ++ name :: args) = .ok ⟨[], name :: args⟩)
    (others : List String) :
    program.parse (before ++ name :: others) = .ok ⟨[], name :: others⟩ := by
  rcases call_of_parse rfl called with bare | dashed
  · obtain rfl : before = [] := List.append_left_eq_self.mp bare
    exact parse_program plain others
  · obtain rfl : before = ["--"] := List.append_cancel_right (dashed : _ = ["--"] ++ name :: args)
    exact parse_operands program (name :: others)

end Grammar

/-! ## Calls -/

/-- A call of a command that passes its checks and is not verbose, and the progress it makes. -/
inductive Reports (t : FileTree) (cwd : Location) : String → List String → String → Prop
  | compile {args : List String} {r : Compile.Request}
      (passes : Passes .compile (Compile.request t cwd) args r) (quiet : r.verbose = false) :
      Reports t cwd "compile" args (r.progress t cwd)
  | replay {args : List String} {r : Replay.Request}
      (passes : Passes .replay (Replay.request t cwd) args r) (quiet : r.verbose = false) :
      Reports t cwd "replay" args (r.progress t cwd)

section Calls

variable {before args : List String} {name : String}

theorem run_compile_behind
    (called : Grammar.program.parse (before ++ "compile" :: args) = .ok ⟨[], "compile" :: args⟩)
    (others : List String) :
    run t cwd (before ++ "compile" :: others) =
      dispatch t .compile .compile (Compile.request t cwd) (·.run t cwd) others := by
  rw [run_of_compile (Grammar.parse_behind (by decide) called others), runCompile_eq]

theorem run_replay_behind
    (called : Grammar.program.parse (before ++ "replay" :: args) = .ok ⟨[], "replay" :: args⟩)
    (others : List String) :
    run t cwd (before ++ "replay" :: others) =
      dispatch t .replay .replay (Replay.request t cwd) (·.run t cwd) others := by
  rw [run_of_replay (Grammar.parse_behind (by decide) called others), runReplay_eq]

variable (called : Grammar.program.parse (before ++ name :: args) = .ok ⟨[], name :: args⟩)
include called

theorem exists_announces_of_command (command : name = "compile" ∨ name = "replay") :
    ∃ said, (run t cwd (before ++ name :: "-v" :: args)).Announces said
      (run t cwd (before ++ name :: args)) := by
  rcases command with rfl | rfl
  · rw [run_compile_behind called, run_compile_behind called]
    exact (Compile.heeds t cwd).exists_announces ..
  · rw [run_replay_behind called, run_replay_behind called]
    exact (Replay.heeds t cwd).exists_announces ..

theorem announces_of_reports {progress : String} (reports : Reports t cwd name args progress) :
    (run t cwd (before ++ name :: "-v" :: args)).Announces progress
      (run t cwd (before ++ name :: args)) := by
  cases reports with
  | compile passes quiet =>
      rw [run_compile_behind called, run_compile_behind called]
      exact (Compile.heeds t cwd).announces_progress passes quiet ..
  | replay passes quiet =>
      rw [run_replay_behind called, run_replay_behind called]
      exact (Replay.heeds t cwd).announces_progress passes quiet ..

end Calls

/-- **A verbose call does what the plain call does.**  Take any call of a command in any tree and
working directory, and put the switch for verbose calls right behind the name of the command.
Then the exit code and the tree that is left are the same, and what the plain call prints is the
end of what the verbose call prints, however the two end.  If the plain call passes its checks,
what the verbose call prints first is its progress. -/
theorem verbose_of_call {t : FileTree} {cwd : Location} {before args : List String}
    {name : String} (command : name = "compile" ∨ name = "replay")
    (called : Grammar.program.parse (before ++ name :: args) = .ok ⟨[], name :: args⟩) :
    (run t cwd (before ++ name :: "-v" :: args)).exit =
        (run t cwd (before ++ name :: args)).exit ∧
      (run t cwd (before ++ name :: "-v" :: args)).tree =
        (run t cwd (before ++ name :: args)).tree ∧
      (∃ said, (run t cwd (before ++ name :: "-v" :: args)).stdout =
        said ++ (run t cwd (before ++ name :: args)).stdout) ∧
      ∀ progress, Reports t cwd name args progress →
        (run t cwd (before ++ name :: "-v" :: args)).stdout =
          progress ++ (run t cwd (before ++ name :: args)).stdout := by
  obtain ⟨said, same⟩ := exists_announces_of_command called command
  refine ⟨same.exit, same.tree, ⟨said, same.stdout⟩, ?_⟩
  intro progress reports
  exact (announces_of_reports called reports).stdout

/-- A working directory with a source and a long form that stands for two letters. -/
def announcedTree : FileTree :=
  ((FileTree.root.set ["w"] .directory).set ["a.bf", "w"] (.file [0x2B, 0x2E])).set ["p", "w"]
    (.file [0x37, 0x32, 0x2B, 0x33, 0x33, 0x2B])

/-- Arguments whose second destination lies in a directory that is missing. -/
def announcedArgs : List String := ["a.bf", "-n", "x", "-n", "y/z"]

theorem announcedArgs_reports :
    Reports announcedTree ["w"] "compile" announcedArgs "Compiling a.bf...\n" := by
  have passes : Passes .compile (Compile.request announcedTree ["w"]) announcedArgs
      ⟨⟨0, ["a.bf"]⟩, none, ["x", "y/z"], false, false⟩ :=
    ⟨⟨[⟨.name, "x"⟩, ⟨.name, "y/z"⟩], ["a.bf"]⟩, by decide +kernel, rfl, by decide +kernel⟩
  have progress : Compile.Request.progress ⟨⟨0, ["a.bf"]⟩, none, ["x", "y/z"], false, false⟩
      announcedTree ["w"] = "Compiling a.bf...\n" := by decide +kernel
  exact progress ▸ Reports.compile passes rfl

theorem announcedTree_reports :
    Reports announcedTree ["w"] "replay" ["-t", "p"] "Replayed 2 outputs from p\n" := by
  have passes : Passes .replay (Replay.request announcedTree ["w"]) ["-t", "p"]
      ⟨⟨0, ["p"]⟩, true, false⟩ :=
    ⟨⟨[⟨.text, ""⟩], ["p"]⟩, by decide +kernel, rfl, by decide +kernel⟩
  have progress : Replay.Request.progress ⟨⟨0, ["p"]⟩, true, false⟩ announcedTree ["w"] =
      "Replayed 2 outputs from p\n" := by decide +kernel
  exact progress ▸ Reports.replay passes rfl

/-- A verbose call that is stopped halfway has written its first destination like the plain call,
and one behind two dashes prints its letters behind their count. -/
theorem verbose_of_call_halfway :
    ((run announcedTree ["w"] ("compile" :: "-v" :: announcedArgs)).exit = .buildError ∧
      (run announcedTree ["w"] ("compile" :: "-v" :: announcedArgs)).tree.get?
        ["x.long", "dist", "w"] = some (.file [0x31, 0x2B]) ∧
      (run announcedTree ["w"] ("compile" :: "-v" :: announcedArgs)).stdout =
        "Compiling a.bf...\n") ∧
    (run announcedTree ["w"] ["--", "replay", "-v", "-t", "p"]).exit = .success ∧
      (run announcedTree ["w"] ["--", "replay", "-v", "-t", "p"]).stdout =
        "Replayed 2 outputs from p\nHi" := by
  obtain ⟨exit, tree, -, printed⟩ := @verbose_of_call announcedTree ["w"] [] announcedArgs
    "compile" (Or.inl rfl) (parse_program (by decide) announcedArgs)
  obtain ⟨exit', -, -, printed'⟩ := @verbose_of_call announcedTree ["w"] ["--"] ["-t", "p"]
    "replay" (Or.inr rfl) (Grammar.parse_operands _ _)
  refine ⟨⟨?_, ?_, ?_⟩, ?_, ?_⟩
  · exact exit.trans (by decide +kernel)
  · rw [List.nil_append] at tree
    rw [tree]
    decide +kernel
  · exact (printed _ announcedArgs_reports).trans (by decide +kernel)
  · exact exit'.trans (by decide +kernel)
  · exact (printed' _ announcedTree_reports).trans (by decide +kernel)

end DeltaTape.Command
