/-
# DeltaTape.Proofs.TreeUntouched — which calls can change the file tree

Most ways through a call end before anything is written: a mistake in the
arguments, a page of help, an input that does not pass its check, a source that is
only printed or only replayed.  All of them leave the tree alone.  What is left is a
call of `compile` that has compiled its input and runs the sink on it (`Sinks`), so
what is to be known of a changed tree is what is to be known of such a call.

* `tree_or_sinks`: the tree is untouched, or the sink was run;
* `Sinks.exit_ne_invalidArguments`, `Sinks.stdout_notMem_pages` and `Sinks.exit`: a
  call that ran the sink does not end as one that made a mistake, does not print a
  page of help, and, if nothing typed holds a null character, ends well or with a
  diagnostic;
* `tree_of_call`: so which calls leave the tree alone.
-/
import Mathlib
import DeltaTape.Proofs.CompileOutcome

namespace DeltaTape

set_option autoImplicit false

/-! ## Compilations -/

/-- With output disabled a compilation leaves the tree alone. -/
theorem tree_compileSource {o : Options} (unwritten : o.writeOutput = false) (t : FileTree)
    (cwd : Location) (source file : String) : (compileSource o t cwd source file).tree = t := by
  rw [compileSource]
  cases Compilation.ofSource source file with
  | error f => rfl
  | ok c => simp only [unwritten, Bool.false_eq_true, if_false]

/-- Compiling a file leaves the tree alone, unless output is enabled and the file
has been read, run and encoded. -/
theorem tree_compileFile (o : Options) (t : FileTree) (cwd : Location) (p : Path) :
    (compileFile o t cwd p).tree = t ∨ o.writeOutput = true ∧
      ∃ source c, readText t cwd p = .ok source ∧
        Compilation.ofSource (String.ofList source) p.render = .ok c := by
  cases read : readText t cwd p with
  | error f =>
      left
      rw [compileFile, read]
  | ok source =>
      rw [compileFile_of_read read]
      cases writing : o.writeOutput with
      | false => exact Or.inl (tree_compileSource writing t cwd _ _)
      | true =>
          cases compiled : Compilation.ofSource (String.ofList source) p.render with
          | error f =>
              left
              rw [compileSource, compiled]
          | ok c => exact Or.inr ⟨rfl, source, c, rfl, compiled⟩

namespace Command

/-! ## Calls that end early -/

variable {t : FileTree} {cwd : Location} {call : List String} {a : Arguments}
variable {r : Compile.Request} {c : Compilation}

theorem tree_objected (t : FileTree) (scope : Scope) (objection : Objection) :
    (objected t scope objection).tree = t := by
  cases objection <;> rfl

theorem Replay.Request.tree_run (r : Replay.Request) (t : FileTree) (cwd : Location) :
    (r.run t cwd).tree = t := by
  rw [Replay.Request.run]
  split
  · rfl
  · split
    · rfl
    · split <;> rfl

theorem tree_runReplay (t : FileTree) (cwd : Location) (args : List String) :
    (runReplay t cwd args).tree = t := by
  rw [runReplay]
  split
  · rfl
  · split
    · rfl
    · split
      · exact tree_objected ..
      · exact Replay.Request.tree_run ..

/-! ## Calls that run the sink -/

/-- A call of `compile` that has passed its checks and does not print, and whose
input has been read, run and encoded. -/
structure Sinks (t : FileTree) (cwd : Location) (call : List String) (a : Arguments)
    (r : Compile.Request) (c : Compilation) : Prop where
  called : ∃ args, Grammar.program.parse call = .ok ⟨[], "compile" :: args⟩ ∧
    Grammar.compile.parse args = .ok a
  checked : Compile.request t cwd a = .ok r
  writing : r.stdout = false
  carried : run t cwd call = r.run t cwd
  compiled : ∃ source, readText t cwd r.input = .ok source ∧
    Compilation.ofSource (String.ofList source) r.input.render = .ok c

theorem tree_or_request (t : FileTree) (cwd : Location) (args : List String) :
    (runCompile t cwd args).tree = t ∨
      ∃ a r, Grammar.compile.parse args = .ok a ∧ Compile.request t cwd a = .ok r ∧
        runCompile t cwd args = r.run t cwd := by
  rw [runCompile]
  split
  · exact Or.inl rfl
  · rename_i a parsed
    split
    · exact Or.inl rfl
    · split
      · exact Or.inl (tree_objected ..)
      · rename_i r checked
        exact Or.inr ⟨a, r, parsed, checked, rfl⟩

/-- A call leaves the tree alone, or it is left to `compile`. -/
theorem tree_or_compile (t : FileTree) (cwd : Location) (call : List String) :
    (run t cwd call).tree = t ∨
      ∃ args, Grammar.program.parse call = .ok ⟨[], "compile" :: args⟩ := by
  rw [run]
  split
  · exact Or.inl rfl
  · split
    · exact Or.inl rfl
    · exact Or.inl rfl
    · exact Or.inl rfl
    · rename_i name args called
      by_cases compile : name = "compile"
      · exact Or.inr ⟨args, by rw [called, compile]⟩
      · left
        rw [if_neg compile]
        split
        · exact tree_runReplay t cwd args
        · split <;> rfl

/-- A call leaves the tree alone, or it runs the sink. -/
theorem tree_or_sinks (t : FileTree) (cwd : Location) (call : List String) :
    (run t cwd call).tree = t ∨ ∃ a r c, Sinks t cwd call a r c := by
  rcases tree_or_compile t cwd call with same | ⟨args, called⟩
  · exact Or.inl same
  · have run : run t cwd call = runCompile t cwd args := run_of_compile called
    rcases tree_or_request t cwd args with same | ⟨a, r, parsed, checked, carried⟩
    · exact Or.inl (run ▸ same)
    · rcases tree_compileFile (r.options cwd) t cwd r.input with
        same | ⟨writing, source, c, read, compiled⟩
      · left
        rw [run, carried, Compile.Request.tree_run, same]
      · refine Or.inr ⟨a, r, c, ⟨args, called, parsed⟩, checked, ?_, run.trans carried, source, read,
          compiled⟩
        simpa [Compile.Request.options] using writing

/-- A refusal of the sink is never reported as a mistake in the arguments. -/
theorem Sink.Error.exitCode_ne_invalidArguments (e : Sink.Error) :
    e.failure.exitCode ≠ .invalidArguments := by
  cases e <;> simp [Sink.Error.failure, Failure.exitCode]

/-- A call that ran the sink does not end as one that made a mistake. -/
theorem Sinks.exit_ne_invalidArguments (sinks : Sinks t cwd call a r c) :
    (run t cwd call).exit ≠ .invalidArguments := by
  obtain ⟨source, read, compiled⟩ := sinks.compiled
  rw [sinks.carried]
  cases sunk : (r.sunk t cwd c.text).error with
  | none =>
      rw [(Compile.Request.run_written read compiled sinks.writing sunk).1]
      decide
  | some e =>
      rw [(Compile.Request.run_refused read compiled sinks.writing sunk).1]
      exact Sink.Error.exitCode_ne_invalidArguments e

/-- Without null characters among the arguments, a call that changed the tree by the
sink ends well or with a diagnostic. -/
theorem Sinks.exit (sinks : Sinks t cwd call a r c) (free : ∀ arg ∈ call, NullFree arg)
    (changed : (run t cwd call).tree ≠ t) :
    (run t cwd call).exit = .success ∨ (run t cwd call).exit = .buildError := by
  obtain ⟨source, read, compiled⟩ := sinks.compiled
  obtain ⟨args, called, parsed⟩ := sinks.called
  obtain ⟨values, -⟩ := arguments_nullFree free called parsed
  rw [sinks.carried] at changed ⊢
  cases sunk : (r.sunk t cwd c.text).error with
  | none => exact Or.inl (Compile.Request.run_written read compiled sinks.writing sunk).1
  | some e =>
      right
      obtain ⟨exit, -, -, tree⟩ := Compile.Request.run_refused read compiled sinks.writing sunk
      -- With a null character in it, the directory would have been turned away untouched.
      have clean : (r.options cwd).directory.hasNull = false := by
        by_contra null
        rw [Bool.not_eq_false] at null
        rw [tree, Compile.Request.sunk, Sink.write, if_pos null] at changed
        exact changed rfl
      have names := Compile.nullFree_destinations values sinks.checked
      have ending : NullFree (r.options cwd).extension :=
        show NullFree Sink.defaultExtension by decide
      obtain ⟨d, failure, -⟩ := Sink.failure_of_write clean names ending sunk
      rw [exit, failure, Failure.exitCode]

/-! ## Pages of help -/

/-- What is printed when help or the version is asked for. -/
def pages : List String :=
  [Scope.program.help, Scope.compile.help, Scope.replay.help, versionLine]

theorem head?_append {text : String} {letter : Char} (begins : text.toList.head? = some letter)
    (more : String) : (text ++ more).toList.head? = some letter := by
  rw [String.toList_append, List.head?_append, begins, Option.some_or]

theorem head?_help (scope : Scope) : scope.help.toList.head? = some 'U' := by
  have usage : scope.usage.toList.head? = some 'U' := by cases scope <;> decide
  rw [Scope.help, List.map_cons, String.join_cons]
  exact head?_append (head?_append usage _) _

theorem head?_pages {page : String} (mem : page ∈ pages) :
    page.toList.head? = some 'U' ∨ page.toList.head? = some 'b' := by
  simp only [pages, List.mem_cons, List.not_mem_nil, or_false] at mem
  rcases mem with rfl | rfl | rfl | rfl
  · exact Or.inl (head?_help _)
  · exact Or.inl (head?_help _)
  · exact Or.inl (head?_help _)
  · exact Or.inr (by decide)

/-- A line that begins with a letter is printed with it. -/
theorem head?_line {text : String} {letter : Char} (begins : text.toList.head? = some letter)
    (plain : letter ≠ Text.Plain.escape) : (line text).toList.head? = some letter := by
  cases chars : text.toList with
  | nil => rw [chars] at begins; cases begins
  | cons c cs =>
      rw [chars] at begins
      cases begins
      simp [line, Text.plain, chars, Text.Plain.strip, Text.Plain.progress, plain]

/-- The lines for the paths written begin like the first of them. -/
theorem head?_product (input : String) (paths : List Path) :
    String.join (paths.map fun p => line ("Compiled " ++ input ++ " -> " ++ p.render)) = "" ∨
      (String.join (paths.map fun p =>
        line ("Compiled " ++ input ++ " -> " ++ p.render))).toList.head? = some 'C' := by
  cases paths with
  | nil => exact Or.inl rfl
  | cons p paths =>
      right
      rw [List.map_cons, String.join_cons]
      refine head?_append (head?_line ?_ (by decide)) _
      exact head?_append (head?_append (head?_append (by decide) _) _) _

/-- What a call that ran the sink prints begins with a letter, if with any, that no
page of help begins with. -/
theorem Sinks.stdout_notMem_pages (sinks : Sinks t cwd call a r c) :
    (run t cwd call).stdout ∉ pages := by
  obtain ⟨source, read, compiled⟩ := sinks.compiled
  have begins : (run t cwd call).stdout = "" ∨ (run t cwd call).stdout.toList.head? = some 'C' := by
    rw [sinks.carried]
    cases verbose : r.verbose with
    | true =>
        right
        have opening : r.opening.toList.head? = some 'C' := by
          rw [Compile.Request.opening, if_pos verbose]
          exact head?_line (head?_append (head?_append (by decide) _) _) (by decide)
        cases sunk : (r.sunk t cwd c.text).error with
        | none =>
            obtain ⟨-, result, printed⟩ :=
              Compile.Request.run_written read compiled sinks.writing sunk
            rw [printed]
            exact head?_append (head?_append opening _) _
        | some e =>
            rw [(Compile.Request.run_refused read compiled sinks.writing sunk).2.1]
            exact opening
    | false =>
        have opening : r.opening = "" := by simp [Compile.Request.opening, verbose]
        cases sunk : (r.sunk t cwd c.text).error with
        | none =>
            obtain ⟨-, result, printed⟩ :=
              Compile.Request.run_written read compiled sinks.writing sunk
            have summary : r.summary result = "" := by simp [Compile.Request.summary, verbose]
            rw [printed, opening, summary, String.empty_append, String.empty_append]
            exact head?_product _ _
        | some e =>
            left
            rw [(Compile.Request.run_refused read compiled sinks.writing sunk).2.1, opening]
  intro mem
  have page := head?_pages mem
  rcases begins with empty | letter
  · rw [empty] at page
    revert page
    decide
  · rw [letter] at page
    revert page
    decide

/-! ## All calls -/

/-- **Which calls leave the tree alone.**  A call of `replay`, a call of `compile`
that is to print, a call that ends with a mistake in its arguments, and a call that
prints a page of help or the version all leave the tree as it was.  So does a
compilation with output disabled, and what it yields is the long form.  Hence, where
nothing typed holds a null character, a call that changes the tree is one of
`compile` that is not to print, and ends well or with a diagnostic. -/
theorem tree_of_call (t : FileTree) (cwd : Location) (call : List String) :
    (∀ args, Grammar.program.parse call = .ok ⟨[], "replay" :: args⟩ →
      (run t cwd call).tree = t) ∧
      (∀ args a, Grammar.program.parse call = .ok ⟨[], "compile" :: args⟩ →
        Grammar.compile.parse args = .ok a → a.has .stdout = true → (run t cwd call).tree = t) ∧
      ((run t cwd call).exit = .invalidArguments → (run t cwd call).tree = t) ∧
      ((run t cwd call).stdout ∈ pages → (run t cwd call).tree = t) ∧
      (∀ (o : Options) (source file : String), o.writeOutput = false →
        (compileSource o t cwd source file).tree = t ∧
          (compileSource o t cwd source file).result.map Result.compiled = compileLong source) ∧
      ((∀ arg ∈ call, NullFree arg) → (run t cwd call).tree ≠ t →
        ∃ args a, Grammar.program.parse call = .ok ⟨[], "compile" :: args⟩ ∧
          Grammar.compile.parse args = .ok a ∧ a.has .stdout = false ∧
          ((run t cwd call).exit = .success ∨ (run t cwd call).exit = .buildError)) := by
  have pure : ∀ (o : Options) (source file : String), o.writeOutput = false →
      (compileSource o t cwd source file).tree = t ∧
        (compileSource o t cwd source file).result.map Result.compiled = compileLong source :=
    fun o source file unwritten => ⟨tree_compileSource unwritten t cwd source file,
      compileSource_unwritten unwritten t cwd source file⟩
  rcases tree_or_sinks t cwd call with same | ⟨a, r, c, sinks⟩
  · exact ⟨fun _ _ => same, fun _ _ _ _ _ => same, fun _ => same, fun _ => same, pure,
      fun _ changed => absurd same changed⟩
  · obtain ⟨args, called, parsed⟩ := sinks.called
    obtain ⟨text, -, -, request⟩ := Compile.request_eq_ok sinks.checked
    have silent : a.has .stdout = false := by
      have writing := sinks.writing
      rwa [request] at writing
    refine ⟨?_, ?_, ?_, ?_, pure, ?_⟩
    · intro args' called'
      rw [called] at called'
      exact absurd called' (by simp)
    · intro args' a' called' parsed' printing
      rw [called] at called'
      cases called'
      rw [parsed] at parsed'
      cases parsed'
      rw [silent] at printing
      cases printing
    · intro mistaken
      exact absurd mistaken sinks.exit_ne_invalidArguments
    · intro page
      exact absurd page sinks.stdout_notMem_pages
    · intro free changed
      exact ⟨args, a, called, parsed, silent, sinks.exit free changed⟩

/-- A null character in a name stops the call only once the output directory is made. -/
example :
    let t := (FileTree.root.set ["w"] .directory).set ["a.bf", "w"] (.file [0x2B, 0x2E])
    let o := run t ["w"] ["compile", "a.bf", "-n", "\x00"]
    (o.exit, t.get? ["dist", "w"], o.tree.get? ["dist", "w"]) =
      (.internalError, none, some .directory) := by
  decide +kernel

end Command

end DeltaTape
