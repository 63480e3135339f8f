/-
# DeltaTape.Proofs.CheckedInput — an input that was checked can be read

An argument is checked as it was typed, and read by its tidied path.  These are not
the same path, but they lead to the same file: an empty name or a dot leads nowhere
else, so it can be left out of a way that leads somewhere; and the tidied path is
not longer, so it is not turned away where the typed one was not.  It is not empty
either, since a way without a step ends at a directory.

* `walk_filter`: a way without its empty names and dots;
* `render_ofText_le`: a tidied path is not longer than the typed one;
* `readFile_of_lookup`: a file found as typed is read by its tidied path;
* `Command.readFile_of_checkInput`: and so is an input that passes its check.
-/
import Mathlib
import DeltaTape.Command.Check
import DeltaTape.Compiler
import DeltaTape.Proofs.TidyPath
import DeltaTape.Proofs.WrittenFiles

namespace DeltaTape

set_option autoImplicit false

namespace FileTree

variable {t : FileTree} {cwd here there l : Location} {text : String} {content : List UInt8}

/-- An empty name or a dot leads back to where it stands. -/
theorem enter_still {name : String} (still : Path.isStep name = false)
    (entered : t.enter here name = .ok there) : there = here := by
  have reached := (enter_eq_ok.mp entered).1
  have stays : name = "" ∨ name = "." := or_iff_not_imp_left.mpr (by simpa [Path.isStep] using still)
  rw [reach, reach_eq_ok reached] at reached
  simp only [stays, if_true] at reached
  exact (Except.ok.inj reached).symm

/-- Empty names and dots can be left out of a way that leads somewhere. -/
theorem walk_filter {names : List String} (walked : t.walk here names = .ok there) :
    t.walk here (names.filter Path.isStep) = .ok there := by
  induction names generalizing here with
  | nil => exact walked
  | cons name names ih =>
      obtain ⟨next, entered, onward⟩ := walk_cons_eq_ok.mp walked
      rw [List.filter_cons]
      split
      · exact walk_cons_eq_ok.mpr ⟨next, entered, ih onward⟩
      · rename_i still
        rw [← enter_still (by simpa using still) entered]
        exact ih onward

/-- A way without a step ends at a directory, unless it has no names at all. -/
theorem directory_of_walk {names : List String} (named : names ≠ [])
    (walked : t.walk here names = .ok there) (still : names.filter Path.isStep = []) :
    t.get? there = some .directory := by
  have ends : t.walk here [] = .ok there := still ▸ walk_filter walked
  cases ends
  cases names with
  | nil => exact absurd rfl named
  | cons name names =>
      obtain ⟨next, entered, -⟩ := walk_cons_eq_ok.mp walked
      exact reach_eq_ok (enter_eq_ok.mp entered).1

end FileTree

/-! ## The length of a path -/

namespace Path

theorem utf8ByteSize_slashes (n : Nat) :
    (String.ofList (List.replicate n '/')).utf8ByteSize = n := by
  rw [String.utf8ByteSize_ofList]
  induction n with
  | zero => rfl
  | succ n ih =>
      have one : '/'.utf8Size = 1 := rfl
      rw [List.replicate_succ, String.utf8Len_cons, ih, one]

/-- Names left out do not make a path longer. -/
theorem intercalate_filter_le (keep : String → Bool) (names : List String) :
    (String.intercalate "/" (names.filter keep)).utf8ByteSize ≤
      (String.intercalate "/" names).utf8ByteSize := by
  induction names with
  | nil => exact le_rfl
  | cons name names ih =>
      by_cases alone : names = []
      · subst alone
        rw [List.filter_cons]
        split
        · exact le_rfl
        · exact Nat.zero_le _
      · rw [String.intercalate_cons_of_ne_nil alone, String.utf8ByteSize_append,
          String.utf8ByteSize_append, List.filter_cons]
        split
        · by_cases last : names.filter keep = []
          · rw [last, String.intercalate_singleton]
            omega
          · rw [String.intercalate_cons_of_ne_nil last, String.utf8ByteSize_append,
              String.utf8ByteSize_append]
            omega
        · omega

theorem steps_verbatim_ne_nil (text : String) : (verbatim text).steps ≠ [] := by
  simp [verbatim, pieces_ne_nil]

theorem utf8ByteSize_render {p : Path} (named : p.steps ≠ []) :
    p.render.utf8ByteSize = p.slashes + (String.intercalate "/" p.steps).utf8ByteSize := by
  rw [render, if_neg (fun bare => named bare.2), String.utf8ByteSize_append, utf8ByteSize_slashes]

theorem tidySlashes_le_self (n : Nat) : tidySlashes n ≤ n := by
  unfold tidySlashes
  split
  · exact le_rfl
  · exact le_rfl
  · rename_i some _
    exact Nat.one_le_iff_ne_zero.mpr some

/-- A tidied path is not longer than the typed one. -/
theorem render_ofText_le {text : String} (named : (ofText text).steps ≠ []) :
    (ofText text).render.utf8ByteSize ≤ (verbatim text).render.utf8ByteSize := by
  rw [utf8ByteSize_render named, utf8ByteSize_render (steps_verbatim_ne_nil text)]
  have slashes : (ofText text).slashes ≤ (verbatim text).slashes := tidySlashes_le_self _
  have steps : (String.intercalate "/" (ofText text).steps).utf8ByteSize ≤
      (String.intercalate "/" (verbatim text).steps).utf8ByteSize :=
    intercalate_filter_le isStep (verbatim text).steps
  omega

theorem render_ne_empty {p : Path} (tidy : p.Tidy) (named : p.steps ≠ []) : p.render ≠ "" := by
  obtain ⟨c, cs, names, -⟩ := exists_intercalate_eq_cons tidy named
  intro empty
  have chars := toList_render named
  rw [empty, names] at chars
  simp at chars

end Path

/-! ## A file by its tidied path -/

namespace FileTree

variable {t : FileTree} {cwd l : Location} {text : String} {content : List UInt8}

/-- A tidied path with steps is turned away only where the typed one is. -/
theorem turnsAway?_ofText (passes : turnsAway? (Path.verbatim text) = none)
    (named : (Path.ofText text).steps ≠ []) : turnsAway? (Path.ofText text) = none := by
  have shorter := Path.render_ofText_le named
  have typed : (Path.verbatim text).render.utf8ByteSize ≤ maxPath := by
    unfold turnsAway? at passes
    split at passes
    · cases passes
    · omega
  rw [turnsAway?, if_neg (by omega), if_neg (Path.render_ne_empty (Path.tidy_ofText text) named)]

theorem start_ofText (cwd : Location) (text : String) :
    start cwd (Path.ofText text) = start cwd (Path.verbatim text) := by
  have same : (Path.ofText text).slashes = 0 ↔ (Path.verbatim text).slashes = 0 := by
    rw [Path.ofText]
    unfold Path.tidySlashes
    split <;> simp_all
  simp only [start, same]

/-- A file found by a path as it was typed is read by the tidied path. -/
theorem readFile_of_lookup (found : t.lookup cwd (Path.verbatim text) = .ok (.file content)) :
    t.readFile cwd (Path.ofText text) = .ok content := by
  have read : t.readFile cwd (Path.verbatim text) = .ok content := by rw [readFile, found]
  obtain ⟨l, resolved, stands⟩ := readFile_eq_ok.mp read
  obtain ⟨passes, walked⟩ := resolve_eq_ok.mp resolved
  have named : (Path.ofText text).steps ≠ [] := by
    intro still
    have directory := directory_of_walk (Path.steps_verbatim_ne_nil text) walked still
    rw [stands] at directory
    cases directory
  refine readFile_eq_ok.mpr ⟨l, ?_, stands⟩
  rw [resolve, turnsAway?_ofText passes named, start_ofText]
  exact walk_filter walked

end FileTree

namespace Command

/-- An input that passes its check is a file that can be read. -/
theorem readFile_of_checkInput {t : FileTree} {cwd : Location} {text : String}
    (passes : checkInput t cwd text = none) :
    ∃ content, t.lookup cwd (Path.verbatim text) = .ok (.file content) ∧
      t.readFile cwd (Path.ofText text) = .ok content := by
  unfold checkInput at passes
  dsimp only at passes
  split at passes
  · cases passes
  · split at passes
    · cases passes
    · cases passes
    · rename_i content found
      exact ⟨content, found, FileTree.readFile_of_lookup found⟩

end Command

end DeltaTape
