/-
# DeltaTape.Proofs.TidyPath — a tidy path, printed and read again, is the same path

A path is tidy when no name of it is empty, a dot, or holds a slash, and it has
at most two leading slashes.  Every path read with `Path.ofText` is tidy, and so
is what is joined from tidy paths.  Printing a tidy path loses nothing: it can be
taken apart again, verbatim or tidied.

* `Tidy.child`: what a text names below a tidy path is tidy;
* `verbatim_render` and `ofText_render`: printed and read again.
-/
import Mathlib
import DeltaTape.FileTree

namespace DeltaTape.Path

set_option autoImplicit false

/-- A name that an entry can have and that leads away from where it stands. -/
def IsName (name : String) : Prop := isStep name = true ∧ '/' ∉ name.toList

/-- A path with nothing in it to tidy. -/
structure Tidy (p : Path) : Prop where
  slashes : p.slashes ≤ 2
  names : ∀ name ∈ p.steps, IsName name

/-! ## Pieces -/

theorem pieces_eq_splitOn (text : List Char) : pieces text = text.splitOn '/' := by
  induction text with
  | nil => rfl
  | cons c text ih =>
      rw [List.splitOn_cons_eq_if_modifyHead, ← ih, pieces]
      by_cases slash : c = '/'
      · simp [slash]
      · cases cut : pieces text with
        | nil => exact absurd (ih ▸ cut) (List.splitOn_ne_nil '/' text)
        | cons first others => simp [slash]

theorem pieces_ne_nil (text : List Char) : pieces text ≠ [] := by
  rw [pieces_eq_splitOn]
  exact List.splitOn_ne_nil '/' text

theorem slash_notMem_pieces (text : List Char) : ∀ piece ∈ pieces text, '/' ∉ piece := by
  induction text with
  | nil => simp [pieces]
  | cons c text ih =>
      intro piece mem
      unfold pieces at mem
      split at mem
      · rcases List.mem_cons.mp mem with rfl | later
        · simp
        · exact ih piece later
      · rename_i other
        cases cut : pieces text with
        | nil => exact absurd cut (pieces_ne_nil text)
        | cons first others =>
            rw [cut] at mem ih
            rcases List.mem_cons.mp mem with rfl | later
            · have := ih first (by simp)
              simp [this, Ne.symm other]
            · exact ih piece (List.mem_cons_of_mem first later)

/-- The last piece of a text ends as the text does. -/
theorem exists_piece_append {ending : List Char} (whole : '/' ∉ ending) (text : List Char) :
    ∃ front, front ++ ending ∈ pieces (text ++ ending) := by
  induction text with
  | nil => exact ⟨[], by simp [pieces_eq_splitOn, List.splitOn_eq_singleton whole]⟩
  | cons c text ih =>
      obtain ⟨front, mem⟩ := ih
      rw [List.cons_append, pieces]
      split
      · exact ⟨front, List.mem_cons_of_mem [] mem⟩
      · cases cut : pieces (text ++ ending) with
        | nil => exact absurd cut (pieces_ne_nil _)
        | cons first others =>
            rw [cut] at mem
            rcases List.mem_cons.mp mem with same | later
            · exact ⟨c :: front, by simp [← same]⟩
            · exact ⟨front, by simp [later]⟩

/-! ## What is tidy -/

theorem tidySlashes_le (n : Nat) : tidySlashes n ≤ 2 := by
  unfold tidySlashes
  split <;> simp

theorem tidySlashes_eq_self {n : Nat} (few : n ≤ 2) : tidySlashes n = n := by
  interval_cases n <;> rfl

/-- A text is read as a tidy path. -/
theorem tidy_ofText (text : String) : (ofText text).Tidy where
  slashes := tidySlashes_le _
  names name mem := by
    obtain ⟨piece, step⟩ := List.mem_filter.mp mem
    obtain ⟨cs, cut, rfl⟩ := List.mem_map.mp piece
    exact ⟨step, by simpa using slash_notMem_pieces _ cs cut⟩

theorem Tidy.join {p q : Path} (tidy : p.Tidy) (tidy' : q.Tidy) : (p.join q).Tidy := by
  unfold Path.join
  split
  · refine ⟨tidy.slashes, ?_⟩
    intro name mem
    rcases List.mem_append.mp mem with mem | mem
    · exact tidy.names name mem
    · exact tidy'.names name mem
  · exact tidy'

/-- What a text names below a tidy path is tidy. -/
theorem Tidy.child {p : Path} (tidy : p.Tidy) (text : String) : (p.child text).Tidy :=
  tidy.join (tidy_ofText text)

theorem tidy_path {l : Location} (names : ∀ name ∈ l, IsName name) : (Location.path l).Tidy where
  slashes := by simp [Location.path]
  names name mem := names name (by simpa [Location.path] using mem)

/-! ## Printing and reading again -/

theorem toList_render {p : Path} (named : p.steps ≠ []) :
    p.render.toList =
      List.replicate p.slashes '/' ++ ['/'].intercalate (p.steps.map String.toList) := by
  rw [render, if_neg (fun bare => named bare.2)]
  simp

theorem IsName.toList_eq_cons {name : String} (isName : IsName name) :
    ∃ c cs, name.toList = c :: cs ∧ c ≠ '/' := by
  cases chars : name.toList with
  | nil =>
      have empty : name = "" := by simpa using chars
      have := isName.1
      simp [isStep, empty] at this
  | cons c cs =>
      refine ⟨c, cs, rfl, ?_⟩
      rintro rfl
      exact isName.2 (by simp [chars])

/-- The names of a tidy path, printed, do not begin with one more slash. -/
theorem exists_intercalate_eq_cons {p : Path} (tidy : p.Tidy) (named : p.steps ≠ []) :
    ∃ c cs, ['/'].intercalate (p.steps.map String.toList) = c :: cs ∧ c ≠ '/' := by
  cases steps : p.steps with
  | nil => exact absurd steps named
  | cons name names =>
      obtain ⟨c, cs, chars, other⟩ := (tidy.names name (by simp [steps])).toList_eq_cons
      cases names with
      | nil => exact ⟨c, cs, by simp [chars], other⟩
      | cons name' names =>
          refine ⟨c, cs ++ ['/'] ++ ['/'].intercalate ((name' :: names).map String.toList), ?_,
            other⟩
          rw [List.map_cons, List.map_cons, List.intercalate_cons_cons, chars]
          rfl

/-- A printed tidy path that has names is taken apart into the same path. -/
theorem verbatim_render {p : Path} (tidy : p.Tidy) (named : p.steps ≠ []) :
    verbatim p.render = p := by
  obtain ⟨c, cs, names, other⟩ := exists_intercalate_eq_cons tidy named
  have slashes : ∀ x ∈ List.replicate p.slashes '/', decide (x = '/') = true := by
    intro x mem
    simpa using List.eq_of_mem_replicate mem
  have front : p.render.toList.takeWhile (· = '/') = List.replicate p.slashes '/' := by
    rw [toList_render named, List.takeWhile_append_of_pos slashes, names]
    simp [other]
  have back : p.render.toList.dropWhile (· = '/') =
      ['/'].intercalate (p.steps.map String.toList) := by
    rw [toList_render named, List.dropWhile_append_of_pos slashes, names]
    simp [other]
  have whole : ∀ name ∈ p.steps.map String.toList, '/' ∉ name := by
    intro name mem
    obtain ⟨step, passed, rfl⟩ := List.mem_map.mp mem
    exact (tidy.names step passed).2
  have cut :
      pieces (['/'].intercalate (p.steps.map String.toList)) = p.steps.map String.toList := by
    rw [pieces_eq_splitOn]
    exact List.splitOn_intercalate '/' whole (by simpa using named)
  rw [verbatim, front, back, cut]
  simp [Function.comp_def]

/-- A printed tidy path that has names is read as the same path. -/
theorem ofText_render {p : Path} (tidy : p.Tidy) (named : p.steps ≠ []) :
    ofText p.render = p := by
  have steps : p.steps.filter isStep = p.steps :=
    List.filter_eq_self.mpr fun name mem => (tidy.names name mem).1
  rw [ofText, verbatim_render tidy named, tidySlashes_eq_self tidy.slashes, steps]

/-- A text that ends in more than one character, none of them a slash, has a name. -/
theorem steps_ofText_ne_nil (text ending : List Char) (whole : '/' ∉ ending)
    (long : 1 < ending.length) : (ofText (String.ofList (text ++ ending))).steps ≠ [] := by
  have kept : (text ++ ending).dropWhile (· = '/') = text.dropWhile (· = '/') ++ ending := by
    cases ending with
    | nil => simp at long
    | cons c ending =>
        have other : c ≠ '/' := fun same => whole (by simp [same])
        rw [List.dropWhile_append]
        split
        · rename_i dropped
          rw [List.isEmpty_iff.mp dropped]
          simp [other]
        · rfl
  obtain ⟨front, mem⟩ := exists_piece_append whole (text.dropWhile (· = '/'))
  have step : isStep (String.ofList (front ++ ending)) = true := by
    have length : 1 < (String.ofList (front ++ ending)).length := by simp; omega
    simp only [isStep, Bool.not_eq_true', Bool.or_eq_false_iff, decide_eq_false_iff_not]
    constructor
    · intro same
      rw [same] at length
      exact absurd length (by decide)
    · intro same
      rw [same] at length
      exact absurd length (by decide)
  apply List.ne_nil_of_mem (a := String.ofList (front ++ ending))
  refine List.mem_filter.mpr ⟨?_, step⟩
  simp only [verbatim, String.toList_ofList, kept]
  exact List.mem_map_of_mem mem

theorem steps_child_ne_nil (p : Path) {text : String} (named : (ofText text).steps ≠ []) :
    (p.child text).steps ≠ [] := by
  unfold child join
  split
  · simp [named]
  · exact named

end DeltaTape.Path
