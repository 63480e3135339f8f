/-
# DeltaTape.Proofs.ComplaintPlace — where in a file a complaint leads

A complaint about long form has a line and a column, and names the file.  But what is read of
a file is its text without the blanks at its ends, so the column is counted from the first
character that is not blank, and the line is always the first.  Whole steps hold no line
feed, so with nothing dropped in front this is the place of the bad step in the file.  With
anything dropped it is not: a line feed makes the line wrong, and other blanks the column.

* `Text.exists_trail`: a text, its blanks in front, and what is left of it;
* `lastBreak_append`: without a line feed on the way, the last one before stays the same;
* `addresses_behind` and `addresses_first_iff`: the place of what stands behind such a way;
* `place_of_complaint`: where the complaint of a call is placed, and where it should be.
-/
import Mathlib
import DeltaTape.Proofs.ReplayOutcome
import DeltaTape.Proofs.TokenPlaces
import DeltaTape.Proofs.ViableText

namespace DeltaTape

set_option autoImplicit false

/-- A text is its blanks in front, what is left without the blanks at both ends, and blanks. -/
theorem Text.exists_trail (text : List Char) :
    ∃ trail, (∀ c ∈ trail, isBlank c = true) ∧
      text = text.takeWhile isBlank ++ trimmed text ++ trail := by
  refine ⟨((text.dropWhile isBlank).reverse.takeWhile isBlank).reverse, ?_, ?_⟩
  · intro c mem
    exact List.mem_takeWhile_imp (List.mem_reverse.mp mem)
  · rw [List.append_assoc, trimmed, ← List.reverse_append, List.takeWhile_append_dropWhile,
      List.reverse_reverse, List.takeWhile_append_dropWhile]

/-! ## Places in a text -/

/-- A line and a column, both counted from one, lead to the character at an index: the line is
one more than there are line feeds before the index, and the column is the distance to the
last of them. -/
structure Addresses (text : List Char) (line column : Int) (i : Nat) : Prop where
  stands : i < text.length
  line : line = 1 + (text.take i).count '\n'
  column : column = i - lastBreak text i

variable {before between behind : List Char}

/-- Without a line feed on the way, the last one before stays the same. -/
theorem lastBreak_append (plain : '\n' ∉ between) :
    lastBreak (before ++ between ++ behind) (before.length + between.length) =
      lastBreak (before ++ between ++ behind) before.length := by
  suffices onward : ∀ k ≤ between.length,
      lastBreak (before ++ between ++ behind) (before.length + k) =
        lastBreak (before ++ between ++ behind) before.length from onward _ le_rfl
  intro k
  induction k with
  | zero => exact fun _ => rfl
  | succ k ih =>
      intro within
      have here : (before ++ between ++ behind)[before.length + k]? = between[k]? := by
        rw [List.append_assoc, List.getElem?_append_right (Nat.le_add_right _ _),
          Nat.add_sub_cancel_left, List.getElem?_append_left within]
      have other : (before ++ between ++ behind)[before.length + k]? ≠ some '\n' := by
        rw [here]
        exact fun feed => plain (List.mem_of_getElem? feed)
      rw [← Nat.add_assoc, lastBreak_succ, if_neg other, ih (Nat.le_of_succ_le within)]

/-- Where no line feed is, there is no last one. -/
theorem lastBreak_of_plain (plain : '\n' ∉ before) :
    lastBreak (before ++ behind) before.length = -1 := by
  have onward : lastBreak ([] ++ before ++ behind) (0 + before.length) =
      lastBreak ([] ++ before ++ behind) 0 := lastBreak_append plain
  rw [List.nil_append, Nat.zero_add] at onward
  rw [onward]
  rfl

section Behind

variable (plain : '\n' ∉ between) (more : behind ≠ [])
include plain more

/-- What stands behind a way without line feeds is on the line where the way began. -/
theorem addresses_behind (before : List Char) :
    Addresses (before ++ between ++ behind) (1 + before.count '\n')
      (before.length + between.length - lastBreak (before ++ between ++ behind) before.length)
      (before.length + between.length) where
  stands := by
    have := List.length_pos_iff.mpr more
    simp only [List.length_append]
    omega
  line := by
    rw [← List.length_append, List.take_left, List.count_append,
      List.count_eq_zero.mpr plain]
    rfl
  column := by
    rw [lastBreak_append plain]
    push_cast
    rfl

/-- It is on the first line, as far right as the way is long, only if the way began with the
text. -/
theorem addresses_first_iff :
    Addresses (before ++ between ++ behind) 1 (between.length + 1)
      (before.length + between.length) ↔ before = [] := by
  have place := addresses_behind plain more before
  constructor
  · intro first
    have level := first.line.trans place.line.symm
    have apart := first.column.trans place.column.symm
    -- The right line means that no line feed was passed, and then only the columns count.
    have none : before.count '\n' = 0 := by omega
    rw [List.append_assoc, lastBreak_of_plain (List.count_eq_zero.mp none)] at apart
    exact List.eq_nil_of_length_eq_zero (by omega)
  · rintro rfl
    have start : lastBreak (between ++ behind) 0 = -1 := rfl
    simpa [start] using place

end Behind

/-! ## Places of complaints -/

/-- Whole steps hold no line feed. -/
theorem LongForm.feed_notMem_of_whole {steps : List Step} (whole : ∀ s ∈ steps, s.Whole) :
    '\n' ∉ steps.flatMap Step.text := by
  intro mem
  have low := (mem_steps_range whole mem).1
  exact absurd low (by decide)

/-- A diagnostic that has a place begins with it. -/
theorem Diagnostic.render_of_place {d : Diagnostic} {place : Place}
    (placed : d.place = some place) : ∃ what, d.render = place.render ++ ": error: " ++ what := by
  simp only [Diagnostic.render, placed]
  split
  · exact ⟨d.message, rfl⟩
  · exact ⟨d.message, rfl⟩
  next hint _ _ =>
    exact ⟨d.message ++ "\nhint: " ++ hint, by simp only [String.append_assoc]⟩

namespace Command

/-- **Where a complaint leads.**  Take a call of `replay` for a file that is there and whose
text is refused.  The text is blanks, whole steps, the bad step with what follows it, and
blanks.  The call prints the first line and the column of the bad step behind the blanks in
front.  The bad step stands on the line where those blanks end, as far right of the last line
feed as the blanks behind it and the steps reach.  So the printed place is that of the bad step
exactly when no blanks are in front. -/
theorem place_of_complaint {t : FileTree} {cwd : Location} {call : List String} {file : String}
    {bytes : List UInt8} {text verbose : Bool} {d : Diagnostic}
    (asked : Replay.Asks call file text verbose) (there : Leads t cwd file bytes)
    (refused : LongForm.replay (longText bytes) (Path.ofText file).render =
      .error (.malformed d)) :
    ∃ lead steps rest trail,
      textOfBytes bytes = lead ++ steps.flatMap LongForm.Step.text ++ (rest ++ trail) ∧
      lead = (textOfBytes bytes).takeWhile Text.isBlank ∧
      (∀ c ∈ trail, Text.isBlank c = true) ∧
      LongForm.Longest (longText bytes).toList steps rest ∧
      (run t cwd call).exit = .buildError ∧
      (∃ what, (run t cwd call).stderr =
        Text.plain (Place.render ⟨(Path.ofText file).render, 1, LongForm.Step.width steps + 1⟩ ++
          ": error: " ++ what) ++ "\n") ∧
      Addresses (textOfBytes bytes) (1 + lead.count '\n')
        (lead.length + LongForm.Step.width steps - lastBreak (textOfBytes bytes) lead.length)
        (lead.length + LongForm.Step.width steps) ∧
      (Addresses (textOfBytes bytes) 1 (LongForm.Step.width steps + 1)
        (lead.length + LongForm.Step.width steps) ↔ lead = []) := by
  obtain ⟨steps, rest, longest, complaint, placed⟩ := LongForm.exists_complaint refused
  obtain ⟨trail, blank, content⟩ := Text.exists_trail (textOfBytes bytes)
  obtain ⟨lead, front⟩ : ∃ lead, lead = (textOfBytes bytes).takeWhile Text.isBlank := ⟨_, rfl⟩
  have held : Text.trimmed (textOfBytes bytes) = steps.flatMap LongForm.Step.text ++ rest := by
    rw [← longest.cut, longText, String.toList_ofList]
  have whole : textOfBytes bytes =
      lead ++ steps.flatMap LongForm.Step.text ++ (rest ++ trail) := by
    rw [held, ← front] at content
    simpa only [List.append_assoc] using content
  have plain := LongForm.feed_notMem_of_whole longest.whole
  have more : rest ++ trail ≠ [] := by simp [complaint.ne_nil]
  obtain ⟨what, rendered⟩ := Diagnostic.render_of_place placed
  refine ⟨lead, steps, rest, trail, whole, front, blank, longest, ?_, ⟨what, ?_⟩, ?_, ?_⟩
  · rw [Replay.run_refused asked there refused]
    rfl
  · rw [Replay.run_refused asked there refused]
    simp [Outcome.failed, Failure.ofReadError, Failure.report, Failure.exitCode,
      Failure.heading, Failure.message, rendered]
  · rw [whole]
    exact addresses_behind plain more lead
  · rw [whole]
    exact addresses_first_iff plain more

/-- A file whose second line is indented and has a bad step at its fourth column. -/
def indentedTree : FileTree :=
  FileTree.root.set ["f"] (.file [0x0A, 0x20, 0x33, 0x2B, 0x78])

theorem indentedTree_leads : Leads indentedTree [] "f" [0x0A, 0x20, 0x33, 0x2B, 0x78] :=
  ⟨by decide +kernel, rfl⟩

theorem indentedTree_refused :
    LongForm.replay (longText [0x0A, 0x20, 0x33, 0x2B, 0x78]) (Path.ofText "f").render =
      .error (.malformed ((LongForm.BadStep.unexpected 'x').diagnostic "f" 3)) := by
  decide +kernel

/-- Its one whole step takes two characters. -/
theorem indentedTree_width {steps : List LongForm.Step} {rest : List Char}
    (longest : LongForm.Longest (longText [0x0A, 0x20, 0x33, 0x2B, 0x78]).toList steps rest) :
    LongForm.Step.width steps = 2 := by
  obtain ⟨steps', rest', longest', -, placed⟩ := LongForm.exists_complaint indentedTree_refused
  have least := longest'.longest steps rest longest.whole longest.cut
  have most := longest.longest steps' rest' longest'.whole longest'.cut
  have column := LongForm.BadStep.column_eq placed
  omega

/-- The bad step is the fourth character of the second line, and what is printed is the third of
the first. -/
theorem place_of_complaint_indented :
    (∃ what, (run indentedTree [] ["replay", "f"]).stderr =
      Text.plain ("f:1:3" ++ ": error: " ++ what) ++ "\n") ∧
    Addresses ['\n', ' ', '3', '+', 'x'] 2 4 4 := by
  obtain ⟨lead, steps, rest, trail, -, front, -, longest, -, ⟨what, printed⟩, place, -⟩ :=
    place_of_complaint (Replay.asks_plain (by decide)) indentedTree_leads indentedTree_refused
  have width := indentedTree_width longest
  have content : textOfBytes [0x0A, 0x20, 0x33, 0x2B, 0x78] = ['\n', ' ', '3', '+', 'x'] := by
    decide +kernel
  obtain rfl : lead = ['\n', ' '] := by
    rw [front, content]
    rfl
  rw [width] at printed place
  rw [content] at place
  exact ⟨⟨what, printed⟩, place⟩

/-- It is not so that the place a call prints is always that of the bad step in the file. -/
theorem place_of_complaint_elsewhere :
    ¬ ∀ (t : FileTree) (cwd : Location) (call : List String) (file : String)
      (bytes : List UInt8) (text verbose : Bool) (d : Diagnostic) (place : Place)
      (steps : List LongForm.Step) (rest : List Char),
      Replay.Asks call file text verbose → Leads t cwd file bytes →
      LongForm.replay (longText bytes) (Path.ofText file).render = .error (.malformed d) →
      d.place = some place → LongForm.Longest (longText bytes).toList steps rest →
      Addresses (textOfBytes bytes) place.line place.column
        (((textOfBytes bytes).takeWhile Text.isBlank).length + LongForm.Step.width steps) := by
  intro exact
  obtain ⟨steps, rest, longest, -, placed⟩ := LongForm.exists_complaint indentedTree_refused
  have wrong := exact _ _ _ _ _ _ _ _ _ _ _ (Replay.asks_plain (by decide)) indentedTree_leads
    indentedTree_refused placed longest
  have line := wrong.line
  rw [indentedTree_width longest] at line
  exact absurd line (by decide +kernel)

end Command

end DeltaTape
