/-
# DeltaTape.Proofs.TokenPlaces — where the tokens of a source stand

A reader counts lines and columns as it goes, comments included.  What it has
counted can be told from the text alone: the line by the line feeds before an
index, the column by the distance to the last of them.  The same line and column
lead back to the character, in the text cut at its line feeds.

* `Reached.after`: one more character keeps the count (`Reached`);
* `tokensFrom_marks`: so all tokens ahead stand where the text says;
* `pairwise_precedes`: and no two of them at one place, or out of order;
* `scan_marks`: both, for a whole source.
-/
import Mathlib
import DeltaTape.Token

namespace DeltaTape

set_option autoImplicit false

/-- The index of the last line feed before an index, and -1 if there is none. -/
def lastBreak (text : List Char) (i : Nat) : Int :=
  (((List.range i).filter fun j => text[j]? = some '\n').getLast?.map Int.ofNat).getD (-1)

/-- Whether one of the eight symbols stands at an index. -/
def isSymbolAt (text : List Char) (i : Nat) : Bool :=
  text[i]?.any fun c => c ∈ ['+', '-', '<', '>', '.', ',', '[', ']']

namespace Token

/-- A token stands for the character at an index: it has the instruction of this
symbol and the name of the file; its line is one more than there are line feeds
before the index, its column the distance to the last of them; and this line and
column, counted from one, lead to the symbol in the text cut at its line feeds. -/
structure Marks (text : List Char) (file : String) (i : Nat) (t : Token) : Prop where
  symbol : text[i]? = some t.instruction.symbol
  file : t.file = file
  line : t.line = 1 + (text.take i).count '\n'
  column : (t.column : Int) = i - lastBreak text i
  leads : ∃ above left row, t.line = above + 1 ∧ t.column = left + 1 ∧
    (text.splitOn '\n')[above]? = some row ∧ row[left]? = some t.instruction.symbol

/-- A token stands on an earlier line than another, or before it on the same line. -/
def Precedes (t u : Token) : Prop := t.line < u.line ∨ t.line = u.line ∧ t.column < u.column

end Token

theorem lastBreak_succ (text : List Char) (i : Nat) :
    lastBreak text (i + 1) = if text[i]? = some '\n' then (i : Int) else lastBreak text i := by
  unfold lastBreak
  rw [List.range_succ, List.filter_append, List.getLast?_append]
  by_cases feed : text[i]? = some '\n'
  · simp [feed]
  · simp [feed]

theorem isSymbolAt_eq {text : List Char} {i : Nat} {c : Char} (stands : text[i]? = some c) :
    isSymbolAt text i = (Instruction.ofSymbol? c).isSome := by
  rw [isSymbolAt, stands, Option.any_some, Bool.eq_iff_iff, decide_eq_true_iff,
    Option.isSome_iff_exists]
  simp only [Instruction.ofSymbol?_eq_some]
  constructor
  · intro mem
    fin_cases mem
    exacts [⟨.increment, rfl⟩, ⟨.decrement, rfl⟩, ⟨.moveLeft, rfl⟩, ⟨.moveRight, rfl⟩,
      ⟨.output, rfl⟩, ⟨.input, rfl⟩, ⟨.loopStart, rfl⟩, ⟨.loopEnd, rfl⟩]
  · rintro ⟨i, rfl⟩
    cases i <;> decide

namespace Reader

/-! ## What has been counted -/

/-- A reader that has `before` behind it and `ahead` in front of it has counted its
way to a spot: lines and columns are those of the text, and the text cut at its
line feeds is the lines it has passed, the part of its line that it has passed,
and what the text ahead is cut into. -/
structure Reached (text before ahead : List Char) (s : Spot) : Prop where
  whole : text = before ++ ahead
  line : s.line = 1 + before.count '\n'
  column : (s.column : Int) = before.length - lastBreak text before.length
  cut : ∃ passed part, s.line = passed.length + 1 ∧ s.column = part.length + 1 ∧
    text.splitOn '\n' = passed ++ (ahead.splitOn '\n').modifyHead (part ++ ·)

variable {text before ahead : List Char} {s : Spot} {c : Char} {file : String}

theorem modifyHead_nil_append (rows : List (List Char)) : rows.modifyHead ([] ++ ·) = rows := by
  cases rows <;> rfl

theorem Reached.start (text : List Char) : Reached text [] text {} where
  whole := rfl
  line := rfl
  column := rfl
  cut := ⟨[], [], rfl, rfl, by rw [List.nil_append, modifyHead_nil_append]⟩

theorem Reached.next (reached : Reached text before (c :: ahead) s) :
    text[before.length]? = some c := by
  rw [reached.whole]
  simp

theorem Reached.take (reached : Reached text before ahead s) :
    text.take before.length = before := by
  rw [reached.whole, List.take_left]

/-- One more character keeps the count. -/
theorem Reached.after (reached : Reached text before (c :: ahead) s) :
    Reached text (before ++ [c]) ahead (s.after c) := by
  have next := reached.next
  obtain ⟨whole, line, column, passed, part, above, left, cut⟩ := reached
  have here := lastBreak_succ text before.length
  rw [next] at here
  rw [List.splitOn_cons_eq_if_modifyHead] at cut
  by_cases feed : c = '\n'
  · subst feed
    refine ⟨by simp [whole], ?_, ?_, passed ++ [part], [], ?_, ?_, ?_⟩
    · simp [Spot.after, line]
      omega
    · simp [Spot.after, here]
    · simp [Spot.after, above]
    · simp [Spot.after]
    · rw [cut, modifyHead_nil_append]
      simp
  · refine ⟨by simp [whole], ?_, ?_, passed, part ++ [c], ?_, ?_, ?_⟩
    · simp [Spot.after, feed, line]
    · simp only [Spot.after, feed, if_false, List.length_append, List.length_singleton, here,
        Option.some.injEq]
      omega
    · simp [Spot.after, feed, above]
    · simp [Spot.after, feed, left]
    · simp only [cut, beq_iff_eq, feed, if_false, List.modifyHead_modifyHead]
      congr 2
      funext row
      simp

/-- An instruction is marked where the reader stands. -/
theorem Reached.marks (reached : Reached text before (c :: ahead) s) {i : Instruction}
    (written : c = i.symbol) :
    Token.Marks text file before.length ⟨i, s.line, s.column, file⟩ := by
  have next := reached.next
  have take := reached.take
  obtain ⟨whole, line, column, passed, part, above, left, cut⟩ := reached
  subst written
  have plain : i.symbol ≠ '\n' := by cases i <;> decide
  rw [List.splitOn_cons_eq_if_modifyHead] at cut
  simp only [beq_iff_eq, plain, if_false, List.modifyHead_modifyHead] at cut
  refine ⟨next, rfl, by rw [take]; exact line, column, passed.length, part.length, ?_⟩
  cases rows : ahead.splitOn '\n' with
  | nil => exact absurd rows (List.splitOn_ne_nil '\n' ahead)
  | cons row rows' =>
      rw [rows] at cut
      exact ⟨part ++ i.symbol :: row, above, left, by simp [cut], by simp⟩

/-! ## All tokens ahead -/

/-- The tokens ahead are those of the symbols ahead, each where it stands. -/
theorem tokensFrom_marks (file : String) (reached : Reached text before ahead s) :
    List.Forall₂ (Token.Marks text file)
      ((List.range' before.length ahead.length).filter (isSymbolAt text))
      (tokensFrom file s ahead) := by
  induction ahead generalizing before s with
  | nil => simp [tokensFrom]
  | cons c ahead ih =>
      have later := ih reached.after
      rw [List.length_append, List.length_singleton] at later
      rw [List.length_cons, List.range'_succ, List.filter_cons, isSymbolAt_eq reached.next,
        tokensFrom, tokenAt?]
      cases written : Instruction.ofSymbol? c with
      | none => exact later
      | some i => exact .cons (reached.marks (Instruction.ofSymbol?_eq_some.mp written)) later

/-- No token ahead stands before the spot of the reader. -/
theorem spot_le_of_mem {cs : List Char} {t : Token} (mem : t ∈ tokensFrom file s cs) :
    s.line < t.line ∨ s.line = t.line ∧ s.column ≤ t.column := by
  induction cs generalizing s with
  | nil => cases mem
  | cons c cs ih =>
      have onward : t ∈ tokensFrom file (s.after c) cs →
          s.line < t.line ∨ s.line = t.line ∧ s.column ≤ t.column := by
        intro later
        have := ih later
        unfold Spot.after at this
        split at this <;> dsimp only at this <;> omega
      rw [tokensFrom, tokenAt?] at mem
      cases written : Instruction.ofSymbol? c with
      | none =>
          rw [written] at mem
          exact onward mem
      | some i =>
          rw [written] at mem
          rcases List.mem_cons.mp mem with rfl | later
          · exact Or.inr ⟨rfl, le_rfl⟩
          · exact onward later

/-- Every token stands behind those before it. -/
theorem pairwise_precedes (file : String) (s : Spot) (cs : List Char) :
    (tokensFrom file s cs).Pairwise Token.Precedes := by
  induction cs generalizing s with
  | nil => exact .nil
  | cons c cs ih =>
      rw [tokensFrom, tokenAt?]
      cases written : Instruction.ofSymbol? c with
      | none => exact ih (s.after c)
      | some i =>
          refine .cons ?_ (ih (s.after c))
          intro t later
          -- An instruction is no line feed, so what follows it stands further right.
          have plain : c ≠ '\n' := by
            rintro rfl
            cases written
          have := spot_le_of_mem later
          rw [Spot.after, if_neg plain] at this
          unfold Token.Precedes
          dsimp only at this ⊢
          omega

end Reader

/-- **Where tokens stand.**  A source has exactly one token for each index at which
one of the eight symbols stands, in the order of the indices, and each stands for
the character at its index.  So tokens stand one behind the other. -/
theorem Token.scan_marks (source file : String) :
    List.Forall₂ (Marks source.toList file)
      ((List.range source.length).filter (isSymbolAt source.toList)) (scan source file) ∧
      (scan source file).Pairwise Precedes := by
  constructor
  · have marks := Reader.tokensFrom_marks file (Reader.Reached.start source.toList)
    rwa [List.length_nil, ← List.range_eq_range', String.length_toList] at marks
  · exact Reader.pairwise_precedes file {} source.toList

/-- A carriage return and a comment count as columns; an empty line counts as a line. -/
example : (Token.scan "é\r+\n\n ." "a").map (fun t => (t.line, t.column)) = [(1, 3), (3, 2)] := by
  decide +kernel

end DeltaTape
