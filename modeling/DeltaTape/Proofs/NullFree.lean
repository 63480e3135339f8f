/-
# DeltaTape.Proofs.NullFree — from texts without null characters to paths without them

The file system is never asked for a path with a null character, so what goes wrong
with one is not for it to say.  All paths of a call come from what was typed: the
values of switches and the operands are parts of the arguments, and the names of a
path are parts of the text it is read from.  So where nothing typed holds a null
character, no path does.

* `Path.hasNull_eq_false`: a path is free of them when its names are;
* `Path.hasNull_child` and `Sink.hasNull_targets`: what a text names below a path;
* `Command.Grammar.parse_nullFree`: the values and operands of a call.
-/
import Mathlib
import DeltaTape.Command.Arguments
import DeltaTape.Proofs.TidyPath
import DeltaTape.Sink

namespace DeltaTape

set_option autoImplicit false

/-- A text that holds no null character. -/
def NullFree (text : String) : Prop := '\x00' ∉ text.toList

instance (text : String) : Decidable (NullFree text) :=
  inferInstanceAs (Decidable ('\x00' ∉ text.toList))

theorem NullFree.append {text more : String} (free : NullFree text) (free' : NullFree more) :
    NullFree (text ++ more) := by
  unfold NullFree
  rw [String.toList_append, List.mem_append]
  exact not_or.mpr ⟨free, free'⟩

/-! ## Paths -/

namespace Path

/-- Between slashes stands what is in the names, and nothing else. -/
theorem mem_intercalate_slash {c : Char} (other : c ≠ '/') (names : List (List Char)) :
    c ∈ ['/'].intercalate names ↔ ∃ name ∈ names, c ∈ name := by
  induction names with
  | nil => simp
  | cons name names ih =>
      cases names with
      | nil => simp
      | cons name' names =>
          rw [List.intercalate_cons_cons]
          simp only [List.mem_append, List.mem_singleton, ih, other, or_false]
          simp only [List.exists_mem_cons_iff]

/-- A path holds no null character exactly when none of its names does. -/
theorem hasNull_eq_false {p : Path} : p.hasNull = false ↔ ∀ name ∈ p.steps, NullFree name := by
  rw [hasNull, Bool.eq_false_iff, Ne, List.contains_iff_mem]
  by_cases named : p.steps = []
  · have dots : '\x00' ∉ p.render.toList := by
      rw [render, named]
      split
      · decide
      · simp [List.mem_replicate]
    simp [named, dots]
  · rw [toList_render named, List.mem_append, mem_intercalate_slash (by decide)]
    simp [List.mem_replicate, NullFree]

theorem mem_of_mem_pieces {c : Char} {piece text : List Char} (cut : piece ∈ pieces text)
    (mem : c ∈ piece) : c ∈ text := by
  induction text generalizing piece with
  | nil =>
      rw [pieces, List.mem_singleton] at cut
      rwa [cut] at mem
  | cons c' text ih =>
      rw [pieces] at cut
      split at cut
      · rcases List.mem_cons.mp cut with rfl | later
        · cases mem
        · exact List.mem_cons_of_mem c' (ih later mem)
      · cases rest : pieces text with
        | nil => exact absurd rest (pieces_ne_nil text)
        | cons first others =>
            rw [rest] at cut ih
            rcases List.mem_cons.mp cut with rfl | later
            · rcases List.mem_cons.mp mem with rfl | onward
              · exact List.mem_cons_self
              · exact List.mem_cons_of_mem c' (ih List.mem_cons_self onward)
            · exact List.mem_cons_of_mem c' (ih (List.mem_cons_of_mem first later) mem)

theorem hasNull_verbatim {text : String} (free : NullFree text) :
    (verbatim text).hasNull = false := by
  rw [hasNull_eq_false]
  intro name mem
  obtain ⟨piece, cut, rfl⟩ := List.mem_map.mp mem
  intro null
  rw [String.toList_ofList] at null
  exact free ((List.dropWhile_sublist _).subset (mem_of_mem_pieces cut null))

theorem hasNull_ofText {text : String} (free : NullFree text) : (ofText text).hasNull = false := by
  have names := hasNull_eq_false.mp (hasNull_verbatim free)
  exact hasNull_eq_false.mpr fun name mem => names name (List.mem_of_mem_filter mem)

/-- What a text names below a path holds no null character if neither of them does. -/
theorem hasNull_child {p : Path} (clean : p.hasNull = false) {text : String}
    (free : NullFree text) : (p.child text).hasNull = false := by
  have below := hasNull_eq_false.mp (hasNull_ofText free)
  unfold child join
  split
  · rw [hasNull_eq_false]
    intro name mem
    rcases List.mem_append.mp mem with above | mem
    · exact hasNull_eq_false.mp clean name above
    · exact below name mem
  · exact hasNull_eq_false.mpr below

end Path

theorem Sink.hasNull_targets {directory : Path} (clean : directory.hasNull = false)
    {destinations : List String} (free : ∀ name ∈ destinations, NullFree name)
    {extension : String} (free' : NullFree extension) :
    ∀ p ∈ targets directory destinations extension, p.hasNull = false := by
  intro p target
  obtain ⟨name, mem, rfl⟩ := List.mem_map.mp target
  exact Path.hasNull_child clean ((free name mem).append free')

/-! ## Arguments -/

namespace Command.Grammar

/-- A value given with letters is made of letters. -/
theorem value_subset_letters {g : Grammar} {letters : List Char} {reading : Reading}
    (read : g.readLetters letters = .ok reading) :
    ∀ choice ∈ reading.choices, choice.value.toList ⊆ letters := by
  fun_induction readLetters g letters generalizing reading with
  | case1 => cases read; simp
  | case2 => cases read
  | case3 => cases read; simp
  | case4 => cases read; simp
  | case5 => cases read
  | case6 letter letters switch _ _ later rest ih =>
      cases read
      intro choice mem
      rcases List.mem_cons.mp mem with rfl | onward
      · simp
      · exact List.subset_cons_of_subset letter (ih rest choice onward)

theorem splitValue_subset {arg name value : String} (split : splitValue arg = (name, some value)) :
    value.toList ⊆ arg.toList := by
  rw [splitValue] at split
  have part := (List.dropWhile_sublist (l := arg.toList) (· ≠ '=')).subset
  cases rest : arg.toList.dropWhile (· ≠ '=') with
  | nil => rw [rest] at split; cases split
  | cons equals behind =>
      rw [rest] at split part
      cases split
      rw [String.toList_ofList]
      exact fun c mem => part (List.mem_cons_of_mem equals mem)

/-- A long switch has the value it was given, or none. -/
theorem value_of_readLong {switch : Switch} {name : String} {value : Option String}
    {reading : Reading} (read : readLong switch name value = .ok reading) :
    ∀ choice ∈ reading.choices, choice.value = "" ∨ value = some choice.value := by
  unfold readLong at read
  split at read <;> split at read <;> cases read <;> simp

/-- A value given in an argument is a part of it. -/
theorem value_subset_read {g : Grammar} {arg : String} {reading : Reading}
    (read : g.read arg = .ok reading) :
    ∀ choice ∈ reading.choices, choice.value.toList ⊆ arg.toList := by
  unfold Grammar.read at read
  intro choice mem
  split at read
  rename_i name value split
  split at read
  · rcases value_of_readLong read choice mem with empty | given
    · simp [empty]
    · rw [given] at split
      exact splitValue_subset split
  · split at read
    · cases read
    · exact fun c letter => List.drop_subset 1 _ (value_subset_letters read choice mem letter)

theorem exists_of_map_eq_ok {ε α β : Type} {f : α → β} {x : Except ε α} {b : β}
    (mapped : x.map f = .ok b) : ∃ a, x = .ok a ∧ f a = b := by
  cases x with
  | error e => cases mapped
  | ok a => exact ⟨a, rfl, Except.ok.inj mapped⟩

/-- A call without null characters has values and operands without them. -/
theorem parse_nullFree {g : Grammar} {args : List String} {a : Arguments}
    (free : ∀ arg ∈ args, NullFree arg) (parsed : g.parse args = .ok a) :
    (∀ choice ∈ a.choices, NullFree choice.value) ∧ ∀ operand ∈ a.operands, NullFree operand := by
  have values : ∀ {arg : String} {reading : Reading}, NullFree arg → g.read arg = .ok reading →
      ∀ choice ∈ reading.choices, NullFree choice.value :=
    fun free read choice mem null => free (value_subset_read read choice mem null)
  fun_induction parse g args generalizing a with
  | case1 => cases parsed; simp
  | case2 args =>
      cases parsed
      exact ⟨by simp, (List.forall_mem_cons.mp free).2⟩
  | case3 => cases parsed
  | case4 arg args _ _ choices read ih =>
      obtain ⟨first, others⟩ := List.forall_mem_cons.mp free
      obtain ⟨later, rest, rfl⟩ := exists_of_map_eq_ok parsed
      obtain ⟨chosen, operands⟩ := ih others rest
      exact ⟨List.forall_mem_append.mpr ⟨values first read, chosen⟩, operands⟩
  | case5 => cases parsed
  | case6 arg _ _ choices switch name read value args ih =>
      obtain ⟨first, given, others⟩ :
          NullFree arg ∧ NullFree value ∧ ∀ arg ∈ args, NullFree arg := by
        simpa using free
      obtain ⟨later, rest, rfl⟩ := exists_of_map_eq_ok parsed
      obtain ⟨chosen, operands⟩ := ih others rest
      have here : ∀ choice ∈ choices ++ [⟨switch, value⟩], NullFree choice.value :=
        List.forall_mem_append.mpr ⟨values first read, by simpa using given⟩
      exact ⟨List.forall_mem_append.mpr ⟨here, chosen⟩, operands⟩
  | case7 arg args _ _ _ ih =>
      obtain ⟨first, others⟩ := List.forall_mem_cons.mp free
      obtain ⟨later, rest, rfl⟩ := exists_of_map_eq_ok parsed
      obtain ⟨chosen, operands⟩ := ih others rest
      exact ⟨chosen, List.forall_mem_cons.mpr ⟨first, operands⟩⟩
  | case8 arg args =>
      cases parsed
      exact ⟨by simp, free⟩

end Command.Grammar

end DeltaTape
