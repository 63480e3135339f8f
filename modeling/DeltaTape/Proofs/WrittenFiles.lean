/-
# DeltaTape.Proofs.WrittenFiles — what the sink has written can be read

Destinations may lie anywhere, name the same file in several ways, or overwrite
what was there.  None of this keeps a written file from being read through the
path it was written to: a file is only ever written where no directory stands,
so every path that led somewhere still does (`Settles`), and where two paths lead
to one file, both have put the same content there.

* `Settles.walk`: paths that can be followed stay so;
* `writeFile_settles`: one written file, and all else as readable as before;
* `Sink.readFile_of_write`: after the work, every destination holds the text.
-/
import Mathlib
import DeltaTape.Sink

namespace DeltaTape

set_option autoImplicit false

namespace FileTree

/-- `t'` is `t` after one content was written to some places: directories are
still directories, nothing has disappeared, and what held the content holds it. -/
structure Settles (content : List UInt8) (t t' : FileTree) : Prop where
  directory : ∀ {l}, t.get? l = some .directory → t'.get? l = some .directory
  entry : ∀ {l}, (t.get? l).isSome → (t'.get? l).isSome
  file : ∀ {l}, t.get? l = some (.file content) → t'.get? l = some (.file content)

variable {content : List UInt8} {t t' t'' : FileTree} {cwd here there l : Location} {p : Path}

theorem Settles.refl : Settles content t t := ⟨id, id, id⟩

theorem Settles.trans (first : Settles content t t') (second : Settles content t' t'') :
    Settles content t t'' :=
  ⟨fun h => second.directory (first.directory h), fun h => second.entry (first.entry h),
    fun h => second.file (first.file h)⟩

theorem settles_set (free : t.get? l ≠ some .directory) :
    Settles content t (t.set l (.file content)) := by
  refine ⟨?_, ?_, ?_⟩ <;> intro l' before <;> rw [get?_set] <;> split
  · rename_i same
    exact absurd (same ▸ before) free
  · exact before
  · rfl
  · exact before
  · rfl
  · exact before

/-! ## What it takes to follow a path -/

/-- A name leads on from a directory only. -/
theorem reach_eq_ok {name : String} (reached : t.reach here name = .ok there) :
    t.get? here = some .directory := by
  unfold reach at reached
  split at reached
  · cases reached
  · cases reached
  · assumption

/-- From a directory, a name leads to the same place in all trees. -/
theorem reach_of_directory {name : String} (reached : t.reach here name = .ok there)
    (stands : t'.get? here = some .directory) : t'.reach here name = .ok there := by
  rw [← reached]
  unfold reach
  rw [reach_eq_ok reached, stands]

theorem enter_eq_ok {name : String} : t.enter here name = .ok there ↔
    t.reach here name = .ok there ∧ (t.get? there).isSome := by
  unfold enter
  cases t.reach here name with
  | error r => simp
  | ok found =>
      dsimp only
      split
      · rename_i stands
        rw [Except.ok.injEq]
        refine ⟨?_, And.left⟩
        rintro rfl
        exact ⟨rfl, stands⟩
      · rename_i missing
        refine ⟨by rintro ⟨⟩, ?_⟩
        rintro ⟨⟨⟩, stands⟩
        exact absurd stands missing

theorem walk_cons_eq_ok {name : String} {names : List String} :
    t.walk here (name :: names) = .ok there ↔
      ∃ next, t.enter here name = .ok next ∧ t.walk next names = .ok there := by
  rw [walk]
  cases t.enter here name <;> simp

theorem walk_append_eq_ok {names names' : List String} :
    t.walk here (names ++ names') = .ok there ↔
      ∃ next, t.walk here names = .ok next ∧ t.walk next names' = .ok there := by
  induction names generalizing here with
  | nil => simp [walk]
  | cons name names ih =>
      simp only [List.cons_append, walk_cons_eq_ok, ih]
      constructor
      · rintro ⟨next, entered, next', walked, onward⟩
        exact ⟨next', ⟨next, entered, walked⟩, onward⟩
      · rintro ⟨next', ⟨next, entered, walked⟩, onward⟩
        exact ⟨next, entered, next', walked, onward⟩

theorem resolve_eq_ok : t.resolve cwd p = .ok l ↔
    turnsAway? p = none ∧ t.walk (start cwd p) p.steps = .ok l := by
  unfold resolve
  cases turnsAway? p <;> simp

/-- A path names the place where it starts, or where its last name leads to from
the place that the others lead to. -/
theorem slot_eq_ok : t.slot cwd p = .ok l ↔ turnsAway? p = none ∧
    (p.steps = [] ∧ start cwd p = l ∨ ∃ front name here, p.steps = front ++ [name] ∧
      t.walk (start cwd p) front = .ok here ∧ t.reach here name = .ok l) := by
  unfold slot
  cases turnsAway? p with
  | some r => simp
  | none =>
      rcases List.eq_nil_or_concat p.steps with bare | ⟨front, name, steps⟩
      · simp [bare]
      · rw [List.concat_eq_append] at steps
        rw [steps, List.getLast?_concat, List.dropLast_concat]
        dsimp only
        cases walked : t.walk (start cwd p) front with
        | error r => simp [walked]
        | ok here => simp [walked]

/-! ## Paths that can be followed stay so -/

theorem Settles.enter (settles : Settles content t t') {name : String}
    (entered : t.enter here name = .ok there) : t'.enter here name = .ok there := by
  obtain ⟨reached, stands⟩ := enter_eq_ok.mp entered
  have directory := settles.directory (reach_eq_ok reached)
  exact enter_eq_ok.mpr ⟨reach_of_directory reached directory, settles.entry stands⟩

theorem Settles.walk (settles : Settles content t t') {names : List String}
    (walked : t.walk here names = .ok there) : t'.walk here names = .ok there := by
  induction names generalizing here with
  | nil => exact walked
  | cons name names ih =>
      obtain ⟨next, entered, onward⟩ := walk_cons_eq_ok.mp walked
      exact walk_cons_eq_ok.mpr ⟨next, settles.enter entered, ih onward⟩

theorem Settles.slot (settles : Settles content t t') (named : t.slot cwd p = .ok l) :
    t'.slot cwd p = .ok l := by
  obtain ⟨passes, bare | ⟨front, name, here, steps, walked, reached⟩⟩ := slot_eq_ok.mp named
  · exact slot_eq_ok.mpr ⟨passes, Or.inl bare⟩
  · have directory := settles.directory (reach_eq_ok reached)
    exact slot_eq_ok.mpr ⟨passes, Or.inr ⟨front, name, here, steps, settles.walk walked,
      reach_of_directory reached directory⟩⟩

theorem readFile_eq_ok : t.readFile cwd p = .ok content ↔
    ∃ l, t.resolve cwd p = .ok l ∧ t.get? l = some (.file content) := by
  unfold readFile lookup
  cases t.resolve cwd p with
  | error r => simp
  | ok l =>
      dsimp only
      cases stands : t.get? l with
      | none => simp [stands]
      | some e => cases e <;> simp [stands]

theorem Settles.resolve (settles : Settles content t t') (resolved : t.resolve cwd p = .ok l) :
    t'.resolve cwd p = .ok l := by
  obtain ⟨passes, walked⟩ := resolve_eq_ok.mp resolved
  exact resolve_eq_ok.mpr ⟨passes, settles.walk walked⟩

theorem Settles.readFile (settles : Settles content t t')
    (read : t.readFile cwd p = .ok content) : t'.readFile cwd p = .ok content := by
  obtain ⟨l, resolved, stands⟩ := readFile_eq_ok.mp read
  exact readFile_eq_ok.mpr ⟨l, settles.resolve resolved, settles.file stands⟩

/-! ## One file -/

/-- Where something stands, the location a path names is the one it leads to. -/
theorem resolve_of_slot (named : t.slot cwd p = .ok l) (stands : (t.get? l).isSome) :
    t.resolve cwd p = .ok l := by
  obtain ⟨passes, ⟨bare, rfl⟩ | ⟨front, name, here, steps, walked, reached⟩⟩ := slot_eq_ok.mp named
  · exact resolve_eq_ok.mpr ⟨passes, by rw [bare, walk]⟩
  · have entered := enter_eq_ok.mpr ⟨reached, stands⟩
    refine resolve_eq_ok.mpr ⟨passes, ?_⟩
    rw [steps]
    exact walk_append_eq_ok.mpr ⟨here, walked, walk_cons_eq_ok.mpr ⟨l, entered, rfl⟩⟩

/-- The location a path leads to is the one it names. -/
theorem slot_of_resolve (resolved : t.resolve cwd p = .ok l) : t.slot cwd p = .ok l := by
  obtain ⟨passes, walked⟩ := resolve_eq_ok.mp resolved
  refine slot_eq_ok.mpr ⟨passes, ?_⟩
  rcases List.eq_nil_or_concat p.steps with bare | ⟨front, name, steps⟩
  · rw [bare, walk] at walked
    exact Or.inl ⟨bare, Except.ok.inj walked⟩
  · rw [List.concat_eq_append] at steps
    rw [steps] at walked
    obtain ⟨here, before, last⟩ := walk_append_eq_ok.mp walked
    obtain ⟨next, entered, ends⟩ := walk_cons_eq_ok.mp last
    cases ends
    exact Or.inr ⟨front, name, here, steps, before, (enter_eq_ok.mp entered).1⟩

/-- What was put at the location a path names, the path leads to. -/
theorem Settles.resolve_set {e : Entry} (settles : Settles content t (t.set l e))
    (named : t.slot cwd p = .ok l) : (t.set l e).resolve cwd p = .ok l :=
  resolve_of_slot (settles.slot named) (by simp [get?_set])

/-- A written file can be read, and all else can as before. -/
theorem writeFile_settles (written : t.writeFile cwd p content = .ok t') :
    Settles content t t' ∧ t'.readFile cwd p = .ok content := by
  obtain ⟨l, named, free, rfl⟩ := writeFile_keeps written
  have settles : Settles content t (t.set l (.file content)) := settles_set free
  refine ⟨settles, readFile_eq_ok.mpr ⟨l, settles.resolve_set named, ?_⟩⟩
  rw [get?_set, if_pos rfl]

end FileTree

/-! ## All destinations -/

namespace Sink

open FileTree

variable {content : List UInt8} {t : FileTree} {cwd : Location}

/-- Without an error, every path was clean, all that could be read before still
can, and every path leads to the content. -/
theorem writeAll_settles {paths : List Path}
    (succeeded : (writeAll cwd content t paths).error = none) :
    Settles content t (writeAll cwd content t paths).tree ∧
      ∀ p ∈ paths, p.hasNull = false ∧
        (writeAll cwd content t paths).tree.readFile cwd p = .ok content := by
  induction paths generalizing t with
  | nil => exact ⟨Settles.refl, by simp⟩
  | cons p paths ih =>
      rw [writeAll] at succeeded ⊢
      split at succeeded
      · cases succeeded
      · rename_i clean
        rw [if_neg clean]
        cases written : t.writeFile cwd p content with
        | error r => rw [written] at succeeded; cases succeeded
        | ok t' =>
            rw [written] at succeeded
            obtain ⟨settles, read⟩ := writeFile_settles written
            obtain ⟨settled, later⟩ := ih (t := t') succeeded
            refine ⟨settles.trans settled, ?_⟩
            intro q mem
            rcases List.mem_cons.mp mem with rfl | mem
            · exact ⟨by simpa using clean, settled.readFile read⟩
            · exact later q mem

/-- After an output was written, every destination can be read and holds the text. -/
theorem readFile_of_write {output : Output} {directory : Path} {extension : String}
    (succeeded : (write t cwd output directory extension).error = none) {p : Path}
    (target : p ∈ targets directory output.destinations extension) :
    p.hasNull = false ∧ (write t cwd output directory extension).tree.readFile cwd p =
      .ok (Text.Utf8.encode output.compiled) := by
  rw [write] at succeeded ⊢
  split at succeeded
  · cases succeeded
  · rename_i clean
    rw [if_neg clean]
    cases made : t.makeDirectories cwd directory with
    | mk t' refusal =>
        rw [made] at succeeded
        cases refusal with
        | some r => cases succeeded
        | none => exact (writeAll_settles succeeded).2 p target

end Sink

end DeltaTape
