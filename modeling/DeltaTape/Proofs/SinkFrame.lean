/-
# DeltaTape.Proofs.SinkFrame — what the sink changes, and what it leaves alone

The sink creates directories and writes one content to files.  At each location it
does one of three things (`Touched`): it leaves what stands there; it creates a
directory where nothing stood, and a beginning of the output directory leads there;
or it puts the content where no directory stood, and a path it wrote leads there.
Where a path leads is told by the tree that is left, since what is created on the
way only adds to what can be followed (`Settles`).

None of this depends on whether the work came to its end.

* `Grows.trans`: the three things, done one after the other;
* `makeChain_grows` and `writeAll_grows`: creating directories, writing files;
* `write_grows`: the sink, with or without an error;
* `leaves_of_write`: the files and directories that a finished write leaves.
-/
import Mathlib
import DeltaTape.Proofs.WrittenFiles

namespace DeltaTape

set_option autoImplicit false

/-- The paths that a path begins with, itself among them. -/
def Path.beginnings (p : Path) : List Path :=
  p.steps.inits.map fun front => ⟨p.slashes, front⟩

namespace FileTree

/-! ## One location -/

/-- What may happen at a location between two trees, where directories are made at
the paths `made` and the content is written to the paths `written`. -/
inductive Touched (cwd : Location) (content : List UInt8) (made written : List Path)
    (t t' : FileTree) (l : Location) : Prop where
  | kept (same : t'.get? l = t.get? l)
  | created (free : t.get? l = none) (stands : t'.get? l = some .directory) (p : Path)
      (mem : p ∈ made) (leads : t'.resolve cwd p = .ok l)
  | filled (free : t.get? l ≠ some .directory) (stands : t'.get? l = some (.file content))
      (p : Path) (mem : p ∈ written) (leads : t'.resolve cwd p = .ok l)

/-- A tree that has grown by directories at the paths `made`, and by files at the
paths `written` that hold the content. -/
structure Grows (cwd : Location) (content : List UInt8) (made written : List Path)
    (t t' : FileTree) : Prop where
  settles : Settles content t t'
  touched : ∀ l, Touched cwd content made written t t' l

variable {cwd : Location} {content : List UInt8} {made made' written written' : List Path}
variable {t t' t'' : FileTree} {l : Location} {p : Path}

theorem Grows.refl : Grows cwd content made written t t := ⟨Settles.refl, fun _ => .kept rfl⟩

theorem Grows.mono (grows : Grows cwd content made written t t') (more : made ⊆ made')
    (more' : written ⊆ written') : Grows cwd content made' written' t t' where
  settles := grows.settles
  touched l := by
    cases grows.touched l with
    | kept same => exact .kept same
    | created free stands p mem leads => exact .created free stands p (more mem) leads
    | filled free stands p mem leads => exact .filled free stands p (more' mem) leads

theorem Grows.trans (first : Grows cwd content made written t t')
    (second : Grows cwd content made written t' t'') : Grows cwd content made written t t'' where
  settles := first.settles.trans second.settles
  touched l := by
    cases second.touched l with
    | kept same =>
        -- A path that led there before still does.
        cases first.touched l with
        | kept before => exact .kept (same.trans before)
        | created free stands p mem leads =>
            exact .created free (same.trans stands) p mem (second.settles.resolve leads)
        | filled free stands p mem leads =>
            exact .filled free (same.trans stands) p mem (second.settles.resolve leads)
    | created free stands p mem leads =>
        cases first.touched l with
        | kept before => exact .created (before ▸ free) stands p mem leads
        | created _ already => rw [already] at free; cases free
        | filled _ already => rw [already] at free; cases free
    | filled free stands p mem leads =>
        cases first.touched l with
        | kept before => exact .filled (before ▸ free) stands p mem leads
        | created _ already => exact absurd already free
        | filled empty => exact .filled empty stands p mem leads

/-- Where no written path leads, files are as they were, and there are no others. -/
theorem Grows.file_iff (grows : Grows cwd content made written t t')
    (elsewhere : ∀ p ∈ written, t'.resolve cwd p ≠ .ok l) (c : List UInt8) :
    t'.get? l = some (.file c) ↔ t.get? l = some (.file c) := by
  cases grows.touched l with
  | kept same => rw [same]
  | created free stands => simp [free, stands]
  | filled _ _ p mem leads => exact absurd leads (elsewhere p mem)

/-- A file stays a file. -/
theorem Grows.file (grows : Grows cwd content made written t t') {c : List UInt8}
    (before : t.get? l = some (.file c)) : ∃ c', t'.get? l = some (.file c') := by
  cases grows.touched l with
  | kept same => exact ⟨c, same.trans before⟩
  | created free => rw [free] at before; cases before
  | filled _ stands => exact ⟨content, stands⟩

/-- A directory stood there before, or was created by one of the paths. -/
theorem Grows.directory (grows : Grows cwd content made written t t')
    (after : t'.get? l = some .directory) :
    t.get? l = some .directory ∨ t.get? l = none ∧ ∃ p ∈ made, t'.resolve cwd p = .ok l := by
  cases grows.touched l with
  | kept same => exact Or.inl (same ▸ after)
  | created free _ p mem leads => exact Or.inr ⟨free, p, mem, leads⟩
  | filled _ stands => rw [stands] at after; cases after

/-! ## One operation -/

/-- A directory put where nothing stands. -/
theorem settles_set_directory (free : t.get? l = none) :
    Settles content t (t.set l .directory) := by
  have elsewhere : ∀ {l'}, (t.get? l').isSome → (t.set l .directory).get? l' = t.get? l' := by
    intro l' stands
    rw [get?_set, if_neg]
    rintro rfl
    simp [free] at stands
  refine ⟨?_, ?_, ?_⟩ <;> intro l' before
  · rw [elsewhere (by simp [before]), before]
  · rw [elsewhere before]
    exact before
  · rw [elsewhere (by simp [before]), before]

theorem makeDirectory_grows (done : t.makeDirectory cwd p = .ok t') (mem : p ∈ made) :
    Grows cwd content made written t t' := by
  obtain ⟨l, named, free, rfl⟩ := makeDirectory_keeps done
  have settles : Settles content t (t.set l .directory) := settles_set_directory free
  refine ⟨settles, ?_⟩
  intro l'
  by_cases here : l = l'
  · subst here
    exact .created free (by rw [get?_set, if_pos rfl]) p mem (settles.resolve_set named)
  · exact .kept (by rw [get?_set, if_neg here])

theorem writeFile_grows (done : t.writeFile cwd p content = .ok t') (mem : p ∈ written) :
    Grows cwd content made written t t' := by
  obtain ⟨l, named, free, rfl⟩ := writeFile_keeps done
  have settles : Settles content t (t.set l (.file content)) := settles_set free
  refine ⟨settles, ?_⟩
  intro l'
  by_cases here : l = l'
  · subst here
    exact .filled free (by rw [get?_set, if_pos rfl]) p mem (settles.resolve_set named)
  · exact .kept (by rw [get?_set, if_neg here])

/-! ## The output directory -/

theorem mem_beginnings {slashes : Nat} {names front : List String} :
    (⟨slashes, front⟩ : Path) ∈ (⟨slashes, names⟩ : Path).beginnings ↔ front <+: names := by
  simp [Path.beginnings, List.mem_inits]

theorem beginnings_above (slashes : Nat) (name : String) (above : List String) :
    (⟨slashes, above.reverse⟩ : Path).beginnings ⊆
      (⟨slashes, (name :: above).reverse⟩ : Path).beginnings := by
  intro p mem
  obtain ⟨front, begins, rfl⟩ := List.mem_map.mp mem
  rw [mem_beginnings, List.reverse_cons]
  exact ((List.mem_inits _ _).mp begins).trans (List.prefix_append _ _)

/-- Directories are created at beginnings of the path only, whatever is refused. -/
theorem makeChain_grows (cwd : Location) (content : List UInt8) (written : List Path)
    (slashes : Nat) (names : List String) (t : FileTree) :
    Grows cwd content (⟨slashes, names.reverse⟩ : Path).beginnings written t
      (makeChain cwd slashes names t).1 := by
  have itself : ∀ names : List String, (⟨slashes, names⟩ : Path) ∈
      (⟨slashes, names⟩ : Path).beginnings := fun names => mem_beginnings.mpr List.prefix_rfl
  induction names generalizing t with
  | nil =>
      rw [makeChain]
      cases made : t.makeDirectory cwd ⟨slashes, []⟩ with
      | ok t' => exact makeDirectory_grows made (itself _)
      | error r => exact Grows.refl
  | cons name above ih =>
      have upper := (ih t).mono (beginnings_above slashes name above) (List.Subset.refl written)
      rw [makeChain]
      split
      · rename_i t' made
        exact makeDirectory_grows made (itself _)
      · split
        · rename_i t' r chained
          rw [chained] at upper
          exact upper
        · rename_i t' chained
          rw [chained] at upper
          split
          · rename_i t'' made
            exact upper.trans (makeDirectory_grows made (itself _))
          · exact upper
          · exact upper
      · exact Grows.refl

theorem makeDirectories_grows (cwd : Location) (content : List UInt8) (written : List Path)
    (p : Path) (t : FileTree) :
    Grows cwd content p.beginnings written t (t.makeDirectories cwd p).1 := by
  have grows := makeChain_grows cwd content written p.slashes p.steps.reverse t
  rwa [List.reverse_reverse] at grows

theorem hasDirectory_eq_true : t.hasDirectory cwd p = true ↔
    ∃ l, t.resolve cwd p = .ok l ∧ t.get? l = some .directory := by
  unfold hasDirectory lookup
  cases t.resolve cwd p with
  | error r => simp
  | ok l =>
      dsimp only
      cases stands : t.get? l with
      | none => simp [stands]
      | some e => cases e <;> simp [stands]

theorem Settles.hasDirectory (settles : Settles content t t')
    (stands : t.hasDirectory cwd p = true) : t'.hasDirectory cwd p = true := by
  obtain ⟨l, resolved, directory⟩ := hasDirectory_eq_true.mp stands
  exact hasDirectory_eq_true.mpr ⟨l, settles.resolve resolved, settles.directory directory⟩

theorem makeDirectory_hasDirectory (done : t.makeDirectory cwd p = .ok t') :
    t'.hasDirectory cwd p = true := by
  obtain ⟨l, named, free, rfl⟩ := makeDirectory_keeps done
  have settles : Settles [] t (t.set l .directory) := settles_set_directory free
  exact hasDirectory_eq_true.mpr ⟨l, settles.resolve_set named, by rw [get?_set, if_pos rfl]⟩

theorem unlessDirectory_eq_none {r : Refusal} :
    t.unlessDirectory cwd p r = none ↔ t.hasDirectory cwd p = true := by
  rw [unlessDirectory]
  split <;> simp_all

/-- Where nothing is refused, the directory is there in the end. -/
theorem makeChain_hasDirectory {slashes : Nat} {names : List String}
    (made : (makeChain cwd slashes names t).2 = none) :
    (makeChain cwd slashes names t).1.hasDirectory cwd ⟨slashes, names.reverse⟩ = true := by
  cases names with
  | nil =>
      rw [makeChain] at made ⊢
      cases done : t.makeDirectory cwd ⟨slashes, []⟩ with
      | ok t' => exact makeDirectory_hasDirectory done
      | error r =>
          rw [done] at made
          exact unlessDirectory_eq_none.mp made
  | cons name above =>
      rw [makeChain] at made ⊢
      split at made
      · rename_i t' done
        exact makeDirectory_hasDirectory done
      · split at made
        · cases made
        · split at made
          · rename_i t'' done
            exact makeDirectory_hasDirectory done
          · cases made
          · exact unlessDirectory_eq_none.mp made
      · exact unlessDirectory_eq_none.mp made

theorem makeDirectories_hasDirectory (made : (t.makeDirectories cwd p).2 = none) :
    (t.makeDirectories cwd p).1.hasDirectory cwd p = true := by
  have stands := makeChain_hasDirectory made
  rwa [List.reverse_reverse] at stands

end FileTree

/-! ## The sink -/

namespace Sink

open FileTree

variable {t : FileTree} {cwd : Location} {content : List UInt8} {directory : Path}

/-- Files are written at the paths that the report names only, whatever is refused. -/
theorem writeAll_grows (made : List Path) (t : FileTree) (paths : List Path) :
    Grows cwd content made (writeAll cwd content t paths).written t
      (writeAll cwd content t paths).tree := by
  induction paths generalizing t with
  | nil => exact Grows.refl
  | cons p paths ih =>
      rw [writeAll]
      split
      · exact Grows.refl
      · cases written : t.writeFile cwd p content with
        | error r => exact Grows.refl
        | ok t' =>
            have later := (ih t').mono (List.Subset.refl made) (List.subset_cons_self p _)
            exact (writeFile_grows written (by simp)).trans later

/-- Whatever is refused, the sink creates directories at beginnings of the output
directory only, and writes files at the paths that it reports only. -/
theorem write_grows (t : FileTree) (cwd : Location) (output : Output) (directory : Path)
    (extension : String) :
    Grows cwd (Text.Utf8.encode output.compiled) directory.beginnings
      (write t cwd output directory extension).written t
      (write t cwd output directory extension).tree := by
  rw [write]
  split
  · exact Grows.refl
  · have made := fun written =>
      makeDirectories_grows cwd (Text.Utf8.encode output.compiled) written directory t
    cases chained : t.makeDirectories cwd directory with
    | mk t' refusal =>
        rw [chained] at made
        cases refusal with
        | some r => exact made _
        | none => exact (made _).trans (writeAll_grows _ t' _)

theorem write_hasDirectory {output : Output} {extension : String}
    (succeeded : (write t cwd output directory extension).error = none) :
    (write t cwd output directory extension).tree.hasDirectory cwd directory = true := by
  rw [write] at succeeded ⊢
  split at succeeded
  · cases succeeded
  · rename_i clean
    rw [if_neg clean]
    cases chained : t.makeDirectories cwd directory with
    | mk t' refusal =>
        rw [chained] at succeeded
        cases refusal with
        | some r => cases succeeded
        | none =>
            have made := makeDirectories_hasDirectory (t := t) (p := directory) (by rw [chained])
            rw [chained] at made
            exact (writeAll_settles succeeded).1.hasDirectory made

/-- **What a finished write leaves.**  The paths returned are those of the
destinations below the output directory, in order, and each leads to a file that
holds exactly the text.  Files at all other locations are as they were, and there
are no new ones.  Directories are still directories and files are still files.  The
output directory stands, and every directory that is new is named by it or by a
beginning of it. -/
theorem leaves_of_write {output : Output} {extension : String} {report : Report}
    (done : write t cwd output directory extension = report) (returned : report.error = none) :
    report.written = output.destinations.map (fun name => directory.child (name ++ extension)) ∧
      (∀ p ∈ report.written,
        report.tree.readFile cwd p = .ok (Text.Utf8.encode output.compiled)) ∧
      (∀ l, (∀ p ∈ report.written, report.tree.resolve cwd p ≠ .ok l) →
        ∀ c, report.tree.get? l = some (.file c) ↔ t.get? l = some (.file c)) ∧
      (∀ l, t.get? l = some .directory → report.tree.get? l = some .directory) ∧
      (∀ l c, t.get? l = some (.file c) → ∃ c', report.tree.get? l = some (.file c')) ∧
      report.tree.hasDirectory cwd directory = true ∧
      ∀ l, report.tree.get? l = some .directory → t.get? l = some .directory ∨
        t.get? l = none ∧ ∃ p ∈ directory.beginnings, report.tree.resolve cwd p = .ok l := by
  subst done
  have grows := write_grows t cwd output directory extension
  have written := write_written returned
  refine ⟨written, ?_, ?_, ?_, ?_, write_hasDirectory returned, ?_⟩
  · intro p mem
    rw [written] at mem
    exact (readFile_of_write returned mem).2
  · intro l elsewhere
    exact grows.file_iff elsewhere
  · intro l before
    exact grows.settles.directory before
  · intro l c before
    exact grows.file before
  · intro l after
    exact grows.directory after

/-- A working directory with one file. -/
def detourTree : FileTree := (FileTree.root.set ["w"] .directory).set ["a", "w"] (.file [0x61])

/-- An output directory that is reached by way of another. -/
def detour : Path := ⟨0, ["x", "..", "y"]⟩

def detourReport : Report := write detourTree ["w"] ⟨["b", "../y/b"], "1+"⟩ detour ".long"

/-- Two destinations lead to one file, which holds the text; the other file is as
it was; and the directory on the way was created too. -/
theorem leaves_of_write_detour :
    detourReport.written =
        [⟨0, ["x", "..", "y", "b.long"]⟩, ⟨0, ["x", "..", "y", "..", "y", "b.long"]⟩] ∧
      (∀ p ∈ detourReport.written, detourReport.tree.readFile ["w"] p = .ok [0x31, 0x2B]) ∧
      detourReport.tree.get? ["a", "w"] = some (.file [0x61]) ∧
      detourReport.tree.get? ["x", "w"] = some .directory := by
  have done : write detourTree ["w"] ⟨["b", "../y/b"], "1+"⟩ detour ".long" = detourReport := rfl
  have returned : detourReport.error = none := by decide +kernel
  obtain ⟨written, holds, others, -, -, -, -⟩ := leaves_of_write done returned
  have paths : detourReport.written =
      [⟨0, ["x", "..", "y", "b.long"]⟩, ⟨0, ["x", "..", "y", "..", "y", "b.long"]⟩] := by
    rw [written]
    decide +kernel
  have text : Text.Utf8.encode "1+" = [0x31, 0x2B] := by decide +kernel
  refine ⟨paths, ?_, ?_, by decide +kernel⟩
  · intro p mem
    rw [← text]
    exact holds p mem
  · refine (others ["a", "w"] ?_ [0x61]).mpr (by decide +kernel)
    rw [paths]
    decide +kernel

end Sink

end DeltaTape
