/-
# DeltaTape.Proofs.SinkOrder — destinations as a set

A destination's file may come to lie on the way of another destination.  This
neither opens that way nor blocks it: a way leads on from directories only, so a file
on it is as good as nothing, and where directories stand is not changed by writing.
Which location a path names depends on the directories alone, and so does whether
a file can be written there.

So each destination is written, or refused, as if it were the only one, and all of
them get the same text: in which order they stand, and how often, can only be told
from the refusal.  What has been written once can be written again, and nothing
changes any more.

* `SameDirectories.slot_iff`: trees with the same directories name the same locations;
* `writeAll_eq_none`: when all destinations can be written, from the tree before;
* `get?_writeAll`: what is then left, location by location;
* `write_of_same_names`: two lists of the same names, and a second time.
-/
import Mathlib
import DeltaTape.Proofs.SinkRefusal

namespace DeltaTape

set_option autoImplicit false

namespace FileTree

variable {t t' : FileTree} {cwd here there l : Location} {p : Path} {content : List UInt8}

/-! ## Directories are all that matters -/

/-- Two trees whose directories stand at the same locations. -/
def SameDirectories (t t' : FileTree) : Prop :=
  ∀ l, t.get? l = some .directory ↔ t'.get? l = some .directory

theorem SameDirectories.symm (same : SameDirectories t t') : SameDirectories t' t :=
  fun l => (same l).symm

theorem sameDirectories_set (free : t.get? l ≠ some .directory) :
    SameDirectories t (t.set l (.file content)) := by
  intro l'
  rw [get?_set]
  split
  · rename_i here
    subst here
    simp [free]
  · rfl

/-- A way that ends at a directory starts at one. -/
theorem directory_of_walk_onward {names : List String} (walked : t.walk here names = .ok there)
    (ends : t.get? there = some .directory) : t.get? here = some .directory := by
  cases names with
  | nil =>
      cases walked
      exact ends
  | cons name names =>
      obtain ⟨next, entered, -⟩ := walk_cons_eq_ok.mp walked
      exact reach_eq_ok (enter_eq_ok.mp entered).1

/-- A way that ends at a directory passes through directories only. -/
theorem SameDirectories.walk (same : SameDirectories t t') {names : List String}
    (walked : t.walk here names = .ok there) (ends : t.get? there = some .directory) :
    t'.walk here names = .ok there := by
  induction names generalizing here with
  | nil => exact walked
  | cons name names ih =>
      obtain ⟨next, entered, onward⟩ := walk_cons_eq_ok.mp walked
      have reached := (enter_eq_ok.mp entered).1
      have start := (same here).mp (reach_eq_ok reached)
      -- The way goes on from here to a directory, so it is no file that was entered.
      have passed := (same next).mp (directory_of_walk_onward onward ends)
      have entered' := enter_eq_ok.mpr ⟨reach_of_directory reached start, by rw [passed]; rfl⟩
      exact walk_cons_eq_ok.mpr ⟨next, entered', ih onward⟩

theorem SameDirectories.slot (same : SameDirectories t t') (named : t.slot cwd p = .ok l) :
    t'.slot cwd p = .ok l := by
  obtain ⟨passes, bare | ⟨front, name, here, steps, walked, reached⟩⟩ := slot_eq_ok.mp named
  · exact slot_eq_ok.mpr ⟨passes, Or.inl bare⟩
  · have ends := reach_eq_ok reached
    exact slot_eq_ok.mpr ⟨passes, Or.inr ⟨front, name, here, steps, same.walk walked ends,
      reach_of_directory reached ((same here).mp ends)⟩⟩

/-- Which location a path names depends on the directories only. -/
theorem SameDirectories.slot_iff (same : SameDirectories t t') :
    t.slot cwd p = .ok l ↔ t'.slot cwd p = .ok l :=
  ⟨same.slot, same.symm.slot⟩

/-! ## One file -/

/-- A path names a location where a file can be put. -/
def Writable (t : FileTree) (cwd : Location) (p : Path) : Prop :=
  ∃ l, t.slot cwd p = .ok l ∧ t.get? l ≠ some .directory

theorem SameDirectories.writable_iff (same : SameDirectories t t') :
    t.Writable cwd p ↔ t'.Writable cwd p := by
  simp only [Writable, same.slot_iff, ne_eq, same _]

theorem writeFile_of_slot (named : t.slot cwd p = .ok l) (free : t.get? l ≠ some .directory) :
    t.writeFile cwd p content = .ok (t.set l (.file content)) := by
  simp only [writeFile, named, free, if_false]

/-! ## The output directory, once more -/

theorem makeDirectory_of_hasDirectory (stands : t.hasDirectory cwd p = true) :
    t.makeDirectory cwd p = .error .alreadyExists := by
  obtain ⟨l, resolved, directory⟩ := hasDirectory_eq_true.mp stands
  simp only [makeDirectory, slot_of_resolve resolved, directory, Option.isSome_some, if_true]

theorem makeChain_of_hasDirectory {slashes : Nat} {names : List String}
    (stands : t.hasDirectory cwd ⟨slashes, names.reverse⟩ = true) :
    makeChain cwd slashes names t = (t, none) := by
  have refused := makeDirectory_of_hasDirectory stands
  have passed : t.unlessDirectory cwd ⟨slashes, names.reverse⟩ .alreadyExists = none :=
    unlessDirectory_eq_none.mpr stands
  cases names with
  | nil =>
      rw [List.reverse_nil] at refused passed
      simp only [makeChain, refused, passed]
  | cons name above => simp only [makeChain, refused, passed]

/-- Where the directory stands already, nothing is created. -/
theorem makeDirectories_of_hasDirectory (stands : t.hasDirectory cwd p = true) :
    t.makeDirectories cwd p = (t, none) :=
  makeChain_of_hasDirectory (by rwa [List.reverse_reverse])

end FileTree

namespace Sink

open FileTree

variable {t : FileTree} {cwd : Location} {content : List UInt8} {paths paths' : List Path}

/-! ## All files -/

/-- The first path is written, and then the others. -/
theorem writeAll_cons {p : Path} {l : Location} (clean : p.hasNull = false)
    (named : t.slot cwd p = .ok l) (free : t.get? l ≠ some .directory) (paths : List Path) :
    writeAll cwd content t (p :: paths) =
      { writeAll cwd content (t.set l (.file content)) paths with
        written := p :: (writeAll cwd content (t.set l (.file content)) paths).written } := by
  rw [writeAll, if_neg (by simp [clean]), writeFile_of_slot named free]

theorem writable_of_writeAll_cons {p : Path}
    (succeeded : (writeAll cwd content t (p :: paths)).error = none) :
    p.hasNull = false ∧ t.Writable cwd p := by
  rw [writeAll] at succeeded
  split at succeeded
  · cases succeeded
  · rename_i clean
    cases done : t.writeFile cwd p content with
    | error r => rw [done] at succeeded; cases succeeded
    | ok t' =>
        obtain ⟨l, named, free, -⟩ := writeFile_keeps done
        exact ⟨by simpa using clean, l, named, free⟩

/-- All paths are written exactly if each of them could be, with no other. -/
theorem writeAll_eq_none : (writeAll cwd content t paths).error = none ↔
    ∀ p ∈ paths, p.hasNull = false ∧ t.Writable cwd p := by
  induction paths generalizing t with
  | nil => simp [writeAll]
  | cons p paths ih =>
      -- Once the first is written, the others can be written as they could before.
      have first : p.hasNull = false → t.Writable cwd p →
          ((writeAll cwd content t (p :: paths)).error = none ↔
            ∀ q ∈ paths, q.hasNull = false ∧ t.Writable cwd q) := by
        rintro clean ⟨l, named, free⟩
        rw [writeAll_cons clean named free, ih]
        simp only [← (sameDirectories_set free).writable_iff]
      rw [List.forall_mem_cons]
      constructor
      · intro succeeded
        obtain ⟨clean, writable⟩ := writable_of_writeAll_cons succeeded
        exact ⟨⟨clean, writable⟩, (first clean writable).mp succeeded⟩
      · rintro ⟨⟨clean, writable⟩, others⟩
        exact (first clean writable).mpr others

/-- Once all paths are written, the content stands where one of them leads, and all
else is as it was. -/
theorem get?_writeAll (succeeded : (writeAll cwd content t paths).error = none) (l : Location) :
    (writeAll cwd content t paths).tree.get? l =
      if ∃ p ∈ paths, t.slot cwd p = .ok l then some (.file content) else t.get? l := by
  induction paths generalizing t with
  | nil => simp [writeAll]
  | cons p paths ih =>
      obtain ⟨clean, here, named, free⟩ := writable_of_writeAll_cons succeeded
      rw [writeAll_cons clean named free] at succeeded ⊢
      have same : SameDirectories t (t.set here (.file content)) := sameDirectories_set free
      have leads : t.slot cwd p = .ok l ↔ here = l := by rw [named, Except.ok.injEq]
      rw [ih succeeded, get?_set]
      simp only [← same.slot_iff, List.exists_mem_cons_iff, leads]
      by_cases later : ∃ q ∈ paths, t.slot cwd q = .ok l
      · rw [if_pos later, if_pos (Or.inr later)]
      · simp only [later, if_false, or_false]

theorem sameDirectories_writeAll (succeeded : (writeAll cwd content t paths).error = none) :
    SameDirectories t (writeAll cwd content t paths).tree := by
  intro l
  rw [get?_writeAll succeeded]
  split
  · rename_i named
    obtain ⟨p, mem, named⟩ := named
    obtain ⟨l', named', free⟩ := (writeAll_eq_none.mp succeeded p mem).2
    rw [named] at named'
    cases named'
    simp [free]
  · rfl

/-- Lists of the same paths are written alike. -/
theorem writeAll_congr (same : ∀ p, p ∈ paths ↔ p ∈ paths') :
    ((writeAll cwd content t paths).error = none ↔
      (writeAll cwd content t paths').error = none) ∧
      ((writeAll cwd content t paths).error = none →
        (writeAll cwd content t paths).tree = (writeAll cwd content t paths').tree) := by
  have both : (writeAll cwd content t paths).error = none ↔
      (writeAll cwd content t paths').error = none := by
    simp only [writeAll_eq_none, same]
  refine ⟨both, fun succeeded => ext_get? fun l => ?_⟩
  rw [get?_writeAll succeeded, get?_writeAll (both.mp succeeded)]
  simp only [same]

/-- What has been written once is written again, and nothing changes any more. -/
theorem writeAll_again (succeeded : (writeAll cwd content t paths).error = none) :
    writeAll cwd content (writeAll cwd content t paths).tree paths =
      writeAll cwd content t paths := by
  have same := sameDirectories_writeAll succeeded
  have again : (writeAll cwd content (writeAll cwd content t paths).tree paths).error = none := by
    rw [writeAll_eq_none] at succeeded ⊢
    simpa only [← same.writable_iff] using succeeded
  have tree : (writeAll cwd content (writeAll cwd content t paths).tree paths).tree =
      (writeAll cwd content t paths).tree := by
    refine ext_get? fun l => ?_
    rw [get?_writeAll again]
    -- Where a path leads, the content stands already.
    simp only [← same.slot_iff, get?_writeAll succeeded]
    by_cases named : ∃ p ∈ paths, t.slot cwd p = .ok l <;> simp only [named, if_true, if_false]
  have written := (writeAll_written again).trans (writeAll_written succeeded).symm
  exact (Report.mk.injEq ..).mpr ⟨tree, written, again.trans succeeded.symm⟩

/-! ## The sink -/

/-- **Destinations are a set.**  Two lists of the same names, in whatever order and
however often, are both written or both refused, and if they are written they leave
the same tree.  A write that succeeded succeeds a second time, returns the same paths,
and leaves the tree as it is. -/
theorem write_of_same_names {names names' : List String}
    (same : ∀ name, name ∈ names ↔ name ∈ names') (t : FileTree) (cwd : Location)
    (directory : Path) (extension text : String) :
    ((write t cwd ⟨names, text⟩ directory extension).error = none ↔
      (write t cwd ⟨names', text⟩ directory extension).error = none) ∧
      ((write t cwd ⟨names, text⟩ directory extension).error = none →
        (write t cwd ⟨names, text⟩ directory extension).tree =
          (write t cwd ⟨names', text⟩ directory extension).tree) ∧
      ∀ report, write t cwd ⟨names, text⟩ directory extension = report → report.error = none →
        write report.tree cwd ⟨names, text⟩ directory extension = report := by
  cases clean : directory.hasNull with
  | true => simp [write, clean]
  | false =>
      cases chained : t.makeDirectories cwd directory with
      | mk t' refusal =>
          cases refusal with
          | some r => simp [write_of_refused clean chained]
          | none =>
              simp only [write_of_made clean chained]
              have paths : ∀ p, p ∈ targets directory names extension ↔
                  p ∈ targets directory names' extension := by
                intro p
                simp only [targets, List.mem_map, same]
              refine ⟨(writeAll_congr paths).1, (writeAll_congr paths).2, ?_⟩
              rintro report rfl succeeded
              have made : (write t cwd ⟨names, text⟩ directory extension).error = none := by
                rwa [write_of_made clean chained]
              have stands := write_hasDirectory made
              rw [write_of_made clean chained] at stands
              rw [write_of_made clean (makeDirectories_of_hasDirectory stands)]
              exact writeAll_again succeeded

/-- A working directory with an output directory, in which there is a file. -/
def crossedTree : FileTree :=
  ((FileTree.root.set ["w"] .directory).set ["d", "w"] .directory).set ["z", "d", "w"] (.file [0x61])

/-- One destination would lie behind the file of the other, whichever is written
first, so both lists are refused, if for different reasons.  Without it, the lists
are written alike, also over what they have left. -/
theorem write_of_same_names_crossed :
    ((write crossedTree ["w"] ⟨["x", "x/../y"], "1+"⟩ ⟨0, ["d"]⟩ "").error =
        some (.write ⟨0, ["d", "x", "..", "y"]⟩ .notDirectory) ∧
      (write crossedTree ["w"] ⟨["x/../y", "x"], "1+"⟩ ⟨0, ["d"]⟩ "").error =
        some (.write ⟨0, ["d", "x", "..", "y"]⟩ .missing) ∧
      ((write crossedTree ["w"] ⟨["x", "x/../y"], "1+"⟩ ⟨0, ["d"]⟩ "").error = none ↔
        (write crossedTree ["w"] ⟨["x/../y", "x"], "1+"⟩ ⟨0, ["d"]⟩ "").error = none)) ∧
      (write crossedTree ["w"] ⟨["x", "z"], "1+"⟩ ⟨0, ["d"]⟩ "").error = none ∧
      (write crossedTree ["w"] ⟨["x", "z"], "1+"⟩ ⟨0, ["d"]⟩ "").tree =
        (write crossedTree ["w"] ⟨["z", "x", "z"], "1+"⟩ ⟨0, ["d"]⟩ "").tree ∧
      write (write crossedTree ["w"] ⟨["x", "z"], "1+"⟩ ⟨0, ["d"]⟩ "").tree ["w"]
          ⟨["x", "z"], "1+"⟩ ⟨0, ["d"]⟩ "" =
        write crossedTree ["w"] ⟨["x", "z"], "1+"⟩ ⟨0, ["d"]⟩ "" := by
  have crossed : ∀ name, name ∈ ["x", "x/../y"] ↔ name ∈ ["x/../y", "x"] := by
    simp [or_comm]
  have repeated : ∀ name, name ∈ ["x", "z"] ↔ name ∈ ["z", "x", "z"] := by
    intro name
    simp only [List.mem_cons, List.not_mem_nil, or_false]
    tauto
  obtain ⟨both, -, -⟩ := write_of_same_names crossed crossedTree ["w"] ⟨0, ["d"]⟩ "" "1+"
  obtain ⟨-, trees, again⟩ := write_of_same_names repeated crossedTree ["w"] ⟨0, ["d"]⟩ "" "1+"
  have written : (write crossedTree ["w"] ⟨["x", "z"], "1+"⟩ ⟨0, ["d"]⟩ "").error = none := by
    decide +kernel
  exact ⟨⟨by decide +kernel, by decide +kernel, both⟩, written, trees written,
    again _ rfl written⟩

end Sink

end DeltaTape
