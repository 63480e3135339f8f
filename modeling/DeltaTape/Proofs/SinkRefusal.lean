/-
# DeltaTape.Proofs.SinkRefusal — what the sink leaves when it is refused something

The sink stops at the first refusal, and nothing is undone.  Where the output
directory is refused, only directories above it can have been created, since the
last thing tried was the directory itself.  Where a destination is refused, those
before it have been written, and the tree is the one that they alone would have
left.

* `makeDirectories_refused`: directories above a refused one, and nothing else;
* `writeAll_refused`: the paths before a refused one, written by themselves;
* `leaves_of_refused_write`: the two ways in which the sink can be refused.
-/
import Mathlib
import DeltaTape.Proofs.NullFree
import DeltaTape.Proofs.SinkFrame

namespace DeltaTape

set_option autoImplicit false

/-- The paths that a path begins with and goes on from. -/
def Path.above (p : Path) : List Path := p.beginnings.filter fun q => q ≠ p

namespace FileTree

variable {cwd : Location} {content : List UInt8} {written : List Path} {t : FileTree} {p : Path}

theorem beginnings_subset_above (slashes : Nat) (name : String) (names : List String) :
    (⟨slashes, names.reverse⟩ : Path).beginnings ⊆
      (⟨slashes, (name :: names).reverse⟩ : Path).above := by
  intro p mem
  refine List.mem_filter.mpr ⟨beginnings_above slashes name names mem, ?_⟩
  obtain ⟨front, begins, rfl⟩ := List.mem_map.mp mem
  have shorter := ((List.mem_inits _ _).mp begins).length_le
  rw [List.length_reverse] at shorter
  refine decide_eq_true fun same => ?_
  have length := congrArg (fun p : Path => p.steps.length) same
  simp only [List.length_reverse, List.length_cons] at length
  omega

/-- Where a directory is refused, only directories above it can have been created. -/
theorem makeChain_refused {slashes : Nat} {names : List String} {r : Refusal}
    (refused : (makeChain cwd slashes names t).2 = some r) :
    Grows cwd content (⟨slashes, names.reverse⟩ : Path).above written t
      (makeChain cwd slashes names t).1 := by
  cases names with
  | nil =>
      rw [makeChain] at refused ⊢
      cases made : t.makeDirectory cwd ⟨slashes, []⟩ with
      | ok t' => rw [made] at refused; cases refused
      | error r => exact Grows.refl
  | cons name names =>
      have upper := (makeChain_grows cwd content written slashes names t).mono
        (beginnings_subset_above slashes name names) (List.Subset.refl written)
      rw [makeChain] at refused ⊢
      split at refused
      · cases refused
      · split at refused
        · rename_i chained
          rw [chained] at upper
          exact upper
        · rename_i chained
          rw [chained] at upper
          split at refused
          · cases refused
          · exact upper
          · exact upper
      · exact Grows.refl

theorem makeDirectories_refused {r : Refusal}
    (refused : (t.makeDirectories cwd p).2 = some r) :
    Grows cwd content p.above written t (t.makeDirectories cwd p).1 := by
  have grows : Grows cwd content (⟨p.slashes, p.steps.reverse.reverse⟩ : Path).above written t
      (t.makeDirectories cwd p).1 := makeChain_refused refused
  rwa [List.reverse_reverse] at grows

end FileTree

namespace Sink

open FileTree

variable {t : FileTree} {cwd : Location} {content : List UInt8} {directory : Path}

/-- Where a path is refused, those before it have been written, as they would have
been by themselves. -/
theorem writeAll_refused {paths : List Path} {e : Error}
    (clean : ∀ p ∈ paths, p.hasNull = false)
    (refused : (writeAll cwd content t paths).error = some e) :
    ∃ k p r, paths[k]? = some p ∧ e = .write p r ∧
      (writeAll cwd content t paths).written = paths.take k ∧
      writeAll cwd content t (paths.take k) =
        { writeAll cwd content t paths with error := none } := by
  induction paths generalizing t with
  | nil => cases refused
  | cons p paths ih =>
      obtain ⟨free, others⟩ := List.forall_mem_cons.mp clean
      cases done : t.writeFile cwd p content with
      | error r =>
          simp only [writeAll, free, Bool.false_eq_true, if_false, done, Option.some.injEq] at refused
          refine ⟨0, p, r, rfl, refused.symm, ?_, ?_⟩ <;>
            simp [writeAll, free, done]
      | ok t' =>
          simp only [writeAll, free, Bool.false_eq_true, if_false, done] at refused ⊢
          obtain ⟨k, q, r, found, error, before, shorter⟩ := ih others refused
          refine ⟨k + 1, q, r, found, error, ?_, ?_⟩
          · rw [before, List.take_succ_cons]
          · simp only [List.take_succ_cons, writeAll, free, Bool.false_eq_true, if_false, done,
              shorter]

theorem write_of_refused {output : Output} {extension : String} {t' : FileTree} {r : Refusal}
    (clean : directory.hasNull = false)
    (refused : t.makeDirectories cwd directory = (t', some r)) :
    write t cwd output directory extension = ⟨t', [], some (.directory directory r)⟩ := by
  simp only [write, clean, Bool.false_eq_true, if_false, refused]

theorem write_of_made {output : Output} {extension : String} {t' : FileTree}
    (clean : directory.hasNull = false) (made : t.makeDirectories cwd directory = (t', none)) :
    write t cwd output directory extension =
      writeAll cwd (Text.Utf8.encode output.compiled) t'
        (targets directory output.destinations extension) := by
  simp only [write, clean, Bool.false_eq_true, if_false, made]

/-- Where no path holds a null character, the failure is a diagnostic of the sink. -/
theorem failure_of_write {output : Output} {extension : String} {e : Error}
    (clean : directory.hasNull = false) (names : ∀ name ∈ output.destinations, NullFree name)
    (ending : NullFree extension)
    (raised : (write t cwd output directory extension).error = some e) :
    ∃ d, e.failure = .diagnostic d ∧ Diagnostic.Kind.sink ∈ d.kind.lineage := by
  cases chained : t.makeDirectories cwd directory with
  | mk t' refusal =>
      cases refusal with
      | some r =>
          rw [write_of_refused clean chained] at raised
          cases raised
          exact ⟨_, rfl, by simp [Diagnostic.outputDirectory, Diagnostic.Kind.lineage]⟩
      | none =>
          rw [write_of_made clean chained] at raised
          obtain ⟨-, p, r, -, rfl, -⟩ := writeAll_refused (hasNull_targets clean names ending) raised
          exact ⟨_, rfl, by simp [Diagnostic.outputWrite, Diagnostic.Kind.lineage]⟩

/-- **What a refused write leaves.**  Without null characters the sink fails in two
ways only.  Either the output directory is refused: then every location is as it
was, but for directories that stand where nothing stood, at paths that the output
directory begins with and goes on from.  Or a destination is refused: then the
report is that of a write to the destinations before it, which succeeds, and where
none of these lead, files are as they were and there are no new ones. -/
theorem leaves_of_refused_write {output : Output} {extension : String} {report : Report}
    {e : Error} (clean : directory.hasNull = false)
    (names : ∀ name ∈ output.destinations, NullFree name) (ending : NullFree extension)
    (done : write t cwd output directory extension = report) (raised : report.error = some e) :
    (∃ r, e = .directory directory r ∧
      ∀ l, report.tree.get? l = t.get? l ∨
        t.get? l = none ∧ report.tree.get? l = some .directory ∧
          ∃ p ∈ directory.above, report.tree.resolve cwd p = .ok l) ∨
      ∃ k name r, output.destinations[k]? = some name ∧
        e = .write (directory.child (name ++ extension)) r ∧
        write t cwd { output with destinations := output.destinations.take k } directory extension =
          { report with error := none } ∧
        ∀ l, (∀ earlier ∈ output.destinations.take k,
            report.tree.resolve cwd (directory.child (earlier ++ extension)) ≠ .ok l) →
          ∀ c, report.tree.get? l = some (.file c) ↔ t.get? l = some (.file c) := by
  subst done
  cases chained : t.makeDirectories cwd directory with
  | mk t' refusal =>
      cases refusal with
      | some r =>
          left
          rw [write_of_refused clean chained] at raised ⊢
          refine ⟨r, (Option.some.inj raised).symm, ?_⟩
          have grows : Grows cwd [] directory.above [] t (t.makeDirectories cwd directory).1 :=
            makeDirectories_refused (congrArg Prod.snd chained)
          rw [chained] at grows
          intro l
          cases grows.touched l with
          | kept same => exact Or.inl same
          | created free stands p mem leads => exact Or.inr ⟨free, stands, p, mem, leads⟩
          | filled _ _ p mem => cases mem
      | none =>
          right
          have grows := write_grows t cwd output directory extension
          rw [write_of_made clean chained] at raised grows ⊢
          obtain ⟨k, p, r, found, error, before, shorter⟩ :=
            writeAll_refused (hasNull_targets clean names ending) raised
          rw [targets, List.getElem?_map] at found
          obtain ⟨name, destination, rfl⟩ := Option.map_eq_some_iff.mp found
          refine ⟨k, name, r, destination, error, ?_, ?_⟩
          · rw [write_of_made clean chained, targets, List.map_take]
            exact shorter
          · intro l elsewhere
            refine grows.file_iff ?_
            intro p mem
            rw [before, targets, ← List.map_take] at mem
            obtain ⟨earlier, member, rfl⟩ := List.mem_map.mp mem
            exact elsewhere earlier member

/-- A working directory with a file in it. -/
def blockedTree : FileTree := (FileTree.root.set ["w"] .directory).set ["f", "w"] (.file [0x61])

/-- An output directory with a directory to be created on the way, and the file in
the way behind it. -/
def blocked : Path := ⟨0, ["a", "..", "f", "d"]⟩

def blockedReport : Report := write blockedTree ["w"] ⟨["x"], "1+"⟩ blocked ".long"

/-- The second of three destinations lies in a directory that is missing. -/
def halfwayReport : Report :=
  write blockedTree ["w"] ⟨["x", "y/z", "q"], "1+"⟩ ⟨0, ["d"]⟩ ".long"

/-- The directory on the way is left and the file is as it was; the first of three
destinations is left, as if it had been the only one, and not the third. -/
theorem leaves_of_refused_write_halfway :
    (blockedReport.error = some (.directory blocked .alreadyExists) ∧
      blockedReport.tree.get? ["a", "w"] = some .directory ∧
      blockedReport.tree.get? ["f", "w"] = some (.file [0x61])) ∧
      halfwayReport.error = some (.write ⟨0, ["d", "y", "z.long"]⟩ .missing) ∧
      write blockedTree ["w"] ⟨["x"], "1+"⟩ ⟨0, ["d"]⟩ ".long" =
        { halfwayReport with error := none } ∧
      halfwayReport.tree.get? ["q.long", "d", "w"] ≠ some (.file [0x31, 0x2B]) := by
  have ending : NullFree ".long" := by decide +kernel
  constructor
  · have raised : blockedReport.error = some (.directory blocked .alreadyExists) := by
      decide +kernel
    refine ⟨raised, by decide +kernel, ?_⟩
    rcases leaves_of_refused_write (by decide +kernel) (by decide +kernel) ending rfl raised with
      ⟨r, -, kept⟩ | ⟨k, name, r, -, other, -⟩
    · rcases kept ["f", "w"] with same | ⟨free, -⟩
      · exact same.trans (by decide +kernel)
      · exact absurd free (by decide +kernel)
    · cases other
  · have raised : halfwayReport.error = some (.write ⟨0, ["d", "y", "z.long"]⟩ .missing) := by
      decide +kernel
    refine ⟨raised, ?_⟩
    rcases leaves_of_refused_write (by decide +kernel) (by decide +kernel) ending rfl raised with
      ⟨r, other, -⟩ | ⟨k, name, r, found, refused, shorter, kept⟩
    · cases other
    · have second : k = 1 := by
        have path := (Error.write.inj refused).1
        rcases k with _ | _ | _ | k
        · cases found
          exact absurd path (by decide +kernel)
        · rfl
        · cases found
          exact absurd path (by decide +kernel)
        · cases found
      subst second
      refine ⟨shorter, ?_⟩
      have untouched := kept ["q.long", "d", "w"] (by decide +kernel) [0x31, 0x2B]
      exact fun written => absurd (untouched.mp written) (by decide +kernel)

end Sink

end DeltaTape
