/-
# DeltaTape.Proofs.TapeSpan — which cells a tape has after any history

A tape that is never assigned to from outside has the cells from zero up to the
furthest place where its pointer has stood since it was blank, and no other: only
moving right allocates, and it allocates the one cell it moves to.  So there are
no holes, the pointer always stands on a cell, and nothing is ever refused for want
of one.  What cannot be written may still be refused: a step has then done nothing,
and a run that is broken off has done what a shorter run does.

The places where the pointer has stood are not kept by a machine.  `Watched` keeps
them beside it, through any sequence of runs, single steps and operations on the
tape, refused or not; a run starts over and stands where each beginning of its items
leads.

* `Tape.Spans`: the cells of a tape are those up to its furthest stand;
* `Tape.snapshot_eq`: a tape without holes is the list that its snapshot is;
* `execute_spans` and `tryRun_spans`: an instruction, and a run, keep to the span;
* `Watched.Sound.perform`: so does whatever may be done to a machine;
* `spans_of_operations`: the cells, the pointer and the snapshot after any history.
-/
import Mathlib
import DeltaTape.Proofs.ItemStream
import DeltaTape.Proofs.TapeOperations

namespace DeltaTape

set_option autoImplicit false

/-! ## The tape -/

namespace Tape

/-- The cells of a tape are those from zero up to the furthest of the places where
its pointer has stood, and it stands at one of these places now. -/
structure Spans (stands : List Int) (t : Tape) : Prop where
  here : t.pointer ∈ stands
  nonneg : ∀ p ∈ stands, 0 ≤ p
  allocated : ∀ c, c ∈ t.cells ↔ 0 ≤ c ∧ ∃ p ∈ stands, c ≤ p

variable {stands stands' : List Int} {t : Tape}

theorem Spans.blank : Spans [0] .blank where
  here := by simp [Tape.blank]
  nonneg := by simp
  allocated c := by
    simp only [Tape.blank, Std.ExtTreeMap.mem_insert, compare_eq_iff_eq,
      Std.ExtTreeMap.not_mem_empty, or_false, List.mem_singleton, exists_eq_left]
    omega

/-- In which order the places were stood at, and how often, does not matter. -/
theorem Spans.congr (spans : Spans stands t) (same : ∀ p, p ∈ stands ↔ p ∈ stands') :
    Spans stands' t where
  here := (same _).mp spans.here
  nonneg p mem := spans.nonneg p ((same p).mpr mem)
  allocated c := by simp only [spans.allocated, same]

theorem Spans.mem_cells (spans : Spans stands t) : t.pointer ∈ t.cells :=
  (spans.allocated _).mpr ⟨spans.nonneg _ spans.here, _, spans.here, le_rfl⟩

theorem Spans.value (spans : Spans stands t) : ∃ v, t.value = .ok v := by
  rw [Tape.value, Std.ExtTreeMap.getElem?_eq_some_getElem spans.mem_cells]
  exact ⟨_, rfl⟩

/-- A tape with the same cells whose pointer moved to one of them. -/
theorem Spans.within (spans : Spans stands t) {t' : Tape}
    (cells : ∀ c, c ∈ t'.cells ↔ c ∈ t.cells) (onward : t'.pointer ∈ t.cells) :
    Spans (stands ++ [t'.pointer]) t' where
  here := by simp
  nonneg p mem := by
    rcases List.mem_append.mp mem with earlier | now
    · exact spans.nonneg p earlier
    · rw [List.mem_singleton.mp now]
      exact ((spans.allocated _).mp onward).1
  allocated c := by
    obtain ⟨-, q, stood, below⟩ := (spans.allocated _).mp onward
    rw [cells, spans.allocated]
    refine and_congr_right fun _ => ?_
    constructor
    · rintro ⟨p, mem, le⟩
      exact ⟨p, List.mem_append_left _ mem, le⟩
    · rintro ⟨p, mem, le⟩
      rcases List.mem_append.mp mem with earlier | now
      · exact ⟨p, earlier, le⟩
      · rw [List.mem_singleton.mp now] at le
        exact ⟨q, stood, le.trans below⟩

theorem Spans.add (spans : Spans stands t) (amount : Int) :
    ∃ t', t.add amount = .ok t' ∧ Spans (stands ++ [t'.pointer]) t' := by
  rw [Tape.add, Std.ExtTreeMap.getElem?_eq_some_getElem spans.mem_cells]
  refine ⟨_, rfl, spans.within ?_ spans.mem_cells⟩
  intro c
  simp only [Std.ExtTreeMap.mem_insert, compare_eq_iff_eq]
  constructor
  · rintro (rfl | mem)
    · exact spans.mem_cells
    · exact mem
  · exact Or.inr

theorem Spans.moveLeft (spans : Spans stands t) :
    Spans (stands ++ [t.moveLeft.pointer]) t.moveLeft := by
  refine spans.within ?_ ?_
  · intro c
    rw [Tape.moveLeft]
    split <;> rfl
  · -- What lies between the edge and the pointer has a cell.
    have low := spans.nonneg _ spans.here
    have moved : 0 ≤ t.moveLeft.pointer ∧ t.moveLeft.pointer ≤ t.pointer := by
      rw [Tape.moveLeft]
      split
      · dsimp only
        omega
      · omega
    exact (spans.allocated _).mpr ⟨moved.1, t.pointer, spans.here, moved.2⟩

theorem Spans.moveRight (spans : Spans stands t) :
    Spans (stands ++ [t.moveRight.pointer]) t.moveRight where
  here := by simp
  nonneg p mem := by
    have low := spans.nonneg _ spans.here
    rcases List.mem_append.mp mem with earlier | now
    · exact spans.nonneg p earlier
    · rw [List.mem_singleton.mp now, Tape.moveRight]
      simp only
      omega
  allocated c := by
    have low := spans.nonneg _ spans.here
    simp only [Tape.moveRight, Std.ExtTreeMap.mem_insertIfNew, compare_eq_iff_eq, spans.allocated,
      List.mem_append, List.mem_singleton]
    constructor
    · rintro (rfl | ⟨low, p, mem, le⟩)
      · exact ⟨by omega, _, Or.inr rfl, le_rfl⟩
      · exact ⟨low, p, Or.inl mem, le⟩
    · rintro ⟨low, p, mem | rfl, le⟩
      · exact Or.inr ⟨low, p, mem, le⟩
      · -- Up to the old pointer the cells were there before.
        rcases eq_or_lt_of_le le with rfl | below
        · exact Or.inl rfl
        · exact Or.inr ⟨low, t.pointer, spans.here, by omega⟩

/-- Somewhere the pointer has stood furthest. -/
theorem Spans.exists_isGreatest (spans : Spans stands t) :
    ∃ top, IsGreatest {p | p ∈ stands} top := by
  obtain ⟨top, mem, greatest⟩ :=
    stands.toFinset.exists_max_image id ⟨t.pointer, List.mem_toFinset.mpr spans.here⟩
  exact ⟨top, List.mem_toFinset.mp mem, fun p stood => greatest p (List.mem_toFinset.mpr stood)⟩

theorem Spans.mem_cells_iff (spans : Spans stands t) {top : Int}
    (furthest : IsGreatest {p | p ∈ stands} top) (c : Int) : c ∈ t.cells ↔ 0 ≤ c ∧ c ≤ top := by
  rw [spans.allocated]
  refine and_congr_right fun _ => ⟨?_, fun below => ⟨top, furthest.1, below⟩⟩
  rintro ⟨p, stood, below⟩
  exact below.trans (furthest.2 stood)

/-! ## The snapshot -/

/-- The snapshot of a tape that has the cells up to `top` and no other has as many
elements, and they are the cells. -/
theorem snapshot_eq {top : Int} (nonneg : 0 ≤ top)
    (cells : ∀ c, c ∈ t.cells ↔ 0 ≤ c ∧ c ≤ top) :
    ∃ listed, t.snapshot = .ok listed ∧ (listed.length : Int) = top + 1 ∧
      ∀ i : Nat, listed[i]? = t.cells[(i : Int)]? := by
  have last : t.cells.maxKey? = some top := by
    rw [Std.ExtTreeMap.maxKey?_eq_some_iff_mem_and_forall]
    refine ⟨(cells top).mpr ⟨nonneg, le_rfl⟩, ?_⟩
    intro c mem
    exact Int.isLE_compare.mpr ((cells c).mp mem).2
  rw [Tape.snapshot, last]
  refine ⟨_, rfl, by simp; omega, ?_⟩
  intro i
  rw [List.getElem?_map]
  by_cases inside : (i : Int) ≤ top
  · have stands : (i : Int) ∈ t.cells := (cells i).mpr ⟨by omega, inside⟩
    rw [List.getElem?_range (by omega), Std.ExtTreeMap.getElem?_eq_some_getElem stands]
    simp [Std.ExtTreeMap.getElem?_eq_some_getElem stands]
  · have beyond : (i : Int) ∉ t.cells := fun mem => inside ((cells i).mp mem).2
    rw [Std.ExtTreeMap.getElem?_eq_none beyond, List.getElem?_eq_none (by simp; omega)]
    rfl

end Tape

/-! ## The machine -/

namespace Machine

variable {stands : List Int} {m : Machine}

/-- One instruction is carried out, and keeps to the span. -/
theorem execute_spans (spans : m.tape.Spans stands) (i : Option Instruction) :
    ∃ m', m.execute i = .ok m' ∧ m'.tape.Spans (stands ++ [m'.tape.pointer]) := by
  cases i with
  | none => exact ⟨m, rfl, spans.within (fun _ => Iff.rfl) spans.mem_cells⟩
  | some i =>
      cases i with
      | increment | decrement =>
          obtain ⟨t, added, spans'⟩ := spans.add _
          refine ⟨{ m with tape := t }, ?_, spans'⟩
          rw [execute]
          exact congrArg (· >>= fun tape => pure { m with tape }) added
      | moveLeft => exact ⟨_, rfl, spans.moveLeft⟩
      | moveRight => exact ⟨_, rfl, spans.moveRight⟩
      | output =>
          obtain ⟨v, read⟩ := spans.value
          refine ⟨{ m with events := m.events.push ⟨v, m.tape.pointer, m.cursor.index⟩ }, ?_,
            spans.within (fun _ => Iff.rfl) spans.mem_cells⟩
          rw [execute, observe, read]
          rfl
      | input | loopStart | loopEnd =>
          exact ⟨m, rfl, spans.within (fun _ => Iff.rfl) spans.mem_cells⟩

/-- What may be applied in a single step keeps to the span, and is refused only if it
cannot be written. -/
theorem step_spans (spans : m.tape.Spans stands) (item : Item) :
    (∃ m', m.step item = .ok m' ∧ m'.tape.Spans (stands ++ [m'.tape.pointer])) ∨
      ∃ limit, m.step item = .error (.unwritten limit) := by
  cases stepped : m.step item with
  | ok m' =>
      obtain ⟨m₁, executed, spans'⟩ := execute_spans spans item.bare?
      cases executed.symm.trans (step_eq_ok.mp stepped).1
      exact Or.inl ⟨m', rfl, spans'⟩
  | error f =>
      obtain ⟨-, unallocated, -⟩ | ⟨limit, -, rfl⟩ := step_eq_error.mp stepped
      · exact absurd spans.mem_cells unallocated
      · exact Or.inr ⟨limit, rfl⟩

/-- Where the pointer stands in the course of taking items: after each beginning
of them. -/
def standsFrom (m : Machine) (items : List Item) : List Int :=
  items.inits.map fun begun => (m.consume begun).1.tape.pointer

theorem standsFrom_cons {item : Item} {m' : Machine} (present : item ≠ .absent)
    (taken : m.step item.unwrapped = .ok m') (items : List Item) :
    m.standsFrom (item :: items) =
      m.tape.pointer :: { m' with cursor := m'.cursor.advance 1 }.standsFrom items := by
  have onward : ∀ begun, m.consume (item :: begun) =
      { m' with cursor := m'.cursor.advance 1 }.consume begun := by
    intro begun
    rw [consume_cons m present, taken]
  rw [standsFrom, List.inits_cons, List.map_cons, List.map_map]
  simp only [Function.comp_def, onward]
  rfl

/-- An item at which the run ends or is broken off leaves the pointer where it stands. -/
theorem standsFrom_ended {item : Item} (ended : ∀ begun, (m.consume (item :: begun)).1 = m)
    (items : List Item) :
    m.standsFrom (item :: items) = m.tape.pointer :: items.inits.map fun _ => m.tape.pointer := by
  rw [standsFrom, List.inits_cons, List.map_cons, List.map_map]
  simp only [Function.comp_def, ended]
  rfl

/-- Whether or not items are taken to the end, the tape spans where the pointer stood
before and where it stood meanwhile. -/
theorem consume_spans (spans : m.tape.Spans stands) (items : List Item) :
    m.tape.pointer ∈ m.standsFrom items ∧
      (m.consume items).1.tape.Spans (stands ++ m.standsFrom items) := by
  induction items generalizing m stands with
  | nil => exact ⟨by simp [standsFrom, consume], spans.within (fun _ => Iff.rfl) spans.mem_cells⟩
  | cons item items ih =>
      have ended : (∀ begun, (m.consume (item :: begun)).1 = m) →
          m.tape.pointer ∈ m.standsFrom (item :: items) ∧
            (m.consume (item :: items)).1.tape.Spans (stands ++ m.standsFrom (item :: items)) := by
        intro ended
        rw [standsFrom_ended ended, ended]
        refine ⟨by simp, spans.congr ?_⟩
        intro p
        simp only [List.mem_append, List.mem_cons, List.mem_map]
        constructor
        · exact Or.inl
        · rintro (stood | rfl | ⟨-, -, rfl⟩)
          · exact stood
          · exact spans.here
          · exact spans.here
      by_cases absent : item = .absent
      · subst absent
        exact ended fun begun => rfl
      · rcases step_spans spans item.unwrapped with ⟨m₁, taken, spans₁⟩ | ⟨limit, refused⟩
        · obtain ⟨here, spans'⟩ := ih (m := { m₁ with cursor := m₁.cursor.advance 1 }) spans₁
          rw [standsFrom_cons absent taken, consume_cons m absent, taken]
          refine ⟨by simp, spans'.congr ?_⟩
          -- Both sides have one place twice: the old pointer, and the new one.
          intro p
          simp only [List.mem_append, List.mem_cons, List.not_mem_nil, or_false]
          constructor
          · rintro ((before | rfl) | after)
            · exact Or.inl before
            · exact Or.inr (Or.inr here)
            · exact Or.inr (Or.inr after)
          · rintro (before | rfl | after)
            · exact Or.inl (Or.inl before)
            · exact Or.inl (Or.inl spans.here)
            · exact Or.inr after
        · refine ended fun begun => ?_
          rw [consume_cons m absent, refused]

theorem tape_tryRun (m : Machine) (items : List Item) :
    (m.tryRun items).1.tape = (m.restarted.consume items).1.tape := by
  unfold tryRun
  split <;> simp_all [withheld]

/-- What a run leaves, broken off or not, spans where the pointer stood in its course. -/
theorem tryRun_spans (m : Machine) (items : List Item) :
    (m.tryRun items).1.tape.Spans (m.restarted.standsFrom items) := by
  obtain ⟨here, spans⟩ := consume_spans (m := m.restarted) Tape.Spans.blank items
  rw [tape_tryRun]
  refine spans.congr ?_
  intro p
  rw [List.singleton_append, List.mem_cons, or_iff_right_of_imp]
  rintro rfl
  exact here

/-! ## Histories -/

/-- What may be done to a machine and its tape, short of assigning to the tape. -/
inductive Operation where
  | run (items : List Item)
  | step (item : Item)
  | add (amount : Int)
  | moveLeft
  | moveRight

/-- What is left of `m`, and why, once something has led to another machine or has been
refused. -/
def kept (m : Machine) : Except Fault Machine → Machine × Option Fault
  | .ok m' => (m', none)
  | .error f => (m, some f)

/-- Does it, and tells what is left and why it was refused, if it was. -/
def perform (m : Machine) : Operation → Machine × Option Fault
  | .run items => m.tryRun items
  | .step item => m.kept (m.step item)
  | .add amount =>
    m.kept (((m.tape.add amount).mapError .unallocated).map fun tape => { m with tape })
  | .moveLeft => ({ m with tape := m.tape.moveLeft }, none)
  | .moveRight => ({ m with tape := m.tape.moveRight }, none)

/-- A machine, and where its pointer has stood since its tape was last blank. -/
structure Watched where
  machine : Machine
  stands : List Int

namespace Watched

/-- A machine that has done nothing. -/
def fresh : Watched := ⟨.fresh, [Tape.blank.pointer]⟩

/-- Where the pointer has stood after an operation: a run starts over on a blank tape,
all else goes on from where the pointer stood. -/
def standsAfter (w : Watched) : Operation → List Int
  | .run items => w.machine.restarted.standsFrom items
  | o => w.stands ++ [(w.machine.perform o).1.tape.pointer]

/-- Does something to the machine. -/
def perform (w : Watched) (o : Operation) : Watched := ⟨(w.machine.perform o).1, w.standsAfter o⟩

/-- The tape spans where the pointer has stood. -/
def Sound (w : Watched) : Prop := w.machine.tape.Spans w.stands

theorem sound_fresh : fresh.Sound := Tape.Spans.blank

/-- Whatever is done keeps to the span, and so does what is refused. -/
theorem Sound.perform {w : Watched} (sound : w.Sound) (o : Operation) : (w.perform o).Sound := by
  cases o with
  | run items => exact tryRun_spans w.machine items
  | step item =>
      rw [Sound, Watched.perform, standsAfter, Machine.perform]
      · rcases step_spans sound item with ⟨m', stepped, spans⟩ | ⟨limit, refused⟩
        · rw [stepped]
          exact spans
        · rw [refused]
          exact Tape.Spans.within sound (fun _ => Iff.rfl) (Tape.Spans.mem_cells sound)
      · nofun
  | add amount =>
      obtain ⟨t, added, spans⟩ := Tape.Spans.add sound amount
      rw [Sound, Watched.perform, standsAfter, Machine.perform, added]
      · exact spans
      · nofun
  | moveLeft => exact Tape.Spans.moveLeft sound
  | moveRight => exact Tape.Spans.moveRight sound

/-- A history keeps to the span, and to be watched makes no difference to it. -/
theorem Sound.history {w : Watched} (sound : w.Sound) (history : List Operation) :
    (history.foldl Watched.perform w).Sound ∧
      (history.foldl Watched.perform w).machine =
        history.foldl (fun m o => (m.perform o).1) w.machine := by
  induction history generalizing w with
  | nil => exact ⟨sound, rfl⟩
  | cons o history ih => exact ih (sound.perform o)

end Watched

/-- **The span of a tape.**  Whatever sequence of runs, single steps and operations
on the tape a machine goes through, refusals included, its tape afterwards has exactly
the cells from zero up to the furthest place where the pointer has stood since the tape
was last blank; the pointer stands on one of them; and the snapshot lists them.  So
nothing that may be done next is refused for want of a cell: reading and adding are
never refused, a step only with an item that cannot be written, and a run only where
such an item breaks it off. -/
theorem spans_of_operations (history : List Operation) :
    ∃ w top, w.machine = history.foldl (fun m o => (m.perform o).1) fresh ∧
      w = history.foldl Watched.perform Watched.fresh ∧
      IsGreatest {p | p ∈ w.stands} top ∧
      (0 ≤ w.machine.tape.pointer ∧ w.machine.tape.pointer ∈ w.machine.tape.cells) ∧
      (∀ c, c ∈ w.machine.tape.cells ↔ 0 ≤ c ∧ c ≤ top) ∧
      (∀ c, top < c → w.machine.tape.cells[c]? = none) ∧
      (∃ listed, w.machine.tape.snapshot = .ok listed ∧ (listed.length : Int) = top + 1 ∧
        ∀ i : Nat, listed[i]? = w.machine.tape.cells[(i : Int)]?) ∧
      (∃ v, w.machine.tape.value = .ok v) ∧
      (∀ amount, ∃ t, w.machine.tape.add amount = .ok t) ∧
      (∀ (item : Item) (f : Fault), w.machine.step item = .error f ↔
        ∃ limit, item.text = .error limit ∧ f = .unwritten limit) ∧
      ∀ (items : List Item) (f : Fault), w.machine.run items = .error f ↔
        ∃ k limit, BreaksAt items k limit ∧ f = .unwritten limit := by
  obtain ⟨sound, same⟩ := Watched.sound_fresh.history history
  obtain ⟨top, furthest⟩ := sound.exists_isGreatest
  have cells := sound.mem_cells_iff furthest
  refine ⟨_, top, same, rfl, furthest, ⟨sound.nonneg _ sound.here, sound.mem_cells⟩, cells, ?_,
    Tape.snapshot_eq (sound.nonneg _ furthest.1) cells, sound.value, ?_, ?_, ?_⟩
  · intro c beyond
    exact Std.ExtTreeMap.getElem?_eq_none fun mem => absurd ((cells c).mp mem).2 (by omega)
  · intro amount
    obtain ⟨t, added, -⟩ := sound.add amount
    exact ⟨t, added⟩
  · intro item f
    rw [step_eq_error, or_iff_right]
    rintro ⟨-, unallocated, -⟩
    exact unallocated sound.mem_cells
  · intro items f
    exact run_eq_error

/-- A run starts over, and stands still after an absent item and where it is broken off. -/
example :
    let history : List Operation := [.moveRight, .moveRight,
      .run [.instruction .moveRight, .absent], .step (.instruction .moveLeft)]
    let broken : Operation := .run [.instruction .moveRight, .foreign (.error .writing)]
    (history.foldl Watched.perform Watched.fresh).stands = [0, 1, 1, 0] ∧
      ((history ++ [broken]).foldl Watched.perform Watched.fresh).stands = [0, 1, 1] := by
  decide +kernel

end Machine

end DeltaTape
