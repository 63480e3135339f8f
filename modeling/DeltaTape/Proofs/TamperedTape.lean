/-
# DeltaTape.Proofs.TamperedTape — what is refused on a tape that was assigned to

The pointer and the cells of a tape may be assigned to from outside.  The pointer can then
stand where there is no cell: before the edge, beyond the last cell, or in a hole.  There,
and nowhere else, the operations that need the cell under the pointer are refused, with the
pointer for a reason, and leave everything as it was.

For any other reason only that is refused which has to be written and is too long: an item
that is no instruction, and the tape itself when it is shown as text.  A run that such an
item breaks off is the only thing that is refused with something done.

While cells are assigned to one by one, cell zero is never lost, so a tape always has a
greatest cell, and its snapshot lists the cells from zero up to that one, holes as zero.

* `Tape.display_eq_error`: when a tape cannot be shown as text;
* `Tape.snapshot_of_origin`: the snapshot of a tape that has cell zero, with its holes;
* `Deed.tried_refused`: what is refused of all that may be done to a machine, and why;
* `Deed.left_of_refused`: what a refusal leaves;
* `origin_after`: cell zero is there after any history of single assignments;
* `refusals_after_deeds`: what is refused and what is not, after any history.
-/
import Mathlib
import DeltaTape.Proofs.OrderedWork

namespace DeltaTape

set_option autoImplicit false

/-! ## The tape -/

namespace Tape

variable {t : Tape} {f : Fault}

/-- One of the numbers that a tape is shown with has too many digits. -/
def TooLong (t : Tape) : Prop :=
  Decimal.bound ≤ t.pointer.natAbs ∨
    ∃ listed, t.snapshot = .ok listed ∧ ∃ v ∈ listed, Decimal.bound ≤ v.natAbs

/-- A tape cannot be shown as text if one of its numbers is too long, or if it has no cells;
its pointer is looked at first. -/
theorem display_eq_error :
    t.display = .error f ↔
      t.TooLong ∧ f = .unwritten .writing ∨
      ¬ Decimal.bound ≤ t.pointer.natAbs ∧ t.snapshot = .error f := by
  unfold display TooLong
  cases pointer : Decimal.ofInt t.pointer with
  | error limit =>
      obtain ⟨long, rfl⟩ := Decimal.ofInt_eq_error.mp pointer
      simp [bind, Except.bind, Except.mapError, long, eq_comm]
  | ok text =>
      have short : ¬ Decimal.bound ≤ t.pointer.natAbs := by
        intro long
        cases pointer.symm.trans (Decimal.ofInt_eq_error.mpr ⟨long, rfl⟩)
      cases t.snapshot with
      | error f' => simp [bind, Except.bind, Except.mapError, short]
      | ok listed =>
          cases shown : listed.mapM Decimal.ofInt with
          | error limit =>
              obtain ⟨long, rfl⟩ := Decimal.mapM_ofInt_eq_error.mp shown
              simp [bind, Except.bind, Except.mapError, short, long, shown, eq_comm]
          | ok texts =>
              have all : ¬ ∃ v ∈ listed, Decimal.bound ≤ v.natAbs := by
                intro long
                cases shown.symm.trans (Decimal.mapM_ofInt_eq_error.mpr ⟨long, rfl⟩)
              simp [bind, Except.bind, Except.mapError, short, all, shown, pure, Except.pure]

/-- A tape that has cell zero has a greatest cell, and its snapshot lists the cells from
zero up to it, holes as zero. -/
theorem snapshot_of_origin (origin : 0 ∈ t.cells) :
    ∃ top listed, IsGreatest {c | c ∈ t.cells} top ∧ t.snapshot = .ok listed ∧
      (listed.length : Int) = top + 1 ∧
      ∀ i : Nat, (i : Int) ≤ top → listed[i]? = some (t.cells[(i : Int)]?.getD 0) := by
  obtain ⟨top, last⟩ := Option.isSome_iff_exists.mp
    (Std.ExtTreeMap.isSome_maxKey?_of_mem origin)
  obtain ⟨mem, upper⟩ := Std.ExtTreeMap.maxKey?_eq_some_iff_mem_and_forall.mp last
  have nonneg : 0 ≤ top := Int.isLE_compare.mp (upper 0 origin)
  rw [snapshot, last]
  refine ⟨top, _, ⟨mem, fun c here => Int.isLE_compare.mp (upper c here)⟩, rfl, ?_, ?_⟩
  · simp
    omega
  · intro i below
    simp only [List.getElem?_map]
    rw [List.getElem?_range (by omega)]
    rfl

end Tape

/-! ## The machine -/

namespace Machine

variable {m left : Machine} {f : Fault}

theorem kept_refused {result : Except Fault Machine} :
    (m.kept result).2 = some f ↔ result = .error f := by
  cases result <;> simp [kept]

/-- What holds of a machine, and of what something leads to, holds of what is left. -/
theorem kept_induction {P : Machine → Prop} {result : Except Fault Machine} (before : P m)
    (after : ∀ m', result = .ok m' → P m') : P (m.kept result).1 := by
  cases result with
  | error f => exact before
  | ok m' => exact after m' rfl

theorem map_eq_error {β γ : Type} {answer : Except Fault β} {g : β → γ} :
    answer.map g = .error f ↔ answer = .error f := by
  cases answer <;> simp [Except.map]

theorem tryRun_refused {items : List Item} :
    (m.tryRun items).2 = some f ↔ m.run items = .error f := by
  unfold tryRun run runFrom
  cases m.restarted.consume items with
  | mk m' fault => cases fault <;> simp

namespace Deed

/-- Whether it needs the cell under the pointer: a look, an addition, and a step of an
increment, a decrement or an output. -/
def touches : Deed → Bool
  | operation (.step item) => item.bare?.any Instruction.touches
  | operation (.add _) | look => true
  | operation (.run _) | operation .moveLeft | operation .moveRight => false
  | snapshot | display | setPointer _ | setCell _ _ | setCells _ => false

/-- What it has to write is too long: the item of a step, an item of a run before this
ends, or the tape. -/
def Unwritten (m : Machine) (limit : DigitLimit) (d : Deed) : Prop :=
  (∃ item, d = operation (.step item) ∧ item.text = .error limit) ∨
    (∃ items k, d = operation (.run items) ∧ BreaksAt items k limit) ∨
    d = display ∧ m.tape.TooLong ∧ limit = .writing

/-- It lists the cells, and there are none.  A pointer that is too long comes first. -/
def Bare (m : Machine) (d : Deed) : Prop :=
  m.tape.cells = ∅ ∧ (d = snapshot ∨ d = display ∧ ¬ Decimal.bound ≤ m.tape.pointer.natAbs)

/-- The reasons to refuse something. -/
def Refused (m : Machine) (f : Fault) (d : Deed) : Prop :=
  d.touches = true ∧ m.tape.pointer ∉ m.tape.cells ∧ f = .unallocated ⟨m.tape.pointer⟩ ∨
    (∃ limit, d.Unwritten m limit ∧ f = .unwritten limit) ∨ d.Bare m ∧ f = .noCells

/-- Whether it assigns to all cells at once. -/
def isWholesale : Deed → Bool
  | setCells _ => true
  | operation _ | look | snapshot | display | setPointer _ | setCell _ _ => false

/-- What needs a cell is refused where there is none, what has to be written where it is too
long, and what lists the cells where there are none.  Nothing else is refused. -/
theorem tried_refused {d : Deed} : (d.tried m).2 = some f ↔ d.Refused m f := by
  cases d with
  | operation o =>
      cases o with
      | run items =>
          rw [tried, perform, tryRun_refused, run_eq_error, exists_comm]
          simp [Refused, touches, Unwritten, Bare]
      | step item =>
          rw [tried, perform, kept_refused, step_eq_error]
          simp [Refused, touches, Unwritten, Bare]
      | add amount =>
          rw [tried, perform, kept_refused, map_eq_error, mapError_eq_error]
          simp [Refused, touches, Unwritten, Bare, Tape.add_eq_error, Tape.value_refused]
      | moveLeft | moveRight => simp [tried, perform, Refused, touches, Unwritten, Bare]
  | look =>
      rw [tried, kept_refused, map_eq_error, mapError_eq_error]
      simp [Refused, touches, Unwritten, Bare, Tape.value_refused]
  | snapshot =>
      rw [tried, kept_refused, map_eq_error, Tape.snapshot_eq_error]
      simp [Refused, touches, Unwritten, Bare]
  | display =>
      rw [tried, kept_refused, map_eq_error, Tape.display_eq_error, Tape.snapshot_eq_error]
      simp [Refused, touches, Unwritten, Bare, and_left_comm, and_comm]
  | setPointer pointer => simp [tried, Refused, touches, Unwritten, Bare]
  | setCell index value => simp [tried, Refused, touches, Unwritten, Bare]
  | setCells cells => simp [tried, Refused, touches, Unwritten, Bare]

/-- What is refused has done nothing, unless it is a run that is broken off. -/
theorem left_of_refused {d : Deed} (refused : d.tried m = (left, some f)) :
    left = m ∨ ∃ items limit, d = .operation (.run items) ∧ f = .unwritten limit := by
  have keeps : ∀ result : Except Fault Machine, m.kept result = (left, some f) → left = m := by
    intro result same
    cases result with
    | ok m' => cases same
    | error f' => cases same; rfl
  cases d with
  | operation o =>
      cases o with
      | run items =>
          have failed : m.run items = .error f := tryRun_refused.mp (congrArg Prod.snd refused)
          obtain ⟨-, limit, -, rfl⟩ := run_eq_error.mp failed
          exact Or.inr ⟨items, limit, rfl, rfl⟩
      | step item => exact Or.inl (keeps _ refused)
      | add amount => exact Or.inl (keeps _ refused)
      | moveLeft | moveRight => cases refused
  | look | snapshot | display => exact Or.inl (keeps _ refused)
  | setPointer pointer => cases refused
  | setCell index value => cases refused
  | setCells cells => cases refused

end Deed

/-- No operation takes cell zero away. -/
theorem origin_perform (o : Operation) (origin : 0 ∈ m.tape.cells) :
    0 ∈ (m.perform o).1.tape.cells := by
  cases o with
  | run items =>
      have spans := tryRun_spans m items
      exact (spans.allocated 0).mpr ⟨le_rfl, _, spans.here, spans.nonneg _ spans.here⟩
  | step item =>
      refine kept_induction (P := fun m => 0 ∈ m.tape.cells) origin ?_
      intro m' stepped
      obtain ⟨t, done, rfl⟩ := execute_eq_ok.mp (step_eq_ok.mp stepped).1
      exact Tape.mem_cells_undergo origin done
  | add amount =>
      refine kept_induction (P := fun m => 0 ∈ m.tape.cells) origin ?_
      intro m' performed
      cases added : m.tape.add amount with
      | error u => rw [added] at performed; cases performed
      | ok t =>
          rw [added] at performed
          cases performed
          exact ((Tape.added_of_add added).allocated 0).mpr origin
  | moveLeft =>
      rw [perform, Tape.cells_moveLeft]
      exact origin
  | moveRight => exact (Tape.mem_cells_moveRight m.tape 0).mpr (Or.inl origin)

/-- Nor does anything else that may be done, unless it assigns to all cells at once. -/
theorem Deed.origin_leaves {d : Deed} (single : d.isWholesale = false)
    (origin : 0 ∈ m.tape.cells) : 0 ∈ (d.leaves m).tape.cells := by
  have looked : ∀ {β : Type} (answer : Except Fault β),
      0 ∈ (m.kept (answer.map fun _ => m)).1.tape.cells := by
    intro β answer
    cases answer <;> exact origin
  rw [leaves_eq]
  cases d with
  | operation o => exact origin_perform o origin
  | look | snapshot | display => exact looked _
  | setPointer pointer => exact origin
  | setCell index value => exact Std.ExtTreeMap.mem_insert.mpr (Or.inr origin)
  | setCells cells => cases single

/-- Cell zero is there after any history of single assignments. -/
theorem origin_after {history : List Deed}
    (single : ∀ d ∈ history, d.isWholesale = false) : 0 ∈ (after history).tape.cells := by
  have start : 0 ∈ fresh.tape.cells := by decide +kernel
  rw [after]
  generalize fresh = m at start
  induction history generalizing m with
  | nil => exact start
  | cons d history ih =>
      obtain ⟨here, later⟩ := List.forall_mem_cons.mp single
      exact ih later _ (Deed.origin_leaves here start)

/-- **Refusals after any history.**  Whatever has been done to a machine, its tape assigned
to at will, what needs the cell under the pointer is refused with the pointer for a reason
exactly where there is no such cell.  For other reasons only this is refused: a step with an
item, and a run with an item before its end, that cannot be written; the tape as text where
one of its numbers is too long; and what lists the cells of a tape without any.  Access by
access the same is refused, and has changed nothing, the tape, the log and the cursor being as
they were, unless it is a run that was broken off.  A move to the right ends on a cell and
keeps what the cells hold; a move to the left, from the edge or before it, does nothing.  If
no assignment was made to all cells at once, cell zero is there, so there is a greatest cell,
and the snapshot lists the cells from zero up to that one, holes as zero. -/
theorem refusals_after_deeds (history : List Deed) :
    ∃ m, after history = m ∧
      (∀ (d : Deed) (u : Unallocated), (d.tried m).2 = some (.unallocated u) ↔
        d.touches = true ∧ m.tape.pointer ∉ m.tape.cells ∧ u = ⟨m.tape.pointer⟩) ∧
      (∀ (d : Deed) (limit : DigitLimit),
        (d.tried m).2 = some (.unwritten limit) ↔ d.Unwritten m limit) ∧
      (∀ d : Deed, (d.tried m).2 = some .noCells ↔ d.Bare m) ∧
      (∀ d : Deed, d.work.run m = concluded (d.tried m)) ∧
      (∀ (d : Deed) (left : Machine) (f : Fault), d.tried m = (left, some f) →
        left = m ∨ ∃ items limit, d = .operation (.run items) ∧ f = .unwritten limit) ∧
      (m.tape.moveRight.pointer = m.tape.pointer + 1 ∧
        m.tape.moveRight.pointer ∈ m.tape.moveRight.cells ∧
        ∀ (c v : Int), m.tape.cells[c]? = some v → m.tape.moveRight.cells[c]? = some v) ∧
      (m.tape.pointer ≤ 0 → m.tape.moveLeft = m.tape) ∧
      ((∀ d ∈ history, d.isWholesale = false) →
        0 ∈ m.tape.cells ∧ ∃ top listed, IsGreatest {c | c ∈ m.tape.cells} top ∧
          m.tape.snapshot = .ok listed ∧ (listed.length : Int) = top + 1 ∧
          ∀ i : Nat, (i : Int) ≤ top → listed[i]? = some (m.tape.cells[(i : Int)]?.getD 0)) := by
  refine ⟨after history, rfl, ?_, ?_, ?_, Deed.work_run _, fun d left f => Deed.left_of_refused,
    ⟨rfl, ?_, fun c v => Tape.getElem?_moveRight⟩, ?_, ?_⟩
  · intro d u
    rw [Deed.tried_refused]
    simp [Deed.Refused]
  · intro d limit
    rw [Deed.tried_refused]
    simp [Deed.Refused]
  · intro d
    rw [Deed.tried_refused]
    simp [Deed.Refused]
  · exact (Tape.mem_cells_moveRight _ _).mpr (Or.inr rfl)
  · intro edge
    rw [Tape.moveLeft, if_neg (by omega)]
  · intro single
    have origin := origin_after single
    exact ⟨origin, Tape.snapshot_of_origin origin⟩

/-- A pointer before the edge, an increment that is refused there, and a hole. -/
theorem refusals_after_deeds_hole :
    let history : List Deed :=
      [.setPointer (-3), .operation (.step (.instruction .increment)), .setCell 2 5]
    (∀ d ∈ history, d.isWholesale = false) ∧
      (Deed.operation (.add 1)).work.run (after history) =
        .error (.unallocated ⟨-3⟩) (after history) ∧
      (after history).tape.moveLeft = (after history).tape ∧
      ∃ listed, (after history).tape.snapshot = .ok listed ∧
        listed[1]? = some 0 ∧ listed[2]? = some 5 := by
  intro history
  have single : ∀ d ∈ history, d.isWholesale = false := by decide
  have pointer : (after history).tape.pointer = -3 := by decide +kernel
  have unallocated : (after history).tape.pointer ∉ (after history).tape.cells := by decide +kernel
  have hole : (after history).tape.cells[((1 : Nat) : Int)]? = none := by decide +kernel
  have held : (after history).tape.cells[((2 : Nat) : Int)]? = some 5 := by decide +kernel
  obtain ⟨m, rfl, missing, -, -, worked, keeps, -, left, listed⟩ := refusals_after_deeds history
  obtain ⟨-, top, cells, greatest, snapshot, -, entries⟩ := listed single
  have within : 2 ≤ top := greatest.2 (show 2 ∈ (after history).tape.cells by decide +kernel)
  refine ⟨single, ?_, left (by omega), cells, snapshot, ?_, ?_⟩
  · have refused := (missing (.operation (.add 1)) ⟨-3⟩).mpr ⟨rfl, unallocated, by rw [pointer]⟩
    rw [worked]
    cases shown : (Deed.operation (.add 1)).tried (after history) with
    | mk m fault =>
        rw [shown] at refused
        cases refused
        rcases keeps _ _ _ shown with rfl | ⟨_, _, running, _⟩
        · rfl
        · cases running
  · rw [entries 1 (by omega), hole]
    rfl
  · rw [entries 2 (by omega), held]
    rfl

/-- A step and a run with a number of too many digits are refused, although neither needs a
cell, and so is a tape with such a number when it is shown as text. -/
theorem refusals_after_deeds_long_number :
    let step : Deed := .operation (.step (.number Decimal.bound))
    let run : Deed := .operation (.run [.number Decimal.bound])
    (step.touches = false ∧ (step.tried (after [])).2 = some (.unwritten .writing)) ∧
      (run.touches = false ∧ (run.tried (after [])).2 = some (.unwritten .writing)) ∧
      (Deed.display.tried (after [.setCell 0 Decimal.bound])).2 = some (.unwritten .writing) := by
  refine ⟨?_, ?_, ?_⟩
  · rw [Item.number_bound]
    exact ⟨rfl, rfl⟩
  · rw [Item.number_bound]
    exact ⟨rfl, rfl⟩
  · have held : (after [.setCell 0 Decimal.bound]).tape.cells[(0 : Int)]? =
        some (Decimal.bound : Int) := Std.ExtTreeMap.getElem?_insert_self
    obtain ⟨top, listed, greatest, snapshot, -, entries⟩ :=
      Tape.snapshot_of_origin (Tape.mem_cells_of_getElem? held)
    have first := entries 0 (greatest.2 (Tape.mem_cells_of_getElem? held))
    rw [Nat.cast_zero, held] at first
    have tooLong : (after [.setCell 0 Decimal.bound]).tape.TooLong :=
      Or.inr ⟨listed, snapshot, _, List.mem_of_getElem? first, (Int.natAbs_natCast _).ge⟩
    exact Deed.tried_refused.mpr (Or.inr (Or.inl ⟨_, Or.inr (Or.inr ⟨rfl, tooLong, rfl⟩), rfl⟩))

end Machine

end DeltaTape
