/-
# DeltaTape.Proofs.OrderedWork — what is done to a machine, one access after the other

An operation on a machine leads to another machine or is refused.  Here the same
operations are taken apart into single accesses: a cell is read and then written, the
pointer is moved and then the cell under it allocated, an event is put together and then
recorded, and a run asks its cursor what to do next.  What was done before a refusal stays
done, so that a machine that has been through anything, refusals included, can be spoken
of.

It turns out that a refused operation has done nothing, since it asks for its cell, or
writes what it has to write, before it changes anything.  The exception is a run, which
has by then done what a shorter run does.  And a run puts everything back to the start
before it asks its cursor for the first time, so whatever becomes of it becomes of a run
on a fresh machine too.

* `Work`: accesses in order, and the machine they leave, refused or not;
* `Work.step_run`: one step does what it leads to, or nothing;
* `Work.poll_eq_consume`: applying what the cursor shows, again and again, is a run;
* `Deed.work_run`: whatever may be done to a machine, assignments included, leaves access
  by access what it leaves as a whole;
* `run_after_deeds`: a run after any history.
-/
import Mathlib
import DeltaTape.Proofs.ItemStream
import DeltaTape.Proofs.TapeOperations
import DeltaTape.Proofs.TapeSpan

namespace DeltaTape

set_option autoImplicit false

/-! ## What a cursor shows -/

namespace Cursor

variable {β : Type} {c : Cursor}

theorem current_eq_some {sequence : List β} {x : β} :
    c.current sequence = some x ↔ 0 ≤ c.index ∧ sequence[c.index.toNat]? = some x := by
  unfold current
  split <;> simp_all

theorem current_eq_head? {k : Nat} (here : c.index = k) (sequence : List β) :
    c.current sequence = (sequence.drop k).head? := by
  rw [current, here, if_pos (Int.natCast_nonneg k), Int.toNat_natCast, List.head?_drop]

end Cursor

namespace Machine

variable {m n : Machine}

/-- Accesses to a machine, one after the other.  A refusal keeps what was done before. -/
abbrev Work := EStateM Fault Machine

/-- What is left, and why, as the result of accesses. -/
def concluded : Machine × Option Fault → EStateM.Result Fault Machine Unit
  | (m, none) => .ok () m
  | (m, some f) => .error f m

namespace Work

/-! ## Single accesses -/

/-- Reads the cell under the pointer. -/
def cell : Work Int := do
  let m ← get
  match m.tape.cells[m.tape.pointer]? with
  | some v => pure v
  | none => throw (.unallocated ⟨m.tape.pointer⟩)

/-- Writes the cell under the pointer, allocated or not. -/
def store (v : Int) : Work Unit :=
  modify fun m => { m with tape := m.tape.setCell m.tape.pointer v }

/-- Puts the pointer somewhere. -/
def point (pointer : Int) : Work Unit :=
  modify fun m => { m with tape := m.tape.setPointer pointer }

/-- Allocates the cell under the pointer if it is not. -/
def allocate : Work Unit :=
  modify fun m => { m with tape.cells := m.tape.cells.insertIfNew m.tape.pointer 0 }

/-- Puts an event at the end of the log. -/
def log (e : Event) : Work Unit := modify fun m => { m with events := m.events.push e }

/-- Asks for something that may be refused. -/
def ask {β : Type} (answer : Machine → Except Fault β) : Work Unit := do
  match answer (← get) with
  | .ok _ => pure ()
  | .error f => throw f

/-! ## Instructions and steps -/

def add (amount : Int) : Work Unit := do
  let v ← cell
  store (v + amount)

def moveLeft : Work Unit := do
  let pointer := (← get).tape.pointer
  if 0 < pointer then point (pointer - 1)

def moveRight : Work Unit := do
  point ((← get).tape.pointer + 1)
  allocate

/-- Reads the cell, and records it with the pointer and the cursor as they are. -/
def record : Work Unit := do
  let value ← cell
  let m ← get
  log ⟨value, m.tape.pointer, m.cursor.index⟩

def execute : Option Instruction → Work Unit
  | some .increment => add 1
  | some .decrement => add (-1)
  | some .moveLeft => moveLeft
  | some .moveRight => moveRight
  | some .output => record
  | some .input | some .loopStart | some .loopEnd | none => pure ()

/-- Carries out an instruction, and writes out what is none. -/
def step (item : Item) : Work Unit :=
  match item.bare? with
  | some i => execute (some i)
  | none => ask fun _ => item.text.mapError .unwritten

theorem ask_run {β : Type} (m : Machine) (answer : Machine → Except Fault β) :
    (ask answer).run m = concluded (m.kept ((answer m).map fun _ => m)) := by
  simp only [ask, EStateM.run_bind, EStateM.run_get]
  cases answer m <;> rfl

theorem add_run (m : Machine) (amount : Int) :
    (add amount).run m = concluded (m.kept
      (((m.tape.add amount).mapError .unallocated).map fun tape => { m with tape })) := by
  simp only [add, cell, Tape.add, EStateM.run_bind, EStateM.run_get]
  cases m.tape.cells[m.tape.pointer]? with
  | none => rfl
  | some v => rfl

theorem moveLeft_run (m : Machine) :
    moveLeft.run m = .ok () { m with tape := m.tape.moveLeft } := by
  simp only [moveLeft, Tape.moveLeft, EStateM.run_bind, EStateM.run_get]
  split <;> rfl

theorem moveRight_run (m : Machine) :
    moveRight.run m = .ok () { m with tape := m.tape.moveRight } := rfl

theorem record_run (m : Machine) :
    record.run m = concluded (m.kept
      ((m.observe.mapError .unallocated).map fun e => { m with events := m.events.push e })) := by
  simp only [record, cell, observe, Tape.value, EStateM.run_bind, EStateM.run_get]
  cases m.tape.cells[m.tape.pointer]? with
  | none => rfl
  | some v => rfl

/-- An instruction is carried out, or it is refused and nothing has been done. -/
theorem execute_run (m : Machine) (i : Option Instruction) :
    (execute i).run m = concluded (m.kept ((m.execute i).mapError .unallocated)) := by
  cases i with
  | none => rfl
  | some i =>
      cases i with
      | increment | decrement =>
          rw [execute, add_run, Machine.execute]
          cases m.tape.add _ <;> rfl
      | moveLeft => exact moveLeft_run m
      | moveRight => exact moveRight_run m
      | output =>
          rw [execute, record_run, Machine.execute]
          cases m.observe <;> rfl
      | input | loopStart | loopEnd => rfl

/-- A step is done, or it is refused and nothing has been done. -/
theorem step_run (m : Machine) (item : Item) :
    (step item).run m = concluded (m.kept (m.step item)) := by
  unfold step Machine.step
  cases item.bare? with
  | none =>
      dsimp only
      rw [ask_run]
      cases item.text <;> rfl
  | some i => exact execute_run m (some i)

theorem step_run_eq_ok {item : Item} : (step item).run m = .ok () n ↔ m.step item = .ok n := by
  rw [step_run]
  cases m.step item <;> simp [kept, concluded]

theorem cursor_of_step {item : Item} (stepped : m.step item = .ok n) : n.cursor = m.cursor := by
  obtain ⟨t, -, rfl⟩ := execute_eq_ok.mp (step_eq_ok.mp stepped).1
  rfl

/-! ## Runs -/

/-- A step later, fewer items lie ahead of the cursor. -/
theorem fewer_ahead {items : List Item} {item item' : Item}
    (shown : m.cursor.current items = some item) (stepped : (step item').run m = .ok () n) :
    items.length - (n.cursor.advance 1).index.toNat < items.length - m.cursor.index.toNat := by
  obtain ⟨nonneg, inside⟩ := Cursor.current_eq_some.mp shown
  have bound := (List.getElem?_eq_some_iff.mp inside).1
  rw [cursor_of_step (step_run_eq_ok.mp stepped)]
  simp only [Cursor.advance]
  omega

/-- Applies what the cursor shows and moves it on, until it shows nothing. -/
def poll (items : List Item) (m : Machine) : EStateM.Result Fault Machine Unit :=
  match _ : m.cursor.current items with
  | none | some .absent => .ok () m
  | some item =>
    match _ : (step item.unwrapped).run m with
    | .error f m' => .error f m'
    | .ok () m' => poll items { m' with cursor := m'.cursor.advance 1 }
termination_by items.length - m.cursor.index.toNat
decreasing_by exact fewer_ahead ‹_› ‹_›

/-- Puts everything back to the start, and then goes by the cursor.  The log is handed out
only in the end. -/
def runItems (items : List Item) : Work Unit := fun m =>
  match poll items m.restarted with
  | .ok () m' => .ok () m'
  | .error f m' => .error f (m.withheld m')

theorem poll_ended {items : List Item} (ended : ∀ item ∈ m.cursor.current items, item = .absent) :
    poll items m = .ok () m := by
  rw [poll]
  split
  · rfl
  · rfl
  · rename_i item present shown
    exact absurd (ended item shown) present

theorem poll_present {items : List Item} {item : Item}
    (shown : m.cursor.current items = some item) (present : item ≠ .absent) :
    poll items m =
      match m.step item.unwrapped with
      | .ok n => poll items { n with cursor := n.cursor.advance 1 }
      | .error f => .error f m := by
  rw [poll]
  split
  · rename_i nothing
    cases shown.symm.trans nothing
  · rename_i absent
    cases shown.symm.trans absent
    exact absurd rfl present
  · rename_i shown'
    cases shown.symm.trans shown'
    split
    · rename_i f m' refused
      rw [step_run] at refused
      cases stepped : m.step item.unwrapped with
      | ok n => rw [stepped] at refused; cases refused
      | error f' => rw [stepped] at refused; cases refused; rfl
    · rename_i m' worked
      rw [step_run_eq_ok.mp worked]

/-- Applying what the cursor shows, again and again, is taking the items from the cursor
on. -/
theorem poll_eq_consume {items rest : List Item} {k : Nat} (here : m.cursor.index = k)
    (ahead : items.drop k = rest) : poll items m = concluded (m.consume rest) := by
  induction rest generalizing m k with
  | nil =>
      apply poll_ended
      rw [Cursor.current_eq_head? here, ahead]
      rintro item ⟨⟩
  | cons item rest ih =>
      have shown : m.cursor.current items = some item := by
        rw [Cursor.current_eq_head? here, ahead]
        rfl
      by_cases absent : item = .absent
      · subst absent
        apply poll_ended
        rw [shown]
        rintro item ⟨⟩
        rfl
      · rw [poll_present shown absent, consume_cons m absent]
        cases stepped : m.step item.unwrapped with
        | error f => rfl
        | ok n =>
            refine ih (k := k + 1) ?_ ?_
            · simp [Cursor.advance, cursor_of_step stepped, here]
            · rw [← List.tail_drop, ahead]
              rfl

/-- A run leaves access by access what it leaves as a whole. -/
theorem runItems_run (m : Machine) (items : List Item) :
    (runItems items).run m = concluded (m.tryRun items) := by
  have polled : poll items m.restarted = concluded (m.restarted.consume items) :=
    poll_eq_consume (k := 0) rfl List.drop_zero
  rw [EStateM.run, runItems, tryRun, polled]
  cases m.restarted.consume items with
  | mk m' f => cases f <;> rfl

end Work

theorem handed_consume (m : Machine) (items : List Item) :
    (m.consume items).1.handed = m.handed := by
  induction items generalizing m with
  | nil => rfl
  | cons item items ih =>
      by_cases absent : item = .absent
      · subst absent
        rfl
      · rw [consume_cons m absent]
        cases stepped : m.step item.unwrapped with
        | error f => rfl
        | ok n =>
            obtain ⟨t, -, rfl⟩ := execute_eq_ok.mp (step_eq_ok.mp stepped).1
            exact ih _

/-! ## Histories -/

/-- What may be done to a machine: its operations, a look at the cell under the pointer,
at all cells or at the tape as text, and assignments to its tape. -/
inductive Deed where
  | operation (o : Operation)
  | look
  | snapshot
  | display
  | setPointer (pointer : Int)
  | setCell (index value : Int)
  | setCells (cells : Cells)

namespace Deed

/-- What it leaves, and why it was refused, if it was. -/
def tried (m : Machine) : Deed → Machine × Option Fault
  | operation o => m.perform o
  | look => m.kept ((m.tape.value.mapError .unallocated).map fun _ => m)
  | snapshot => m.kept (m.tape.snapshot.map fun _ => m)
  | display => m.kept (m.tape.display.map fun _ => m)
  | setPointer pointer => ({ m with tape := m.tape.setPointer pointer }, none)
  | setCell index value => ({ m with tape := m.tape.setCell index value }, none)
  | setCells cells => ({ m with tape.cells := cells }, none)

/-- Does it, access by access. -/
def work : Deed → Work Unit
  | operation (.run items) => Work.runItems items
  | operation (.step item) => Work.step item
  | operation (.add amount) => Work.add amount
  | operation .moveLeft => Work.moveLeft
  | operation .moveRight => Work.moveRight
  | look => do
      let _ ← Work.cell
  | snapshot => Work.ask fun m => m.tape.snapshot
  | display => Work.ask fun m => m.tape.display
  | setPointer pointer => Work.point pointer
  | setCell index value => modify fun m => { m with tape := m.tape.setCell index value }
  | setCells cells => modify fun m => { m with tape.cells := cells }

theorem look_run (m : Machine) : look.work.run m = concluded (look.tried m) := by
  simp only [work, tried, Work.cell, Tape.value, EStateM.run_bind, EStateM.run_get]
  cases m.tape.cells[m.tape.pointer]? with
  | none => rfl
  | some v => rfl

/-- Whatever may be done leaves access by access what it leaves as a whole. -/
theorem work_run (m : Machine) (d : Deed) : d.work.run m = concluded (d.tried m) := by
  cases d with
  | operation o =>
      cases o with
      | run items => exact Work.runItems_run m items
      | step item => exact Work.step_run m item
      | add amount => exact Work.add_run m amount
      | moveLeft => exact Work.moveLeft_run m
      | moveRight => exact Work.moveRight_run m
  | look => exact look_run m
  | snapshot => exact Work.ask_run m _
  | display => exact Work.ask_run m _
  | setPointer pointer => rfl
  | setCell index value => rfl
  | setCells cells => rfl

/-- The machine it leaves, whether or not it was refused. -/
def leaves (m : Machine) (d : Deed) : Machine :=
  match d.work.run m with
  | .ok _ m' => m'
  | .error _ m' => m'

theorem leaves_eq (m : Machine) (d : Deed) : d.leaves m = (d.tried m).1 := by
  rw [leaves, work_run]
  cases d.tried m with
  | mk m' f => cases f <;> rfl

end Deed

/-- A fresh machine after one thing and another.  Refusals do not end the history. -/
def after (history : List Deed) : Machine := history.foldl Deed.leaves fresh

/-- What a run leaves in the tape, the log and the cursor does not depend on the machine
it is started on, broken off or not. -/
theorem tryRun_alike (m n : Machine) (items : List Item) :
    (m.tryRun items).2 = (n.tryRun items).2 ∧
      (m.tryRun items).1.tape = (n.tryRun items).1.tape ∧
      (m.tryRun items).1.events = (n.tryRun items).1.events ∧
      (m.tryRun items).1.cursor = (n.tryRun items).1.cursor := by
  have same : n.restarted = m.restarted := rfl
  rw [tryRun, tryRun, same]
  cases m.restarted.consume items with
  | mk m' f => cases f <;> exact ⟨rfl, rfl, rfl, rfl⟩

/-- **A run forgets.**  Whatever has been done to a machine, with its pointer and its cells
assigned to at will and with any number of refusals and of runs broken off, a run on it
leads where it leads on a fresh machine, to the same machine or to the same fault.  It is
never refused for want of a cell, and only broken off by an item that cannot be written.
What it leaves, access by access or as a whole, broken off or not, has the tape, the log
and the cursor that it leaves on a fresh machine; and a log that is complete is handed
out. -/
theorem run_after_deeds (history : List Deed) (items : List Item) :
    (after history).run items = fresh.run items ∧
      (∀ f, (after history).run items = .error f ↔
        ∃ k limit, BreaksAt items k limit ∧ f = .unwritten limit) ∧
      ∃ left left' f, (after history).tryRun items = (left, f) ∧
        (Work.runItems items).run (after history) = concluded (left, f) ∧
        fresh.tryRun items = (left', f) ∧
        left.tape = left'.tape ∧ left.events = left'.events ∧ left.cursor = left'.cursor ∧
        ((∀ k limit, ¬ BreaksAt items k limit) →
          f = none ∧ (after history).run items = .ok left ∧
            left.handedOut = some left.events) := by
  obtain ⟨fault, tape, events, cursor⟩ := tryRun_alike (after history) fresh items
  refine ⟨run_eq _ _, fun f => run_eq_error, ((after history).tryRun items).1,
    (fresh.tryRun items).1, ((after history).tryRun items).2, rfl,
    Work.runItems_run (after history) items, by rw [fault], tape, events, cursor, ?_⟩
  intro unbroken
  obtain ⟨m, ran, -⟩ := (after history).run_unbroken unbroken
  have own : m.handed = .own := by
    have kept := handed_consume (after history).restarted items
    rw [runFrom_eq_ok.mp ran] at kept
    exact kept
  rw [tryRun_of_run ran]
  refine ⟨rfl, ran, ?_⟩
  rw [handedOut, own]

/-- A history with a refused step and a run that was broken off, and a run after it. -/
theorem run_after_deeds_refused :
    let history : List Deed := [.operation (.run [.foreign (.error .writing)]), .setPointer (-2),
      .operation (.step (.instruction .output)), .operation .moveRight, .operation (.add 7)]
    let items : List Item := [.instruction .output]
    (∀ k limit, ¬ BreaksAt items k limit) ∧
      (after history).tape.cells.toList = [(-1, 7), (0, 0)] ∧
      ∃ m, (after history).run items = .ok m ∧ fresh.run items = .ok m ∧
        m.handedOut = some m.events := by
  intro history items
  have unbroken : ∀ k limit, ¬ BreaksAt items k limit := by
    intro k limit breaks
    have mem := List.mem_of_getElem? breaks.here
    simp [items] at mem
  obtain ⟨same, -, m, _, _, -, -, -, -, -, -, succeeds⟩ := run_after_deeds history items
  obtain ⟨-, ran, handed⟩ := succeeds unbroken
  exact ⟨unbroken, by decide +kernel, m, ran, same.symm.trans ran, handed⟩

/-- A number with too many digits fails a run, whatever the machine has been through, and
whatever lies behind it is not reached. -/
theorem run_after_deeds_long_number :
    let history : List Deed := [.operation (.add 7), .setPointer (-2)]
    let items : List Item := [.number Decimal.bound, .instruction .output]
    (after history).run items = .error (.unwritten .writing) ∧
      ((after history).tryRun items).1.events = #[] := by
  rw [Item.number_bound]
  exact ⟨rfl, rfl⟩

end Machine

end DeltaTape
