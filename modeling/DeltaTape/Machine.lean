/-
# DeltaTape.Machine — running instructions on a tape and recording what they output

A machine holds a tape, the log of its output events and a cursor.  `run` starts
over with a blank tape and an empty log and takes its items from left to right,
moving the cursor past each; an absent item ends the run where it stands.
`step` applies one item to the machine as it is and leaves the cursor alone, so
the events it records carry the position where the last run ended.

A run takes a token for the instruction it was read from.  A step knows bare
instructions only: a token, an absent item and a foreign value change nothing.
But what is passed over is named in the log, and is written out for that whether
or not anyone reads the log.  So an item whose text would be too long is refused,
and breaks a run off with the tape, the log and the cursor as they stand.

* `execute_skip`: what is not a linear instruction changes nothing;
* `run_eq`: a run does not depend on the machine it is started on;
* `runFrom_cons` and `runFrom_instruction`: a run takes one item and goes on;
* `simulate_eq`: a run of tokens depends on their instructions only.
-/
import DeltaTape.Cursor
import DeltaTape.Event
import DeltaTape.Tape
import DeltaTape.Token

namespace DeltaTape

set_option autoImplicit false

/-- An element of an instruction stream.  A foreign value is anything that is
not an instruction, whatever it looks like; a machine knows no more of it than
the text it is written as, or why it cannot be written. -/
inductive Item where
  | instruction (i : Instruction)
  | token (t : Token)
  | absent
  | foreign (text : Except DigitLimit String)

namespace Item

/-- A number, which is foreign to a machine. -/
def number (n : Int) : Item := .foreign (Decimal.ofInt n)

/-- Whether there is no item. -/
def isAbsent : Item → Bool
  | absent => true
  | instruction _ | token _ | foreign _ => false

/-- An item as text. -/
def text : Item → Except DigitLimit String
  | instruction i => .ok i.display
  | token t => t.display
  | absent => .ok "None"
  | foreign text => text

/-- What a run makes of an item: a token becomes its instruction. -/
def unwrapped : Item → Item
  | token t => instruction t.instruction
  | item => item

/-- The instruction an item brings to a run. -/
def carried? : Item → Option Instruction
  | instruction i => some i
  | token t => some t.instruction
  | absent => none
  | foreign _ => none

/-- The instruction an item brings to a single step. -/
def bare? : Item → Option Instruction
  | instruction i => some i
  | token _ => none
  | absent => none
  | foreign _ => none

end Item

/-- The log that the last run handed out: there was none, it is the machine's own
and goes on growing, or the machine has begun a log of its own since. -/
inductive Handed where
  | nothing
  | own
  | earlier (events : Array Event)

/-- What has been handed out of the log `events` once the machine begins another. -/
def Handed.detached (events : Array Event) : Handed → Handed
  | nothing => nothing
  | own => earlier events
  | earlier events' => earlier events'

/-- A tape, the events recorded so far in order, the cursor of the last run, and
the log that the last run handed out. -/
structure Machine where
  tape : Tape := .blank
  events : Array Event := #[]
  cursor : Cursor := .start
  handed : Handed := .nothing

namespace Machine

/-- A machine that has done nothing. -/
def fresh : Machine := {}

/-- The event an output instruction records now. -/
def observe (m : Machine) : Except Unallocated Event := do
  let value ← m.tape.value
  pure ⟨value, m.tape.pointer, m.cursor.index⟩

/-- Carries out one instruction; anything but a linear instruction is passed over. -/
def execute (m : Machine) : Option Instruction → Except Unallocated Machine
  | some .increment => do
      let tape ← m.tape.add 1
      pure { m with tape }
  | some .decrement => do
      let tape ← m.tape.add (-1)
      pure { m with tape }
  | some .moveLeft => .ok { m with tape := m.tape.moveLeft }
  | some .moveRight => .ok { m with tape := m.tape.moveRight }
  | some .output => do
      let event ← m.observe
      pure { m with events := m.events.push event }
  | some .input | some .loopStart | some .loopEnd | none => .ok m

/-- Applies one item to the machine as it is.  What is no instruction is written
out and passed over. -/
def step (m : Machine) (item : Item) : Except Fault Machine :=
  match item.bare? with
  | some i => (m.execute (some i)).mapError .unallocated
  | none => (item.text.mapError .unwritten).bind fun _ => .ok m

/-- Applies items one by one up to the first that is refused.  What was done
before a refusal stays done. -/
def steps (m : Machine) : List Item → Machine × Option Fault
  | [] => (m, none)
  | item :: items =>
    match m.step item with
    | .ok m' => m'.steps items
    | .error f => (m, some f)

/-- Takes items up to the end, to the first absent one, or to one that is refused,
counting each that it has taken. -/
def consume (m : Machine) : List Item → Machine × Option Fault
  | [] => (m, none)
  | .absent :: _ => (m, none)
  | item :: items =>
    match m.step item.unwrapped with
    | .ok m' => { m' with cursor := m'.cursor.advance 1 }.consume items
    | .error f => (m, some f)

/-- The machine once items have been taken, if none of them was refused. -/
def runFrom (m : Machine) (items : List Item) : Except Fault Machine :=
  match m.consume items with
  | (m', none) => .ok m'
  | (_, some f) => .error f

/-- The machine with a blank tape, an empty log and its cursor at the start. -/
def restarted (m : Machine) : Machine :=
  { m with tape := .blank, events := #[], cursor := .start, handed := .own }

/-- Runs items on a blank tape with an empty log. -/
def run (m : Machine) (items : List Item) : Except Fault Machine :=
  m.restarted.runFrom items

/-- What a broken off run on `m` leaves of `m'`: its log is not handed out, and
what was handed out before is not its log. -/
def withheld (m m' : Machine) : Machine := { m' with handed := m.handed.detached m.events }

/-- Runs items, and tells what is left whether or not the run is broken off. -/
def tryRun (m : Machine) (items : List Item) : Machine × Option Fault :=
  match m.restarted.consume items with
  | (m', none) => (m', none)
  | (m', some f) => (m.withheld m', some f)

/-- The log that the last run handed out, as it looks now. -/
def handedOut (m : Machine) : Option (Array Event) :=
  match m.handed with
  | .nothing => none
  | .own => some m.events
  | .earlier events => some events

/-- What is not a linear instruction changes nothing. -/
theorem execute_skip (m : Machine) {i : Instruction} (skipped : i.isLinear = false) :
    m.execute (some i) = .ok m := by
  cases i <;> simp_all [execute, Instruction.isLinear]

/-- A run does not depend on the machine it is started on. -/
theorem run_eq (m : Machine) (items : List Item) : m.run items = fresh.run items := rfl

/-- An item that is there is applied and counted, and the run goes on. -/
theorem consume_cons (m : Machine) {item : Item} (present : item ≠ .absent) (items : List Item) :
    m.consume (item :: items) =
      match m.step item.unwrapped with
      | .ok m' => { m' with cursor := m'.cursor.advance 1 }.consume items
      | .error f => (m, some f) := by
  cases item with
  | absent => exact absurd rfl present
  | instruction i | token t | foreign text => rfl

theorem runFrom_cons (m : Machine) (item : Item) (present : item ≠ .absent) (items : List Item) :
    m.runFrom (item :: items) =
      (m.step item.unwrapped).bind fun m' =>
        { m' with cursor := m'.cursor.advance 1 }.runFrom items := by
  rw [runFrom, consume_cons m present]
  cases m.step item.unwrapped <;> rfl

theorem runFrom_instruction (m : Machine) (i : Instruction) (items : List Item) :
    m.runFrom (.instruction i :: items) =
      ((m.execute (some i)).mapError .unallocated).bind fun m' =>
        { m' with cursor := m'.cursor.advance 1 }.runFrom items :=
  m.runFrom_cons (.instruction i) nofun items

theorem runFrom_eq_ok {m n : Machine} {items : List Item} :
    m.runFrom items = .ok n ↔ m.consume items = (n, none) := by
  rw [runFrom]
  split <;> simp_all

/-- A run that is not broken off leaves what it leads to. -/
theorem tryRun_of_run {m n : Machine} {items : List Item} (ran : m.run items = .ok n) :
    m.tryRun items = (n, none) := by
  rw [tryRun, runFrom_eq_ok.mp ran]

end Machine

/-- Runs a token list on a new machine. -/
def simulate (tokens : List Token) : Except Fault Machine :=
  Machine.fresh.run (tokens.map Item.token)

theorem Machine.runFrom_tokens (m : Machine) (tokens : List Token) :
    m.runFrom (tokens.map Item.token) =
      m.runFrom ((Token.instructions tokens).map Item.instruction) := by
  induction tokens generalizing m with
  | nil => rfl
  | cons t tokens ih =>
      rw [Token.instructions] at ih ⊢
      rw [List.map_cons, runFrom_cons m (.token t) nofun, List.map_cons, List.map_cons,
        runFrom_cons m (.instruction t.instruction) nofun]
      congr 1
      funext m'
      exact ih _

/-- A run of tokens depends on their instructions only. -/
theorem simulate_eq (tokens : List Token) :
    simulate tokens =
      Machine.fresh.run ((Token.instructions tokens).map Item.instruction) :=
  Machine.runFrom_tokens _ tokens

end DeltaTape
