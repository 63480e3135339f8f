/-
# DeltaTape.Proofs.LinearPart — nothing but the linear instructions matters

The machine passes over comments, since they are not read as instructions, and
over input and loop brackets, although these are read and counted.  A source and
its *linear part* therefore run out of step: the source takes more instructions,
and its outputs stand at later positions.  In all else the two runs agree.

`Alike` relates machines that differ in their cursors and in the positions in their
logs only.  What one instruction does keeps them alike, and so does an instruction
that only one of them takes and passes over.

* `linearInstructions_eq`: the linear part of a source, read as instructions;
* `execute_eq`: one instruction as a change of the tape and an addition to the log;
* `Alike.execute` and `Alike.runFrom`: one instruction, and a run beside its linear
  part;
* `agree_of_linearPart`: two sources with one linear part, run and compiled.
-/
import Mathlib
import DeltaTape.Proofs.ReflectedWalk
import DeltaTape.Proofs.Stages

namespace DeltaTape

set_option autoImplicit false

/-! ## The linear part of a source -/

/-- The characters of a source that write a linear instruction, in order. -/
def linearPart (source : String) : List Char :=
  source.toList.filter fun c => c ∈ ['+', '-', '<', '>', '.']

theorem Instruction.filter_ofSymbol? (c : Char) :
    (ofSymbol? c).filter isLinear =
      if c ∈ ['+', '-', '<', '>', '.'] then ofSymbol? c else none := by
  cases written : ofSymbol? c with
  | none => simp
  | some i =>
      rw [ofSymbol?_eq_some.mp written]
      cases i <;> rfl

/-- The linear instructions of a source are those that its linear part writes. -/
theorem linearInstructions_eq (source file : String) :
    (Token.instructions (Token.scan source file)).filter Instruction.isLinear =
      (linearPart source).filterMap Instruction.ofSymbol? := by
  rw [Token.instructions_scan, linearPart, List.filter_filterMap, List.filterMap_filter]
  simp only [Instruction.filter_ofSymbol?, decide_eq_true_eq]

/-! ## What one instruction does -/

/-- The tape after an instruction, unless it is refused. -/
def Tape.undergo (t : Tape) : Option Instruction → Except Unallocated Tape
  | some .increment => t.add 1
  | some .decrement => t.add (-1)
  | some .moveLeft => .ok t.moveLeft
  | some .moveRight => .ok t.moveRight
  | some .output => t.value.map fun _ => t
  | some .input | some .loopStart | some .loopEnd | none => .ok t

/-- What an instruction adds to the log, at a position. -/
def Tape.outputs (t : Tape) (position : Int) : Option Instruction → List Event
  | some .output => [⟨t.cells[t.pointer]?.getD 0, t.pointer, position⟩]
  | _ => []

/-- An event as it would have been recorded at another position. -/
def Event.placed (e : Event) (position : Int) : Event := { e with index := position }

theorem Tape.map_placed_outputs (t : Tape) (position other : Int) (i : Option Instruction) :
    (t.outputs position i).map (·.placed other) = t.outputs other i := by
  unfold outputs
  split <;> rfl

namespace Machine

/-- An instruction changes the tape as the tape tells, and adds to the log as the tape
and the cursor tell; the cursor stays. -/
theorem execute_eq (m : Machine) (i : Option Instruction) :
    m.execute i = (m.tape.undergo i).map fun t =>
      { m with tape := t, events := m.events ++ m.tape.outputs m.cursor.index i } := by
  cases i with
  | none => simp only [execute, Tape.undergo, Tape.outputs, Array.appendList_nil, Except.map]
  | some i =>
      cases i with
      | increment | decrement =>
          simp only [execute, Tape.undergo, Tape.outputs, Array.appendList_nil]
          rfl
      | output =>
          rw [execute, observe, Tape.undergo, Tape.outputs, Tape.value]
          cases m.tape.cells[m.tape.pointer]? with
          | none => rfl
          | some v => rfl
      | moveLeft | moveRight | input | loopStart | loopEnd =>
          simp only [execute, Tape.undergo, Tape.outputs, Array.appendList_nil, Except.map]

end Machine

/-! ## Runs that differ in what they pass over -/

/-- An output without its position in the run. -/
def Event.unplaced (e : Event) : Event := { e with index := 0 }

namespace Machine

variable {m m' n : Machine}

/-- Two machines that differ in their cursors and in the positions in their logs
only. -/
structure Alike (m m' : Machine) : Prop where
  tape : m.tape = m'.tape
  events : m.events.map Event.unplaced = m'.events.map Event.unplaced

theorem Alike.refl (m : Machine) : Alike m m := ⟨rfl, rfl⟩

/-- The outputs of machines that are alike have the same values and pointers. -/
theorem Alike.shown (alike : Alike m m') :
    m.events.toList.map (fun e => (e.value, e.pointer)) =
      m'.events.toList.map fun e => (e.value, e.pointer) := by
  have outputs := congrArg (fun events => events.toList.map fun e : Event => (e.value, e.pointer))
    alike.events
  simpa [Event.unplaced, Function.comp_def] using outputs

/-- What one instruction does, it does alike. -/
theorem Alike.execute (alike : Alike m m') {i : Instruction}
    (executed : m.execute (some i) = .ok n) :
    ∃ n', m'.execute (some i) = .ok n' ∧ Alike n n' := by
  rw [execute_eq] at executed ⊢
  rw [← alike.tape]
  cases done : m.tape.undergo (some i) with
  | error u => rw [done] at executed; cases executed
  | ok t =>
      rw [done] at executed
      cases executed
      refine ⟨_, rfl, rfl, Array.ext' ?_⟩
      have unplaced : ∀ position, (m.tape.outputs position (some i)).map Event.unplaced =
          m.tape.outputs 0 (some i) :=
        fun position => m.tape.map_placed_outputs position 0 (some i)
      have before := congrArg Array.toList alike.events
      rw [Array.toList_map, Array.toList_map] at before
      simp only [Array.toList_map, Array.toList_appendList, List.map_append, unplaced, before]

theorem Alike.advance (alike : Alike m m') (c c' : Cursor) :
    Alike { m with cursor := c } { m' with cursor := c' } :=
  ⟨alike.tape, alike.events⟩

/-- A run that takes an instruction has carried it out, counted it, and gone on. -/
theorem runFrom_cons_eq_ok {i : Instruction} {items : List Item} :
    m.runFrom (.instruction i :: items) = .ok n ↔
      ∃ m₁, m.execute (some i) = .ok m₁ ∧
        { m₁ with cursor := m₁.cursor.advance 1 }.runFrom items = .ok n := by
  rw [runFrom_instruction]
  cases m.execute (some i) with
  | error u => simp [Except.mapError, Except.bind]
  | ok m₁ => simp [Except.mapError, Except.bind]

/-- A run beside the run of its linear part alone. -/
theorem Alike.runFrom (alike : Alike m m') {a : List Instruction}
    (ran : m.runFrom (a.map Item.instruction) = .ok n) :
    ∃ n', m'.runFrom ((a.filter Instruction.isLinear).map Item.instruction) =
        .ok n' ∧ Alike n n' := by
  induction a generalizing m m' with
  | nil =>
      cases ran
      exact ⟨m', rfl, alike⟩
  | cons i a ih =>
      obtain ⟨m₁, executed, onward⟩ := runFrom_cons_eq_ok.mp ran
      cases linear : i.isLinear with
      | true =>
          obtain ⟨m₁', executed', alike₁⟩ := alike.execute executed
          obtain ⟨n', ran', alike'⟩ := ih (alike₁.advance _ (m₁'.cursor.advance 1)) onward
          rw [List.filter_cons_of_pos linear]
          exact ⟨n', runFrom_cons_eq_ok.mpr ⟨m₁', executed', ran'⟩, alike'⟩
      | false =>
          -- Only the run with the instruction moves its cursor.
          rw [execute_skip m linear] at executed
          cases executed
          rw [List.filter_cons_of_neg (by simp [linear])]
          exact ih (alike.advance _ m'.cursor) onward

end Machine

/-- A source runs as its linear part does. -/
theorem simulate_linearPart (source file : String) :
    ∃ m n, simulate (Token.scan source file) = .ok m ∧
      Machine.fresh.run (((linearPart source).filterMap Instruction.ofSymbol?).map
        Item.instruction) = .ok n ∧ m.Alike n := by
  obtain ⟨m, ran, -⟩ := Walk.Follows.run (Token.instructions (Token.scan source file))
  obtain ⟨n, linear, alike⟩ := (Machine.Alike.refl Machine.fresh.restarted).runFrom ran
  rw [linearInstructions_eq] at linear
  exact ⟨m, n, by rw [simulate_eq]; exact ran, linear, alike⟩

/-- Two sources with one linear part leave machines that are alike. -/
theorem simulate_alike {source source' : String} (same : linearPart source = linearPart source')
    (file file' : String) :
    ∃ m m', simulate (Token.scan source file) = .ok m ∧
      simulate (Token.scan source' file') = .ok m' ∧ m.Alike m' := by
  obtain ⟨m, n, ran, linear, alike⟩ := simulate_linearPart source file
  obtain ⟨m', n', ran', linear', alike'⟩ := simulate_linearPart source' file'
  rw [same, linear'] at linear
  cases linear
  exact ⟨m, m', ran, ran', alike.tape.trans alike'.tape.symm, alike.events.trans alike'.events.symm⟩

/-! ## Compiling -/

theorem Machine.Alike.values {m m' : Machine} (alike : m.Alike m') :
    Compilation.values m = Compilation.values m' := by
  have outputs := congrArg (fun events => (events.map Event.value).toList) alike.events
  simpa [Event.unplaced, Compilation.values, Function.comp_def] using outputs

/-- A result without the number of tokens and the positions of the outputs. -/
def Result.unplaced (r : Result) : Result :=
  { r with tokenCount := 0, events := r.events.map Event.unplaced }

/-- Once a source has been run, what is left is to encode its outputs. -/
theorem Compilation.ofSource_of_simulate {source file : String} {m : Machine}
    (ran : simulate (Token.scan source file) = .ok m) :
    ofSource source file =
      ((LongForm.encode (values m)).mapError .digitLimit).map
        (Compilation.mk (Token.scan source file) m) := by
  simp only [ofSource, ran, encode_events]
  cases LongForm.encode (values m) <;> rfl

/-- Compiling sources whose runs are alike leaves the same tree, and results that
differ in the number of tokens and the positions of the outputs only. -/
theorem compileSource_alike {source source' file : String} {m m' : Machine}
    (ran : simulate (Token.scan source file) = .ok m)
    (ran' : simulate (Token.scan source' file) = .ok m') (alike : m.Alike m') (o : Options)
    (t : FileTree) (cwd : Location) :
    (compileSource o t cwd source file).tree = (compileSource o t cwd source' file).tree ∧
      (compileSource o t cwd source file).result.map Result.unplaced =
        (compileSource o t cwd source' file).result.map Result.unplaced := by
  rw [compileSource, compileSource, Compilation.ofSource_of_simulate ran,
    Compilation.ofSource_of_simulate ran', ← alike.values]
  cases LongForm.encode (Compilation.values m) with
  | error limit => exact ⟨rfl, rfl⟩
  | ok text =>
      simp only [Except.mapError, Except.map]
      cases o.writeOutput with
      | false => simp [Result.unplaced, alike.events]
      | true =>
          cases (Sink.write t cwd ⟨o.destinations, text⟩ o.directory o.extension).error with
          | some e => exact ⟨rfl, rfl⟩
          | none => simp [Result.unplaced, alike.events]

/-- **Only the linear instructions matter.**  Two sources with the same linear part,
whatever comments, brackets and inputs they have besides, have the same long form
or fail alike; their runs output the same values from the same cells in the same
order and leave the same tape; and compiling them to files under one name leaves
the same tree and the same result, but for the number of tokens and the positions
of the outputs. -/
theorem agree_of_linearPart {source source' : String}
    (same : linearPart source = linearPart source') (file file' : String) :
    compileLong source = compileLong source' ∧
      (∃ m m', simulate (Token.scan source file) = .ok m ∧
        simulate (Token.scan source' file') = .ok m' ∧
        m.events.toList.map (fun e => (e.value, e.pointer)) =
          m'.events.toList.map (fun e => (e.value, e.pointer)) ∧
        m.tape = m'.tape) ∧
      ∀ (o : Options) (t : FileTree) (cwd : Location),
        (compileSource o t cwd source file).tree = (compileSource o t cwd source' file).tree ∧
          (compileSource o t cwd source file).result.map Result.unplaced =
            (compileSource o t cwd source' file).result.map Result.unplaced := by
  refine ⟨?_, ?_, ?_⟩
  · obtain ⟨m, m', ran, ran', alike⟩ := simulate_alike same Place.unnamed Place.unnamed
    rw [compileLong, compileLong, Compilation.ofSource_of_simulate ran,
      Compilation.ofSource_of_simulate ran', ← alike.values]
    cases LongForm.encode (Compilation.values m) <;> rfl
  · obtain ⟨m, m', ran, ran', alike⟩ := simulate_alike same file file'
    exact ⟨m, m', ran, ran', alike.shown, alike.tape⟩
  · obtain ⟨m, m', ran, ran', alike⟩ := simulate_alike same file file
    exact compileSource_alike ran ran' alike

/-- Sources that agree although their outputs stand at different positions. -/
theorem agree_of_linearPart_interspersed :
    linearPart "+[.]\n>é-." = linearPart "+.,>-. two" ∧
      (simulate (Token.scan "+[.]\n>é-." "a")).map (fun m => m.events.toList.map Event.index) =
        .ok [2, 6] ∧
      (simulate (Token.scan "+.,>-. two" "b")).map (fun m => m.events.toList.map Event.index) =
        .ok [1, 5] ∧
      compileLong "+[.]\n>é-." = compileLong "+.,>-. two" := by
  have same : linearPart "+[.]\n>é-." = linearPart "+.,>-. two" := by decide +kernel
  exact ⟨same, by decide +kernel, by decide +kernel, (agree_of_linearPart same "a" "b").1⟩

end DeltaTape
