/-
# DeltaTape.Proofs.ItemStream — runs of items that need not be instructions

A run may be given anything.  It takes a token for its instruction, passes over
whatever is foreign to it, and ends for good at the first item that is absent.  What is
passed over still takes up a position, as an instruction does that the machine does not
act on, so a run of items is a run of instructions with such *stand-ins* in the places
of foreign items (`runFrom_ended`).  What is known of runs of instructions then tells
the events and the cursor, and that without the stand-ins the run would have been
the same but for positions.

To be passed over, a foreign item has to be written.  The first one before the end that
cannot be written breaks the run off (`BreaksAt`).  By then the items before it have been
run, and nothing of what comes from it on has been touched.

* `runFrom_ended`: items up to the first absent one, as instructions;
* `filter_standIn`: the stand-ins are none of the linear instructions;
* `run_broken` and `run_unbroken`: what a run leaves, broken off or not;
* `run_eq_error`: when a run is broken off, and with which fault;
* `run_of_items`: where a run of any items stops, and what it leaves.
-/
import Mathlib
import DeltaTape.Proofs.LinearPart

namespace DeltaTape

set_option autoImplicit false

/-! ## Items as instructions -/

namespace Item

/-- The instruction an item brings to a run, or in its place one that the machine
passes over. -/
def standIn (item : Item) : Instruction := item.carried?.getD .input

theorem isAbsent_eq_true {item : Item} : item.isAbsent = true ↔ item = .absent := by
  cases item <;> simp [isAbsent]

theorem standIn_eq_output {item : Item} :
    item.standIn = .output ↔ item.carried? = some .output := by
  unfold standIn
  cases item.carried? <;> simp

theorem carried?_eq_some {item : Item} {i : Instruction} :
    item.carried? = some i ↔ item = .instruction i ∨ ∃ t, item = .token t ∧ t.instruction = i := by
  cases item <;> simp [carried?]

/-- Without what is foreign, and with stand-ins for it, the linear instructions are
the same. -/
theorem filter_standIn (items : List Item) :
    (items.map standIn).filter Instruction.isLinear =
      (items.filterMap carried?).filter Instruction.isLinear := by
  induction items with
  | nil => rfl
  | cons item items ih =>
      rw [List.map_cons, List.filter_cons, List.filterMap_cons, standIn, ih]
      cases item.carried? with
      | none => rfl
      | some i => rw [List.filter_cons]; rfl

/-- A number with too many digits cannot be written. -/
theorem number_eq {n : Int} (exceeds : Decimal.bound ≤ n.natAbs) :
    number n = .foreign (.error .writing) := by
  rw [number, Decimal.ofInt_eq_error.mpr ⟨exceeds, rfl⟩]

/-- The first number that has too many digits. -/
theorem number_bound : number Decimal.bound = .foreign (.error .writing) :=
  number_eq (Int.natAbs_natCast Decimal.bound).ge

end Item

namespace Machine

theorem execute_standIn (m : Machine) (item : Item) :
    m.execute (some item.standIn) = m.execute item.carried? := by
  cases item <;> rfl

/-- An item that can be written does to a run what the instruction does that it brings,
and nothing if it brings none. -/
theorem step_unwrapped (m : Machine) (item : Item) (writable : ∀ l, item ≠ .foreign (.error l)) :
    m.step item.unwrapped = (m.execute item.carried?).mapError .unallocated := by
  cases item with
  | instruction i | token t | absent => rfl
  | foreign text =>
      cases text with
      | ok text => rfl
      | error limit => exact absurd rfl (writable limit)

/-- Items that are all there and can be written, and then none or an absent one: the run
is that of the instructions that stand in for them, and whatever comes later is not
reached. -/
theorem runFrom_ended {before after : List Item} (m : Machine) (present : .absent ∉ before)
    (writable : ∀ limit, .foreign (.error limit) ∉ before)
    (ended : ∀ item ∈ after.head?, item = .absent) :
    m.runFrom (before ++ after) =
      m.runFrom ((before.map Item.standIn).map Item.instruction) := by
  induction before generalizing m with
  | nil =>
      cases after with
      | nil => rfl
      | cons item after =>
          rw [ended item rfl]
          rfl
  | cons item before ih =>
      obtain ⟨here, others⟩ := not_or.mp (mt List.mem_cons.mpr present)
      have written : ∀ l, item ≠ .foreign (.error l) ∧ .foreign (.error l) ∉ before := by
        intro l
        obtain ⟨first, later⟩ := not_or.mp (mt List.mem_cons.mpr (writable l))
        exact ⟨Ne.symm first, later⟩
      rw [List.cons_append, runFrom_cons m item (Ne.symm here), List.map_cons, List.map_cons,
        runFrom_instruction, step_unwrapped m item fun l => (written l).1, execute_standIn]
      congr 1
      funext m'
      exact ih _ others fun l => (written l).2

/-- Behind items that have been run, the others go on from what these have led to. -/
theorem consume_append {m n : Machine} {before : List Item} (present : .absent ∉ before)
    (ran : m.runFrom before = .ok n) (rest : List Item) :
    m.consume (before ++ rest) = n.consume rest := by
  induction before generalizing m with
  | nil =>
      cases ran
      rfl
  | cons item before ih =>
      obtain ⟨here, others⟩ := not_or.mp (mt List.mem_cons.mpr present)
      rw [runFrom_cons m item (Ne.symm here)] at ran
      rw [List.cons_append, consume_cons m (Ne.symm here)]
      cases taken : m.step item.unwrapped with
      | error f => rw [taken] at ran; cases ran
      | ok m₁ =>
          rw [taken] at ran
          exact ih others ran

/-! ## Where a run stops -/

/-- The position of the first absent item; without one, the number of items. -/
def stop (items : List Item) : Nat := items.findIdx Item.isAbsent

theorem absent_notMem_take_stop (items : List Item) : .absent ∉ items.take (stop items) := by
  intro mem
  cases List.false_of_mem_take_findIdx (p := Item.isAbsent) mem

theorem absent_of_stop (items : List Item) :
    ∀ item ∈ (items.drop (stop items)).head?, item = .absent := by
  intro item first
  rw [List.head?_drop] at first
  obtain ⟨bound, rfl⟩ := List.getElem?_eq_some_iff.mp first
  exact Item.isAbsent_eq_true.mp List.findIdx_getElem

theorem length_take_stop (items : List Item) : (items.take (stop items)).length = stop items := by
  rw [List.length_take]
  exact min_eq_left List.findIdx_le_length

/-- The item at position `k` breaks a run off with `limit`: it is foreign and cannot be
written, and no item before it ends the run or breaks it off. -/
structure BreaksAt (items : List Item) (k : Nat) (limit : DigitLimit) : Prop where
  here : items[k]? = some (.foreign (.error limit))
  present : .absent ∉ items.take k
  first : ∀ earlier, .foreign (.error earlier) ∉ items.take k

theorem BreaksAt.cons {item : Item} {items : List Item} {k : Nat} {limit : DigitLimit}
    (breaks : BreaksAt items k limit) (present : item ≠ .absent)
    (writable : ∀ l, item ≠ .foreign (.error l)) : BreaksAt (item :: items) (k + 1) limit where
  here := by rw [List.getElem?_cons_succ]; exact breaks.here
  present := by
    rw [List.take_succ_cons, List.mem_cons, not_or]
    exact ⟨Ne.symm present, breaks.present⟩
  first l := by
    rw [List.take_succ_cons, List.mem_cons, not_or]
    exact ⟨Ne.symm (writable l), breaks.first l⟩

/-- Items of which none breaks a run off can all be written up to the stop. -/
theorem writable_of_unbroken {items : List Item} (unbroken : ∀ k limit, ¬ BreaksAt items k limit)
    (limit : DigitLimit) : .foreign (.error limit) ∉ items.take (stop items) := by
  induction items with
  | nil => simp
  | cons item items ih =>
      by_cases absent : item = .absent
      · rw [absent, show stop (.absent :: items) = 0 from rfl]
        simp
      · have writable : ∀ l, item ≠ .foreign (.error l) := by
          rintro l rfl
          exact unbroken 0 l ⟨rfl, by simp, by simp⟩
        have onward : stop (item :: items) = stop items + 1 := by
          cases item with
          | absent => exact absurd rfl absent
          | instruction i | token t | foreign text => exact List.findIdx_cons ..
        rw [onward, List.take_succ_cons, List.mem_cons, not_or]
        exact ⟨Ne.symm (writable limit), ih fun k l breaks =>
          unbroken (k + 1) l (breaks.cons absent writable)⟩

/-- Items that are all there and can be written are run to the end. -/
theorem run_before (m : Machine) {before : List Item} (present : .absent ∉ before)
    (writable : ∀ limit, .foreign (.error limit) ∉ before) :
    ∃ m', fresh.run ((before.map Item.standIn).map Item.instruction) = .ok m' ∧
      Walk.Follows (before.map Item.standIn) before.length m' ∧
      ∀ after : List Item, (∀ item ∈ after.head?, item = .absent) →
        m.run (before ++ after) = .ok m' := by
  obtain ⟨m', ran, follows⟩ := Walk.Follows.run (before.map Item.standIn)
  rw [List.length_map] at follows
  refine ⟨m', ran, follows, ?_⟩
  intro after ended
  exact (m.restarted.runFrom_ended present writable ended).trans ran

/-- A run that is broken off leaves what the items before the break lead to. -/
theorem run_broken (m : Machine) {items : List Item} {k : Nat} {limit : DigitLimit}
    (breaks : BreaksAt items k limit) :
    ∃ m', m.run (items.take k) = .ok m' ∧ m'.cursor.index = k ∧
      m.run items = .error (.unwritten limit) ∧
      m.tryRun items = (m.withheld m', some (.unwritten limit)) := by
  obtain ⟨m', -, follows, ends⟩ := m.run_before breaks.present breaks.first
  have ran : m.run (items.take k) = .ok m' := by simpa using ends [] (by simp)
  obtain ⟨bound, here⟩ := List.getElem?_eq_some_iff.mp breaks.here
  have split : items = items.take k ++ .foreign (.error limit) :: items.drop (k + 1) := by
    rw [← here, List.getElem_cons_drop, List.take_append_drop]
  have consumed : m.restarted.consume items = (m', some (.unwritten limit)) := by
    rw [split, consume_append breaks.present ran]
    rfl
  refine ⟨m', ran, ?_, ?_, ?_⟩
  · rw [follows.cursor, List.length_take, min_eq_left bound.le]
  · rw [run, runFrom, consumed]
  · rw [tryRun, consumed]

/-- A run that nothing breaks off is the run of the instructions that stand in for its
items, up to the stop. -/
theorem run_unbroken (m : Machine) {items : List Item}
    (unbroken : ∀ k limit, ¬ BreaksAt items k limit) :
    ∃ m', m.run items = .ok m' ∧
      fresh.run (((items.take (stop items)).map Item.standIn).map Item.instruction) = .ok m' ∧
      Walk.Follows ((items.take (stop items)).map Item.standIn) (stop items) m' ∧
      ∀ others, m.run (items.take (stop items) ++ .absent :: others) = .ok m' := by
  obtain ⟨m', ran, follows, ends⟩ :=
    m.run_before (absent_notMem_take_stop items) (writable_of_unbroken unbroken)
  rw [length_take_stop] at follows
  refine ⟨m', ?_, ran, follows, fun others => ends _ (by simp)⟩
  rw [← ends _ (absent_of_stop items), List.take_append_drop]

/-- A run is broken off exactly by an item that cannot be written, and for no other
reason. -/
theorem run_eq_error {m : Machine} {items : List Item} {f : Fault} :
    m.run items = .error f ↔ ∃ k limit, BreaksAt items k limit ∧ f = .unwritten limit := by
  constructor
  · intro failed
    by_cases broken : ∃ k limit, BreaksAt items k limit
    · obtain ⟨k, limit, breaks⟩ := broken
      obtain ⟨-, -, -, stopped, -⟩ := m.run_broken breaks
      cases stopped.symm.trans failed
      exact ⟨k, limit, breaks, rfl⟩
    · obtain ⟨m', ran, -⟩ := m.run_unbroken fun k limit breaks => broken ⟨k, limit, breaks⟩
      cases ran.symm.trans failed
  · rintro ⟨k, limit, breaks, rfl⟩
    obtain ⟨-, -, -, stopped, -⟩ := m.run_broken breaks
    exact stopped

/-! ## What a run shows -/

/-- An output stands in for an item exactly where an item brings one. -/
theorem output_standIn {items : List Item} {k : Nat} (before : k < stop items) :
    ((items.take (stop items)).map Item.standIn)[k]? = some .output ↔
      items[k]?.bind Item.carried? = some .output := by
  rw [List.getElem?_map, List.getElem?_take_of_lt before]
  cases items[k]? with
  | none => simp
  | some item => simp [Item.standIn_eq_output]

/-- An output at a position is a bare one, or one that a token was read from. -/
theorem carried_output {items : List Item} {k : Nat} :
    items[k]?.bind Item.carried? = some .output ↔
      items[k]? = some (.instruction .output) ∨
        ∃ t, items[k]? = some (.token t) ∧ t.instruction = .output := by
  cases items[k]? with
  | none => simp
  | some item => simp [Item.carried?_eq_some]

/-- Runs of instructions that are the same but for some that are passed over. -/
theorem runs_alike {m n : Machine} {a b : List Instruction}
    (ran : fresh.run (a.map Item.instruction) = .ok m)
    (ran' : fresh.run (b.map Item.instruction) = .ok n)
    (same : a.filter Instruction.isLinear = b.filter Instruction.isLinear) : Alike m n := by
  obtain ⟨c, linear, alike⟩ := (Alike.refl fresh.restarted).runFrom ran
  obtain ⟨c', linear', alike'⟩ := (Alike.refl fresh.restarted).runFrom ran'
  rw [same, linear'] at linear
  cases linear
  exact ⟨alike.tape.trans alike'.tape.symm, alike.events.trans alike'.events.symm⟩

/-- The events of a run of items have the positions of its outputs. -/
theorem index_of_follows {m : Machine} {items : List Item}
    (follows : Walk.Follows ((items.take (stop items)).map Item.standIn) (stop items) m) :
    m.events.toList.map Event.index =
      ((List.range (stop items)).filter fun k =>
        items[k]?.bind Item.carried? = some .output).map Int.ofNat := by
  rw [follows.events, Walk.recorded, List.map_map]
  have outputs : ∀ k ∈ List.range (stop items),
      decide (((items.take (stop items)).map Item.standIn)[k]? = some .output) =
        decide (items[k]?.bind Item.carried? = some .output) := by
    intro k mem
    exact decide_eq_decide.mpr (output_standIn (List.mem_range.mp mem))
  rw [List.filter_congr outputs]
  rfl

/-- **Runs of any items.**  A run that no item breaks off ends at the first absent item,
or behind the last one, and its cursor stands there.  Its tape, and the values and cells
of its outputs, are those of a run of the instructions before this place, a token counting
as its instruction and foreign items left out.  Each output before this place, bare or in
a token, and nothing else, has left one event, with the position of its item, foreign
items counted; so the positions rise.  What comes behind an absent item has no effect.

A run that an item breaks off fails with what keeps the item from being written.  Its
cursor stands at that item, and its tape and its log are those of a run of the items
before. -/
theorem run_of_items (m : Machine) (items : List Item) :
    ((∀ k limit, ¬ BreaksAt items k limit) →
      ∃ m' n, m.run items = .ok m' ∧ m'.cursor.index = stop items ∧
        m.run (((items.take (stop items)).filterMap fun
          | .instruction i => some i
          | .token t => some t.instruction
          | .absent => none
          | .foreign _ => none).map Item.instruction) = .ok n ∧
        m'.tape = n.tape ∧
        m'.events.toList.map (fun e => (e.value, e.pointer)) =
          n.events.toList.map (fun e => (e.value, e.pointer)) ∧
        (∀ i : Int, i ∈ m'.events.toList.map Event.index ↔
          ∃ k : Nat, i = k ∧ k < stop items ∧
            (items[k]? = some (.instruction .output) ∨
              ∃ t, items[k]? = some (.token t) ∧ t.instruction = .output)) ∧
        (m'.events.toList.map Event.index).Pairwise (· < ·) ∧
        ∀ others, m.run (items.take (stop items) ++ .absent :: others) = .ok m') ∧
    ∀ k limit, BreaksAt items k limit →
      ∃ m' left, m.run (items.take k) = .ok m' ∧ m.run items = .error (.unwritten limit) ∧
        m.tryRun items = (left, some (.unwritten limit)) ∧ left.cursor.index = k ∧
        left.tape = m'.tape ∧ left.events = m'.events := by
  constructor
  · intro unbroken
    obtain ⟨m', whole, ran, follows, others⟩ := m.run_unbroken unbroken
    obtain ⟨n, ran', -⟩ := Walk.Follows.run ((items.take (stop items)).filterMap Item.carried?)
    -- The two runs take different numbers of instructions, but the same linear ones.
    have alike := runs_alike ran ran' (Item.filter_standIn _)
    have indices := index_of_follows follows
    have brings : (fun item : Item => item.carried?) = fun
        | .instruction i => some i
        | .token t => some t.instruction
        | .absent => none
        | .foreign _ => none := by
      funext item
      cases item <;> rfl
    refine ⟨m', n, whole, follows.cursor, ?_, alike.tape, alike.shown, ?_, ?_, others⟩
    · rw [← brings]
      exact ran'
    · intro i
      rw [indices, List.mem_map]
      simp only [List.mem_filter, List.mem_range, decide_eq_true_eq, carried_output]
      constructor
      · rintro ⟨k, ⟨before, output⟩, rfl⟩
        exact ⟨k, rfl, before, output⟩
      · rintro ⟨k, rfl, before, output⟩
        exact ⟨k, ⟨before, output⟩, rfl⟩
    · rw [indices, List.pairwise_map]
      exact (List.pairwise_lt_range.filter _).imp Int.ofNat_lt.mpr
  · intro k limit breaks
    obtain ⟨m', ran, cursor, failed, left⟩ := m.run_broken breaks
    exact ⟨m', m.withheld m', ran, failed, left, cursor, rfl, rfl⟩

/-- A run passes over foreign items and counts them, be they empty or zero, up to one that
it cannot write. -/
theorem run_of_items_mixed :
    let passed : List Item := [.foreign (.ok "''"), .instruction .increment,
      .token ⟨.output, 1, 1, "f"⟩, .foreign (.ok "0"), .instruction .output, .absent,
      .instruction .output]
    let broken : List Item := [.instruction .output, .foreign (.error .writing),
      .instruction .output]
    (∀ k limit, ¬ BreaksAt passed k limit) ∧ BreaksAt broken 1 .writing ∧
      (∃ m, fresh.run passed = .ok m ∧ m.cursor.index = 5 ∧
        2 ∈ m.events.toList.map Event.index ∧ 4 ∈ m.events.toList.map Event.index ∧
        6 ∉ m.events.toList.map Event.index) ∧
      ∃ left, fresh.tryRun broken = (left, some (.unwritten .writing)) ∧
        left.cursor.index = 1 := by
  intro passed broken
  have unbroken : ∀ k limit, ¬ BreaksAt passed k limit := by
    intro k limit breaks
    have mem := List.mem_of_getElem? breaks.here
    simp [passed] at mem
  have breaks : BreaksAt broken 1 .writing := ⟨rfl, by simp [broken], by simp [broken]⟩
  obtain ⟨m, -, ran, cursor, -, -, -, positions, -, -⟩ := (run_of_items fresh passed).1 unbroken
  obtain ⟨-, left, -, -, leaves, stands, -, -⟩ := (run_of_items fresh broken).2 1 .writing breaks
  refine ⟨unbroken, breaks, ⟨m, ran, cursor, ?_, ?_, ?_⟩, left, leaves, stands⟩
  · exact (positions 2).mpr ⟨2, rfl, by decide, Or.inr ⟨_, rfl, rfl⟩⟩
  · exact (positions 4).mpr ⟨4, rfl, by decide, Or.inl rfl⟩
  · rw [positions]
    rintro ⟨k, same, before, -⟩
    have within : k < 5 := before
    omega

/-- A number may be foreign to a run, but not to its log: one with too many digits breaks
the run off before the output behind it. -/
theorem run_of_items_long_number :
    let items : List Item :=
      [.instruction .increment, .number Decimal.bound, .instruction .output]
    stop items = 3 ∧ fresh.run items = .error (.unwritten .writing) ∧
      (fresh.tryRun items).1.cursor.index = 1 ∧ (fresh.tryRun items).1.events = #[] := by
  rw [Item.number_bound]
  exact ⟨rfl, rfl, rfl, rfl⟩

end Machine

end DeltaTape
