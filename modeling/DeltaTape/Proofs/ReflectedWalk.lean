/-
# DeltaTape.Proofs.ReflectedWalk — a run as a walk reflected at the left edge

Without its left edge a tape would carry the pointer by the moves to the right
less the moves to the left, its *displacement*.  The edge holds the pointer up
whenever the displacement falls to a new low, so the pointer stands at the
displacement less the lowest displacement so far, its *position*.  What a cell
holds is the sum of the changes made while the pointer stood on it.

None of the definitions here mentions a machine.  `Follows a k m` says that `m`
is the machine they describe after `k` instructions of `a`.

* `position_succ`: one instruction moves the position by its shift, and not
  below zero;
* `Follows.execute`: what one instruction does keeps to the walk;
* `Follows.runFrom`: so does a run, to its end;
* `run_follows_walk`: the events, the pointer and the cells of every run.
-/
import Mathlib
import DeltaTape.Machine

namespace DeltaTape.Walk

set_option autoImplicit false

/-! ## The walk -/

/-- How far the first `k` instructions lead to the right, were there no edge. -/
def displacement (a : List Instruction) (k : Nat) : Int :=
  ((a.take k).count .moveRight : Int) - ((a.take k).count .moveLeft : Int)

/-- The least displacement up to instruction `k`. -/
def lowest (a : List Instruction) (k : Nat) : Int :=
  (Finset.range (k + 1)).inf' ⟨0, by simp⟩ (displacement a)

/-- The cell that instruction `k` acts on. -/
def position (a : List Instruction) (k : Nat) : Int := displacement a k - lowest a k

/-- The rightmost cell that the first `k` instructions lead to. -/
def rightmost (a : List Instruction) (k : Nat) : Int :=
  (Finset.range (k + 1)).sup' ⟨0, by simp⟩ (position a)

/-- How an instruction moves the pointer away from the edge. -/
def shift : Option Instruction → Int
  | some .moveRight => 1
  | some .moveLeft => -1
  | _ => 0

/-- How an instruction changes the cell it acts on. -/
def weight : Option Instruction → Int
  | some .increment => 1
  | some .decrement => -1
  | _ => 0

/-- What the first `k` instructions leave in cell `c`. -/
def deposit (a : List Instruction) (k : Nat) (c : Int) : Int :=
  ∑ i ∈ Finset.range k with position a i = c, weight a[i]?

/-- What instruction `k` records if it is an output. -/
def eventAt (a : List Instruction) (k : Nat) : Event :=
  ⟨deposit a k (position a k), position a k, k⟩

/-- What the first `k` instructions record. -/
def recorded (a : List Instruction) (k : Nat) : List Event :=
  ((List.range k).filter fun i => a[i]? = some .output).map (eventAt a)

variable (a : List Instruction) (k : Nat)

theorem displacement_zero : displacement a 0 = 0 := by simp [displacement]

theorem displacement_succ : displacement a (k + 1) = displacement a k + shift a[k]? := by
  unfold displacement
  rw [List.take_add_one]
  cases a[k]? with
  | none => simp [shift]
  | some i => cases i <;> simp [shift, List.count_append] <;> omega

theorem lowest_succ : lowest a (k + 1) = min (displacement a (k + 1)) (lowest a k) := by
  unfold lowest
  simp only [Finset.range_add_one (n := k + 1)]
  exact Finset.inf'_insert Finset.nonempty_range_add_one _

theorem lowest_le : lowest a k ≤ displacement a k :=
  Finset.inf'_le _ (by simp)

theorem position_zero : position a 0 = 0 := by
  simp [position, lowest, displacement_zero]

theorem position_nonneg : 0 ≤ position a k := by
  have := lowest_le a k
  unfold position
  omega

/-- One instruction moves the position by its shift, and not below zero. -/
theorem position_succ : position a (k + 1) = max 0 (position a k + shift a[k]?) := by
  unfold position
  rw [lowest_succ, displacement_succ]
  omega

theorem rightmost_zero : rightmost a 0 = 0 := by
  simp [rightmost, position_zero]

theorem rightmost_succ : rightmost a (k + 1) = max (position a (k + 1)) (rightmost a k) := by
  unfold rightmost
  simp only [Finset.range_add_one (n := k + 1)]
  exact Finset.sup'_insert Finset.nonempty_range_add_one _

theorem position_le_rightmost {i : Nat} (h : i ≤ k) : position a i ≤ rightmost a k :=
  Finset.le_sup' (position a) (by simp; omega)

theorem deposit_zero (c : Int) : deposit a 0 c = 0 := by simp [deposit]

theorem deposit_succ (c : Int) :
    deposit a (k + 1) c = deposit a k c + if position a k = c then weight a[k]? else 0 := by
  unfold deposit
  rw [Finset.sum_filter, Finset.sum_range_succ, Finset.sum_filter]

/-- Where the pointer has not been, nothing was left. -/
theorem deposit_beyond {c : Int} (beyond : rightmost a k < c) : deposit a k c = 0 := by
  apply Finset.sum_eq_zero
  intro i mem
  obtain ⟨below, here⟩ := Finset.mem_filter.mp mem
  have := position_le_rightmost a k (Nat.le_of_lt (Finset.mem_range.mp below))
  omega

theorem recorded_succ :
    recorded a (k + 1) =
      recorded a k ++ if a[k]? = some .output then [eventAt a k] else [] := by
  unfold recorded
  rw [List.range_succ, List.filter_append, List.map_append]
  by_cases output : a[k]? = some .output <;> simp [output]

variable {a k}

/-! ## The tape keeps to the walk -/

/-- The tape that the first `k` instructions leave. -/
structure Carries (a : List Instruction) (k : Nat) (t : Tape) : Prop where
  pointer : t.pointer = position a k
  cells : ∀ c, t.cells[c]? =
    if 0 ≤ c ∧ c ≤ rightmost a k then some (deposit a k c) else none

theorem Carries.blank : Carries a 0 .blank where
  pointer := (position_zero a).symm
  cells c := by
    rw [rightmost_zero, deposit_zero, Tape.blank]
    simp only [Std.ExtTreeMap.getElem?_insert, compare_eq_iff_eq]
    by_cases first : 0 = c
    · simp [← first]
    · simp [first, show ¬ (0 ≤ c ∧ c ≤ 0) by omega]

theorem Carries.cell_here {t : Tape} (carries : Carries a k t) :
    t.cells[t.pointer]? = some (deposit a k (position a k)) := by
  rw [carries.cells, carries.pointer]
  exact if_pos ⟨position_nonneg a k, position_le_rightmost a k (Nat.le_refl k)⟩

theorem Carries.allocated {t : Tape} (carries : Carries a k t) (c : Int) :
    c ∈ t.cells ↔ 0 ≤ c ∧ c ≤ rightmost a k := by
  rw [Std.ExtTreeMap.mem_iff_isSome_getElem?, carries.cells]
  split <;> simp_all

theorem Carries.value {t : Tape} (carries : Carries a k t) :
    t.value = .ok (deposit a k (position a k)) := by
  rw [Tape.value, carries.cell_here]

theorem position_succ_still (still : shift a[k]? = 0) : position a (k + 1) = position a k := by
  have := position_nonneg a k
  rw [position_succ, still]
  omega

theorem rightmost_succ_still (still : shift a[k]? = 0) : rightmost a (k + 1) = rightmost a k := by
  have := position_le_rightmost a k (Nat.le_refl k)
  rw [rightmost_succ, position_succ_still still]
  omega

/-- An addition is a change of the cell it is made on. -/
theorem Carries.add {t : Tape} (carries : Carries a k t) (still : shift a[k]? = 0) :
    ∃ t', t.add (weight a[k]?) = .ok t' ∧ Carries a (k + 1) t' := by
  rw [Tape.add, carries.cell_here]
  refine ⟨_, rfl, ?_, ?_⟩
  · rw [position_succ_still still]
    exact carries.pointer
  · intro c
    simp only [Std.ExtTreeMap.getElem?_insert, compare_eq_iff_eq]
    rw [carries.pointer, carries.cells, rightmost_succ_still still, deposit_succ]
    have low := position_nonneg a k
    have high := position_le_rightmost a k (Nat.le_refl k)
    by_cases here : position a k = c
    · rw [if_pos here, if_pos here, if_pos (by omega), here]
    · rw [if_neg here, if_neg here, Int.add_zero]

/-- What neither moves nor changes anything leaves the tape as it is. -/
theorem Carries.rest {t : Tape} (carries : Carries a k t) (still : shift a[k]? = 0)
    (idle : weight a[k]? = 0) : Carries a (k + 1) t where
  pointer := by rw [position_succ_still still]; exact carries.pointer
  cells c := by
    rw [carries.cells, rightmost_succ_still still, deposit_succ, idle]
    simp

theorem Carries.moveLeft {t : Tape} (carries : Carries a k t) (left : a[k]? = some .moveLeft) :
    Carries a (k + 1) t.moveLeft := by
  have low := position_nonneg a k
  have high := position_le_rightmost a k (Nat.le_refl k)
  have moved : position a (k + 1) = max 0 (position a k - 1) := by
    rw [position_succ, left]
    rfl
  have idle : ∀ c, deposit a (k + 1) c = deposit a k c := by
    intro c
    rw [deposit_succ, left]
    simp [weight]
  have within : rightmost a (k + 1) = rightmost a k := by
    rw [rightmost_succ]
    omega
  constructor
  -- The clamp is the maximum with zero in `position_succ`.
  · rw [moved, ← carries.pointer, Tape.moveLeft]
    rw [← carries.pointer] at low
    split
    · simp only
      omega
    · omega
  · intro c
    rw [idle, within, ← carries.cells, Tape.moveLeft]
    split <;> rfl

theorem Carries.moveRight {t : Tape} (carries : Carries a k t) (right : a[k]? = some .moveRight) :
    Carries a (k + 1) t.moveRight := by
  have low := position_nonneg a k
  have high := position_le_rightmost a k (Nat.le_refl k)
  have moved : position a (k + 1) = position a k + 1 := by
    rw [position_succ, right]
    simp only [shift]
    omega
  constructor
  · rw [moved, ← carries.pointer]
    rfl
  · intro c
    have idle : deposit a (k + 1) c = deposit a k c := by
      rw [deposit_succ, right]
      simp [weight]
    rw [idle, rightmost_succ, moved, Tape.moveRight]
    simp only [Std.ExtTreeMap.getElem?_insertIfNew, compare_eq_iff_eq]
    by_cases fresh : t.pointer + 1 = c ∧ t.pointer + 1 ∉ t.cells
    · obtain ⟨rfl, unallocated⟩ := fresh
      rw [carries.allocated, carries.pointer] at unallocated
      rw [if_pos ⟨rfl, by rwa [carries.allocated, carries.pointer]⟩, carries.pointer,
        if_pos (by omega), deposit_beyond a k (by omega)]
    · rw [if_neg fresh, carries.cells]
      rw [carries.allocated, carries.pointer] at fresh
      by_cases old : 0 ≤ c ∧ c ≤ rightmost a k
      · rw [if_pos old, if_pos (by omega)]
      · rw [if_neg old, if_neg (by omega)]

/-! ## The machine keeps to the walk -/

/-- The machine that the first `k` instructions leave. -/
structure Follows (a : List Instruction) (k : Nat) (m : Machine) : Prop where
  tape : Carries a k m.tape
  events : m.events.toList = recorded a k
  cursor : m.cursor.index = k

theorem Follows.restarted (m : Machine) : Follows a 0 m.restarted where
  tape := Carries.blank
  events := rfl
  cursor := rfl

/-- What is not an output leaves the log alone. -/
theorem Follows.silent {m : Machine} (follows : Follows a k m) (silent : a[k]? ≠ some .output)
    {t : Tape} (carries : Carries a (k + 1) t) :
    Follows a (k + 1) { m with tape := t, cursor := m.cursor.advance 1 } where
  tape := carries
  events := by
    rw [recorded_succ, if_neg silent, List.append_nil]
    exact follows.events
  cursor := by simp [Cursor.advance, follows.cursor]

/-- What one instruction does keeps to the walk. -/
theorem Follows.execute {m : Machine} {i : Instruction} (follows : Follows a k m)
    (next : a[k]? = some i) :
    ∃ m', m.execute (some i) = .ok m' ∧
      Follows a (k + 1) { m' with cursor := m'.cursor.advance 1 } := by
  have tape := follows.tape
  cases i with
  | increment | decrement =>
      obtain ⟨t, added, carries⟩ := tape.add (by rw [next]; rfl)
      rw [next] at added
      refine ⟨{ m with tape := t }, ?_, follows.silent (by rw [next]; simp) carries⟩
      rw [Machine.execute]
      exact congrArg (· >>= fun tape => pure { m with tape }) added
  | moveLeft =>
      exact ⟨_, rfl, follows.silent (by rw [next]; simp) (tape.moveLeft next)⟩
  | moveRight =>
      exact ⟨_, rfl, follows.silent (by rw [next]; simp) (tape.moveRight next)⟩
  | output =>
      have observed : m.observe = .ok (eventAt a k) := by
        rw [Machine.observe, tape.value, tape.pointer, follows.cursor]
        rfl
      refine ⟨{ m with events := m.events.push (eventAt a k) }, ?_, ?_, ?_, ?_⟩
      · rw [Machine.execute, observed]
        rfl
      · exact tape.rest (by rw [next]; rfl) (by rw [next]; rfl)
      · rw [recorded_succ, if_pos next, ← follows.events]
        simp
      · simp [Cursor.advance, follows.cursor]
  | input | loopStart | loopEnd =>
      exact ⟨m, rfl, follows.silent (by rw [next]; simp)
        (tape.rest (by rw [next]; rfl) (by rw [next]; rfl))⟩

/-- A run that has kept to the walk so far keeps to it to its end. -/
theorem Follows.runFrom {m : Machine} (read unread : List Instruction)
    (follows : Follows (read ++ unread) read.length m) :
    ∃ m', m.runFrom (unread.map Item.instruction) = .ok m' ∧
      Follows (read ++ unread) (read ++ unread).length m' := by
  induction unread generalizing read m with
  | nil => exact ⟨m, rfl, by simpa using follows⟩
  | cons i unread ih =>
      obtain ⟨m₁, executed, followed⟩ := follows.execute (i := i) (by simp)
      have onward := ih (read ++ [i]) (m := { m₁ with cursor := m₁.cursor.advance 1 })
      simp only [List.append_assoc, List.singleton_append, List.length_append,
        List.length_singleton] at onward
      obtain ⟨m', ran, ended⟩ := onward followed
      refine ⟨m', ?_, by simpa using ended⟩
      rw [List.map_cons, Machine.runFrom_instruction, executed]
      exact ran

/-- Every run of instructions ends, and keeps to the walk. -/
theorem Follows.run (a : List Instruction) :
    ∃ m, Machine.fresh.run (a.map Item.instruction) = .ok m ∧
      Follows a a.length m :=
  Follows.runFrom [] a (Follows.restarted Machine.fresh)

/-- **A run is a reflected walk.**  Every run of instructions ends; it records
exactly the outputs of the walk, in order, and leaves the pointer at the walk's
position and in every cell up to its rightmost what was left there. -/
theorem run_follows_walk (a : List Instruction) :
    ∃ m, Machine.fresh.run (a.map Item.instruction) = .ok m ∧
      m.events.toList =
        ((List.range a.length).filter fun k => a[k]? = some .output).map
          (fun k => ⟨deposit a k (position a k), position a k, k⟩) ∧
      m.tape.pointer = position a a.length ∧
      (∀ c, c ∈ m.tape.cells ↔ 0 ≤ c ∧ c ≤ rightmost a a.length) ∧
      ∀ c ∈ m.tape.cells, m.tape.cells[c]? = some (deposit a a.length c) := by
  obtain ⟨m, ran, follows⟩ := Follows.run a
  refine ⟨m, ran, follows.events, follows.tape.pointer, follows.tape.allocated, ?_⟩
  intro c allocated
  rw [follows.tape.cells, if_pos ((follows.tape.allocated c).mp allocated)]

end DeltaTape.Walk
