/-
# DeltaTape.Proofs.OutputRange — how large outputs get

Every increment and every decrement goes to one cell.  So what a run leaves in a
cell, and how far two outputs lie apart, is at most the number of these
instructions, even when the outputs come from different cells.

* `deposit_sub_le`: two cells at two times lie no further apart than that;
* `pairwise_values`: so no two outputs do, nor an output and zero.
-/
import Mathlib
import DeltaTape.Compiler
import DeltaTape.Proofs.ReflectedWalk

namespace DeltaTape.Walk

set_option autoImplicit false

/-- How many instructions change a cell. -/
def changes (a : List Instruction) : Nat :=
  a.countP fun i => decide (i = .increment ∨ i = .decrement)

/-- What is read from a list changes cells as often as an element of it stands for
an increment or a decrement. -/
theorem changes_filterMap {β : Type} (f : β → Option Instruction) (l : List β) :
    changes (l.filterMap f) =
      l.countP fun x => decide (f x = some .increment ∨ f x = some .decrement) := by
  rw [changes, List.countP_filterMap]
  apply List.countP_congr
  intro x _
  cases f x <;> simp

theorem sum_abs_weight (a : List Instruction) :
    ∑ i ∈ Finset.range a.length, |weight a[i]?| = (changes a : Int) := by
  induction a with
  | nil => rfl
  | cons i a ih =>
      rw [List.length_cons, Finset.sum_range_succ']
      simp only [List.getElem?_cons_succ, List.getElem?_cons_zero, ih, changes, List.countP_cons]
      cases i <;> simp [weight]

/-- What two cells hold at two times lies no further apart than the number of
changes made until the later time: each is charged to one of the cells at most. -/
theorem deposit_sub_le (a : List Instruction) {j k : Nat} (earlier : j ≤ k) (c d : Int) :
    |deposit a k c - deposit a j d| ≤ ∑ i ∈ Finset.range k, |weight a[i]?| := by
  have until_j : deposit a j d =
      ∑ i ∈ Finset.range k, if i < j ∧ position a i = d then weight a[i]? else 0 := by
    rw [← Finset.sum_filter, deposit]
    apply Finset.sum_congr
    · ext i
      simp only [Finset.mem_filter, Finset.mem_range]
      constructor
      · rintro ⟨below, here⟩
        exact ⟨by omega, below, here⟩
      · rintro ⟨-, below, here⟩
        exact ⟨below, here⟩
    · intro i _
      rfl
  rw [until_j, deposit, Finset.sum_filter, ← Finset.sum_sub_distrib]
  refine le_trans (Finset.abs_sum_le_sum_abs _ _) (Finset.sum_le_sum ?_)
  intro i _
  split <;> split <;> simp

/-- What two cells hold at two times lies no further apart than the number of
changes in the whole program. -/
theorem natAbs_deposit_sub_le (a : List Instruction) {j k : Nat} (earlier : j ≤ k)
    (within : k ≤ a.length) (c d : Int) :
    (deposit a k c - deposit a j d).natAbs ≤ changes a := by
  have apart := deposit_sub_le a earlier c d
  have all : ∑ i ∈ Finset.range k, |weight a[i]?| ≤ ∑ i ∈ Finset.range a.length, |weight a[i]?| :=
    Finset.sum_le_sum_of_subset_of_nonneg (Finset.range_mono within) fun i _ _ => abs_nonneg _
  have bounded : |deposit a k c - deposit a j d| ≤ (changes a : Int) := by
    rw [← sum_abs_weight]
    exact le_trans apart all
  rw [Int.abs_eq_natAbs] at bounded
  exact_mod_cast bounded

/-- Zero and the outputs of a run, in order: none lies further from one before it
than the number of changes. -/
theorem pairwise_values {tokens : List Token} {m : Machine} (ran : simulate tokens = .ok m) :
    (0 :: Compilation.values m).Pairwise fun v w =>
      (w - v).natAbs ≤ changes (Token.instructions tokens) := by
  obtain ⟨m', ran', follows⟩ := Follows.run (Token.instructions tokens)
  rw [simulate_eq, ran'] at ran
  cases ran
  rw [Compilation.values, Array.toList_map, follows.events, recorded, List.map_map]
  generalize Token.instructions tokens = a
  rw [List.pairwise_cons, List.pairwise_map]
  constructor
  · intro v output
    obtain ⟨k, mem, rfl⟩ := List.mem_map.mp output
    have below := List.mem_range.mp (List.mem_filter.mp mem).1
    -- Before the first instruction every cell holds zero.
    have start := natAbs_deposit_sub_le a (Nat.zero_le k) below.le (position a k) 0
    rwa [deposit_zero] at start
  · have ordered := (List.pairwise_lt_range (n := a.length)).filter fun i => a[i]? = some .output
    refine ordered.imp_of_mem ?_
    intro j k _ mem earlier
    have below := List.mem_range.mp (List.mem_filter.mp mem).1
    exact natAbs_deposit_sub_le a earlier.le below.le (position a k) (position a j)

/-- No output of a run lies further from zero than the number of changes. -/
theorem value_le_changes {tokens : List Token} {m : Machine} (ran : simulate tokens = .ok m)
    {v : Int} (output : v ∈ Compilation.values m) :
    v.natAbs ≤ changes (Token.instructions tokens) := by
  have near := (List.pairwise_cons.mp (pairwise_values ran)).1 v output
  rwa [Int.sub_zero] at near

end DeltaTape.Walk
