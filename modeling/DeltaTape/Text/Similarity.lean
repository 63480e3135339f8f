/-
# DeltaTape.Text.Similarity — the names most like a name that does not exist

Two texts are compared by the characters they share: the longest block common to
both, the earliest in the first text and then in the second, and so on to its
left and to its right.  Their likeness is twice the number of shared characters
over the sum of their lengths.  Only names at least three fifths alike are
offered, and of those the three most alike.  Names that are too short or too long
for that are not compared at all.

* `lengthsAllow_of_isClose`: none of these would have been offered.
-/

namespace DeltaTape.Text.Similarity

set_option autoImplicit false

/-- How far two texts agree from their beginnings. -/
def agreement : List Char → List Char → Nat
  | a :: as, b :: bs => if a = b then agreement as bs + 1 else 0
  | _, _ => 0

/-- A block common to two texts: where it begins in each, and its length. -/
structure Block where
  left : Nat
  right : Nat
  length : Nat

/-- The longest common block; of equally long ones, the earliest in `a` and then
in `b`. -/
def longestBlock (a b : List Char) : Block :=
  let starts := (List.range a.length).flatMap fun i => (List.range b.length).map fun j => (i, j)
  starts.foldl (fun best (i, j) =>
    let length := agreement (a.drop i) (b.drop j)
    if best.length < length then ⟨i, j, length⟩ else best) ⟨0, 0, 0⟩

/-- How many characters two texts share, looking for at most `fuel` blocks deep. -/
def sharedWithin : Nat → List Char → List Char → Nat
  | 0, _, _ => 0
  | fuel + 1, a, b =>
    let block := longestBlock a b
    if block.length = 0 then 0
    else
      sharedWithin fuel (a.take block.left) (b.take block.right) + block.length +
        sharedWithin fuel (a.drop (block.left + block.length)) (b.drop (block.right + block.length))

/-- How many characters two texts share.  Every block found leaves less of the
first text, so its length bounds the depth. -/
def shared (a b : List Char) : Nat := sharedWithin a.length a b

/-- A name offered for another, with the characters the two share and the sum of
their lengths. -/
structure Offer where
  name : String
  common : Nat
  total : Nat

/-- The offer a name makes for a word. -/
def offer (word name : String) : Offer :=
  ⟨name, shared name.toList word.toList, name.length + word.length⟩

/-- Whether an offer is at least three fifths alike. -/
def Offer.isClose (o : Offer) : Bool := decide (3 * o.total ≤ 10 * o.common)

/-- Whether an offer comes before another: the more alike, and of equals the
later name. -/
def Offer.precedes (o o' : Offer) : Bool :=
  let here := o.common * o'.total
  let there := o'.common * o.total
  decide (there < here) || (here = there && decide (o'.name ≤ o.name))

/-- Whether the lengths of a word and a name leave room for a close offer: no more
can be shared than the shorter of the two. -/
def lengthsAllow (word name : String) : Bool :=
  decide (3 * (name.length + word.length) ≤ 10 * min name.length word.length)

/-- The names most like a word, in the order of the names. -/
def closest (word : String) (names : List String) : List String :=
  let offers := ((names.filter (lengthsAllow word)).map (offer word)).filter Offer.isClose
  let best := (offers.mergeSort Offer.precedes).take 3
  (best.map Offer.name).mergeSort fun a b => decide (a ≤ b)

theorem agreement_le (a b : List Char) : agreement a b ≤ a.length ∧ agreement a b ≤ b.length := by
  fun_induction agreement a b with
  | case1 a as bs ih => simp only [List.length_cons]; omega
  | case2 => omega
  | case3 => omega

/-- The longest common block lies within both texts. -/
theorem longestBlock_within (a b : List Char) :
    (longestBlock a b).left + (longestBlock a b).length ≤ a.length ∧
      (longestBlock a b).right + (longestBlock a b).length ≤ b.length := by
  unfold longestBlock
  refine List.foldlRecOn _ _ (motive := fun best : Block =>
    best.left + best.length ≤ a.length ∧ best.right + best.length ≤ b.length) (by simp) ?_
  intro best inside start _
  have agreed := agreement_le (a.drop start.1) (b.drop start.2)
  rw [List.length_drop, List.length_drop] at agreed
  dsimp only
  split
  · dsimp only
    omega
  · exact inside

/-- No more is shared than either text has. -/
theorem sharedWithin_le (fuel : Nat) (a b : List Char) :
    sharedWithin fuel a b ≤ a.length ∧ sharedWithin fuel a b ≤ b.length := by
  induction fuel generalizing a b with
  | zero => exact ⟨Nat.zero_le _, Nat.zero_le _⟩
  | succ fuel ih =>
      rw [sharedWithin]
      split
      · exact ⟨Nat.zero_le _, Nat.zero_le _⟩
      · have inside := longestBlock_within a b
        generalize longestBlock a b = block at inside
        have before := ih (a.take block.left) (b.take block.right)
        have after := ih (a.drop (block.left + block.length)) (b.drop (block.right + block.length))
        simp only [List.length_take, List.length_drop] at before after
        omega

/-- Lengths rule out no name that is close. -/
theorem lengthsAllow_of_isClose {word name : String} (close : (offer word name).isClose = true) :
    lengthsAllow word name = true := by
  have most := sharedWithin_le name.toList.length name.toList word.toList
  have enough : 3 * (name.length + word.length) ≤ 10 * shared name.toList word.toList :=
    of_decide_eq_true close
  rw [String.length_toList, String.length_toList] at most
  rw [shared, String.length_toList] at enough
  exact decide_eq_true (by omega)

end DeltaTape.Text.Similarity
