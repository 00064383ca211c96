import Agenda.Heap.Contents
import Mathlib

/-!
# The two walks, round by round

A round of a walk looks at items by their indices, and nothing keeps it from looking outside the
array.  For any comparison, a walk that begins inside the array never does so, and it ends after a
number of rounds that is logarithmic in the size of the array: towards the root the index is
halved, and away from the root it is doubled.
-/

namespace Agenda.Heap

universe u

variable {α : Type u} {less : α → α → Bool} {n : Nat}

/-- What a round of a walk comes to. -/
inductive Round (α : Type u) where
  | ends
  | goesOn (items : Array α) (index : Nat)
  /-- The round looks outside the array. -/
  | strays

def compare? (less : α → α → Bool) (items : Array α) (first second : Nat) : Option Bool :=
  match items[first]?, items[second]? with
  | some a, some b => some (less a b)
  | _, _ => none

def exchange (items : Array α) (first second : Nat) : Round α :=
  if first < items.size ∧ second < items.size then
    .goesOn (items.swapIfInBounds first second) second
  else
    .strays

def climb (less : α → α → Bool) (items : Array α) (index : Nat) : Round α :=
  if index = 0 then .ends
  else
    match compare? less items index (parent index) with
    | none => .strays
    | some true => exchange items index (parent index)
    | some false => .ends

/-- Of `winner` and `child`, the one that holds the lesser item, where `child` may be past the end
of the array. -/
def contest? (less : α → α → Bool) (items : Array α) (winner child : Nat) : Option Nat :=
  if child < items.size then
    (compare? less items child winner).map fun lower => if lower then child else winner
  else
    some winner

def sink (less : α → α → Bool) (items : Array α) (index : Nat) : Round α :=
  match (contest? less items index (2 * index + 1)).bind
      fun winner => contest? less items winner (2 * index + 2) with
  | none => .strays
  | some winner => if winner = index then .ends else exchange items index winner

/-- A walk that ends after so many rounds, none of which looks outside the array. -/
inductive Walk (round : Array α → Nat → Round α) : Array α → Nat → Nat → Array α → Prop where
  | ends {items : Array α} {index : Nat} :
      round items index = .ends → Walk round items index 1 items
  | goesOn {items next last : Array α} {index further rounds : Nat} :
      round items index = .goesOn next further → Walk round next further rounds last →
      Walk round items index (rounds + 1) last

theorem compare?_toArray (items : Vector α n) {first second : Nat} (inside : first < n)
    (within : second < n) :
    compare? less items.toArray first second = some (less items[first] items[second]) := by
  simp [compare?, inside, within]

theorem exchange_toArray (items : Vector α n) {first second : Nat} (inside : first < n)
    (within : second < n) :
    exchange items.toArray first second = .goesOn (items.swap first second).toArray second := by
  simp [exchange, inside, within, Array.swapIfInBounds_def]

theorem climb_toArray (less : α → α → Bool) (items : Vector α n) {index : Nat} (inner : index ≠ 0)
    (inside : index < n) (above : parent index < n) : climb less items.toArray index =
      if less items[index] items[parent index] then
        .goesOn (items.swap index (parent index)).toArray (parent index)
      else .ends := by
  rw [climb, if_neg inner, compare?_toArray items inside above]
  cases less items[index] items[parent index] with
  | true => exact exchange_toArray items inside above
  | false => rfl

theorem contest?_toArray (items : Vector α n) (winner : Fin n) (child : Nat) :
    contest? less items.toArray winner child = some (lesser less items winner child).val := by
  unfold contest? lesser
  by_cases inside : child < n
  · simp only [Vector.size_toArray, inside, if_true, dite_true]
    rw [compare?_toArray items inside winner.isLt, Option.map_some, Fin.getElem_fin]
    cases less items[child] items[winner.val] <;> rfl
  · simp only [Vector.size_toArray, inside, if_false, dite_false]

theorem sink_toArray (less : α → α → Bool) (items : Vector α n) (index : Fin n) :
    sink less items.toArray index =
      if least less items index = index then .ends
      else .goesOn (items.swap index (least less items index) index.isLt
        (least less items index).isLt).toArray (least less items index) := by
  have winner : (contest? less items.toArray index (2 * index.val + 1)).bind
      (fun winner => contest? less items.toArray winner (2 * index.val + 2)) =
        some (least less items index).val := by
    rw [contest?_toArray, Option.bind_some, contest?_toArray, least]
  rw [sink, winner]
  dsimp only
  rw [exchange_toArray items index.isLt (least less items index).isLt]
  simp only [Fin.ext_iff]

theorem exists_walk_climb (less : α → α → Bool) (items : Vector α n) (index : Nat)
    (inside : index < n) : ∃ rounds,
      Walk (climb less) items.toArray index rounds (siftUp less items index inside).toArray ∧
        2 ^ rounds ≤ 2 * (index + 1) := by
  induction index using Nat.strongRecOn generalizing items with
  | _ index closerOnes =>
      rw [siftUp]
      split
      · rename_i root
        refine ⟨1, .ends ?_, by omega⟩
        rw [climb, if_pos root]
      · rename_i inner
        have closer := parent_lt inner
        have round := climb_toArray less items inner inside (Nat.lt_trans closer inside)
        dsimp only
        split
        · rename_i lower
          obtain ⟨rounds, walk, few⟩ := closerOnes (parent index) closer _ _
          rw [if_pos lower] at round
          refine ⟨rounds + 1, .goesOn round walk, ?_⟩
          have halved : 2 * (parent index + 1) ≤ index + 1 := by
            unfold parent
            omega
          rw [Nat.pow_succ]
          omega
        · rename_i kept
          rw [if_neg kept] at round
          exact ⟨1, .ends round, by omega⟩

theorem exists_walk_sink (less : α → α → Bool) (items : Vector α n) (index : Fin n) :
    ∃ rounds, Walk (sink less) items.toArray index rounds (siftDown less items index).toArray ∧
      (index.val + 1) * 2 ^ rounds ≤ 2 * n := by
  induction left : n - index.val using Nat.strongRecOn generalizing items index with
  | _ left furtherOnes =>
      have inside := index.isLt
      have round := sink_toArray less items index
      rw [siftDown]
      split
      · rename_i kept
        rw [if_pos kept] at round
        exact ⟨1, .ends round, by omega⟩
      · rename_i moved
        rw [if_neg moved] at round
        have further := lt_least moved
        obtain ⟨rounds, walk, few⟩ := furtherOnes (n - (least less items index).val) (by omega)
          (items.swap index (least less items index)) (least less items index) rfl
        refine ⟨rounds + 1, .goesOn round walk, ?_⟩
        have doubled : (index.val + 1) * 2 ≤ (least less items index).val + 1 := by
          rcases least_eq less items index with same | child
          · exact absurd same moved
          · omega
        calc (index.val + 1) * 2 ^ (rounds + 1)
            = (index.val + 1) * 2 * 2 ^ rounds := by
              rw [Nat.pow_succ, Nat.mul_comm (2 ^ rounds), Nat.mul_assoc]
          _ ≤ ((least less items index).val + 1) * 2 ^ rounds := Nat.mul_le_mul_right _ doubled
          _ ≤ 2 * n := few

end Agenda.Heap
