import Agenda.Proofs.Heap.Conserving
import Agenda.Proofs.Heap.Priority

/-!
# Walks mend a heap

A heap is out of order around one index for as long as an item is on its way.  The walk that moves
the item puts everything in place again, so every step on an ordered heap leaves an ordered heap.
-/

namespace Agenda.Heap

universe u

variable {α : Type u}

structure Mends (less : α → α → Bool) : Prop where
  /-- Only the item at `index` may be less than the one it hangs under. -/
  up : ∀ {n : Nat} (items : Vector α n) (index : Nat) (inside : index < n),
    (∀ other, other ≠ index → InPlace less items other) → Bridged less items index →
      (siftUp less items index inside).Perm items ∧
        ∀ other, InPlace less (siftUp less items index inside) other
  /-- Only the children of `index` may be less than the item they hang under. -/
  down : ∀ {n : Nat} (items : Vector α n) (index : Fin n),
    (∀ other, parent other ≠ index.val → InPlace less items other) →
      Bridged less items index.val →
        (siftDown less items index).Perm items ∧
          ∀ other, InPlace less (siftDown less items index) other
  inserts : ∀ (heap : Heap α less) (item : α), heap.IsOrdered → (heap.insert item).IsOrdered
  pops : ∀ (heap rest : Heap α less) (root : α),
    heap.IsOrdered → heap.pop? = some (root, rest) → rest.IsOrdered
  /-- Nothing in the array is less than the item at its start. -/
  lowest : ∀ (heap : Heap α less) (root : α), heap.IsOrdered → heap.items[0]? = some root →
    ∀ item ∈ heap.items, less item root = false
  lasts : ∀ (itemText : α → String) (heap : Heap α less) (steps : List (Step α)),
    heap.IsOrdered → (heap.after itemText steps).IsOrdered

variable (less : α → α → Bool) [IsStrictWeakOrder α fun a b => less a b = true]

theorem isOrdered_after (itemText : α → String) {heap : Heap α less} (ordered : heap.IsOrdered)
    (steps : List (Step α)) : (heap.after itemText steps).IsOrdered := by
  induction steps generalizing heap with
  | nil => exact ordered
  | cons step steps inductionHypothesis =>
      obtain ⟨still, _⟩ := serves_perform itemText ordered step
      exact inductionHypothesis still

/-- Under a strict weak order, both walks mend what one item has put out of order. -/
theorem mends : Mends less where
  up items index inside placed bridged :=
    ⟨siftUp_perm less items index inside, inPlace_siftUp inside placed bridged⟩
  down items index placed bridged :=
    ⟨siftDown_perm less items index, inPlace_siftDown placed bridged⟩
  inserts _ item ordered := isOrdered_insert ordered item
  pops _ _ _ ordered popped := by
    obtain ⟨_, rfl⟩ := pop?_eq_some_iff.1 popped
    exact isOrdered_tail ordered
  lowest _ _ ordered seen _ held := less_root ordered seen (Array.mem_toList_iff.2 held)
  lasts itemText _ steps ordered := isOrdered_after less itemText ordered steps

/-- The last of six numbers goes up to the root past two of larger magnitude.  The first of five
goes down to the left, since the right child is not less than the left one, and then to the right,
since the left child is not less than the number itself. -/
theorem mends_magnitude :
    IsStrictWeakOrder Int (fun a b => NumberOrder.magnitude.less a b = true) ∧
      siftUp NumberOrder.magnitude.less #v[2, 3, -5, 4, 7, 1] 5 (by decide) =
        #v[1, 3, 2, 4, 7, -5] ∧
      (∀ other, InPlace NumberOrder.magnitude.less
        (siftUp NumberOrder.magnitude.less #v[2, 3, -5, 4, 7, 1] 5 (by decide)) other) ∧
      siftDown NumberOrder.magnitude.less #v[4, -2, 2, -4, 3] 0 = #v[-2, 3, 2, -4, 4] ∧
      (siftDown NumberOrder.magnitude.less #v[4, -2, 2, -4, 3] 0).Perm #v[4, -2, 2, -4, 3] := by
  refine ⟨inferInstance, by cbv, ?_, by cbv, ?_⟩
  · refine ((mends NumberOrder.magnitude.less).up _ 5 (by decide) ?_ ?_).2
    · intro other apart inside above inner
      interval_cases other <;> first | contradiction | rfl
    · intro child inside above childInner below inner
      interval_cases child <;> contradiction
  · refine ((mends NumberOrder.magnitude.less).down _ 0 ?_ ?_).1
    · intro other apart inside above inner
      interval_cases other <;> first | contradiction | rfl
    · intro child inside above childInner below inner
      exact absurd rfl inner

end Agenda.Heap
