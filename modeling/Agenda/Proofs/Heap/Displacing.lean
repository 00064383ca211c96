import Agenda.Proofs.Heap.Repair
import Mathlib

/-!
# Whether an insertion displaces the root

An item on its way towards the root meets the root last.  So it gets there if it is less than all
other items, whatever the comparison, and it does not get there if it is not less than the root.  In
an ordered heap one of these is the case.
-/

namespace Agenda.Heap

universe u

variable {α : Type u} {less : α → α → Bool} {n : Nat}

theorem getElem_zero_siftUp_of_not_less {items : Vector α n} {index : Nat} (inside : index < n)
    (kept : less items[index] items[0] = false) :
    (siftUp less items index inside)[0] = items[0] := by
  induction index using Nat.strongRecOn generalizing items with
  | _ index closerOnes =>
      rw [siftUp]
      split
      · rfl
      · rename_i inner
        have closer := parent_lt inner
        dsimp only
        split
        · rename_i lower
          by_cases top : parent index = 0
          · simp only [top, kept, Bool.false_eq_true] at lower
          · have root : (items.swap index (parent index))[0] = items[0] :=
              Vector.getElem_swap_of_ne (Ne.symm inner) (Ne.symm top)
            rw [closerOnes (parent index) closer, root]
            rw [root, Vector.getElem_swap_right]
            exact kept
        · rfl

theorem getElem_zero_siftUp_of_less {items : Vector α n} {index : Nat} (inside : index < n)
    (lower : ∀ other, (before : other < index) → less items[index] items[other] = true) :
    (siftUp less items index inside)[0] = items[index] := by
  induction index using Nat.strongRecOn generalizing items with
  | _ index closerOnes =>
      rw [siftUp]
      split
      · rename_i root
        subst root
        rfl
      · rename_i inner
        have closer := parent_lt inner
        dsimp only
        split
        · rw [closerOnes (parent index) closer]
          · rw [Vector.getElem_swap_right]
          · intro other before
            rw [Vector.getElem_swap_right, Vector.getElem_swap_of_ne (by omega) (by omega)]
            exact lower other (Nat.lt_trans before closer)
        · rename_i stuck
          exact absurd (lower (parent index) closer) stuck

variable {heap : Heap α less} {item root : α}

theorem peek?_insert (heap : Heap α less) (item : α) : (heap.insert item).peek? =
    some (siftUp less (heap.items.push item).toVector heap.items.size (by simp))[0] := by
  rw [peek?, insert, Vector.getElem?_toArray, Vector.getElem?_eq_getElem (by simp)]

theorem peek?_insert_of_less (lower : ∀ other ∈ heap.toList, less item other = true) :
    (heap.insert item).peek? = some item := by
  rw [peek?_insert, getElem_zero_siftUp_of_less]
  · simp
  · intro other before
    have held : heap.items[other] ∈ heap.toList := by simp [toList]
    simpa [Array.getElem_push, before] using lower _ held

theorem peek?_insert_of_not_less (seen : heap.peek? = some root) (kept : less item root = false) :
    (heap.insert item).peek? = some root := by
  obtain ⟨occupied, found⟩ := Array.getElem?_eq_some_iff.1 seen
  have above : (heap.items.push item).toVector[0] = root := by
    simpa [Array.getElem_push, occupied] using found
  rw [peek?_insert, getElem_zero_siftUp_of_not_less, above]
  rw [above]
  simpa using kept

section Ordered

variable [IsStrictWeakOrder α fun a b => less a b = true]

/-- An insertion that does not put its item below everything leaves the root of an ordered heap
where it is. -/
theorem peek?_insert_of_exists (ordered : heap.IsOrdered) {other : α} (held : other ∈ heap.toList)
    (kept : less item other = false) :
    (heap.insert item).peek? = heap.peek? ∧ heap.peek? ≠ none := by
  cases seen : heap.peek? with
  | none =>
      have vacant := peek?_eq_none_iff.1 seen
      rw [← length_toList, List.length_eq_zero_iff] at vacant
      rw [vacant] at held
      cases held
  | some root =>
      refine ⟨peek?_insert_of_not_less seen ?_, nofun⟩
      exact not_less_trans kept (less_root ordered seen held)

end Ordered

end Agenda.Heap
