import Agenda.Heap.Basic

/-!
What a heap holds, whatever its comparison: an insertion adds the item, a removal takes out the
root, and neither loses, doubles or invents anything else.
-/

namespace Agenda.Heap

universe u

variable {α : Type u} {less : α → α → Bool} {n : Nat}

theorem siftUp_perm (less : α → α → Bool) (items : Vector α n) (index : Nat)
    (inside : index < n) : (siftUp less items index inside).Perm items := by
  induction index using Nat.strongRecOn generalizing items with
  | _ index closerOnes =>
      rw [siftUp]
      split
      · exact Vector.Perm.refl _
      · rename_i inner
        dsimp only
        split
        · exact (closerOnes (parent index) (parent_lt inner) _ _).trans (Vector.swap_perm _ _)
        · exact Vector.Perm.refl _

theorem siftDown_perm (less : α → α → Bool) (items : Vector α n) (index : Fin n) :
    (siftDown less items index).Perm items := by
  induction left : n - index.val using Nat.strongRecOn generalizing items index with
  | _ left furtherOnes =>
      rw [siftDown]
      split
      · exact Vector.Perm.refl _
      · rename_i moved
        have further : index.val < (least less items index).val := lt_least moved
        exact (furtherOnes (n - (least less items index).val) (by omega) _ _ rfl).trans
          (Vector.swap_perm _ _)

theorem toList_insert_perm (heap : Heap α less) (item : α) :
    (heap.insert item).toList.Perm (item :: heap.toList) := by
  have moved := siftUp_perm less (heap.items.push item).toVector heap.items.size (by simp)
  have pushed : (heap.items.push item).toList.Perm (item :: heap.items.toList) := by
    rw [Array.toList_push]
    exact List.perm_append_singleton item heap.items.toList
  exact moved.toList.trans pushed

theorem mem_insert_iff {heap : Heap α less} {item other : α} :
    other ∈ (heap.insert item).toList ↔ other = item ∨ other ∈ heap.toList := by
  rw [(toList_insert_perm heap item).mem_iff, List.mem_cons]

theorem toList_pop_perm (items : Vector α n) (occupied : n - 1 < n) :
    items.toList.Perm (items[n - 1] :: items.pop.toList) := by
  have nonempty : items.toList ≠ [] := by
    intro vacant
    have length := congrArg List.length vacant
    simp only [Vector.length_toList, List.length_nil] at length
    omega
  have last : items.toList.getLast nonempty = items[n - 1] := by
    rw [List.getLast_eq_getElem]
    simp
  have rest : items.pop.toList = items.toList.dropLast := by
    rw [← Vector.toList_toArray, Vector.toArray_pop, Array.toList_pop, Vector.toList_toArray]
  rw [rest, ← last]
  exact ((List.perm_append_singleton _ _).symm.trans
    (List.Perm.of_eq (List.dropLast_concat_getLast nonempty))).symm

theorem toList_tail_perm {heap : Heap α less} {root : α} (seen : heap.peek? = some root) :
    heap.toList.Perm (root :: heap.tail.toList) := by
  obtain ⟨occupied, found⟩ := Array.getElem?_eq_some_iff.1 seen
  have rest : heap.items.toVector.toList.Perm
      (root :: ((heap.items.toVector.swap 0 (heap.items.size - 1)).pop).toList) := by
    have swapped : (heap.items.toVector.swap 0 (heap.items.size - 1)).Perm
        heap.items.toVector := Vector.swap_perm _ _
    have popped := toList_pop_perm (heap.items.toVector.swap 0 (heap.items.size - 1))
      (show heap.items.size - 1 < heap.items.size by omega)
    rw [Vector.getElem_swap_right] at popped
    exact swapped.symm.toList.trans (by simpa [found] using popped)
  have tail : heap.tail.toList.Perm
      ((heap.items.toVector.swap 0 (heap.items.size - 1)).pop).toList := by
    unfold tail
    rw [dif_pos occupied]
    dsimp only
    split
    · exact (siftDown_perm less _ _).toList
    · exact List.Perm.refl _
  exact rest.trans (tail.symm.cons root)

theorem toList_pop?_perm {heap rest : Heap α less} {root : α}
    (popped : heap.pop? = some (root, rest)) : heap.toList.Perm (root :: rest.toList) := by
  obtain ⟨seen, rfl⟩ := pop?_eq_some_iff.1 popped
  exact toList_tail_perm seen

theorem mem_iff_of_pop? {heap rest : Heap α less} {root other : α}
    (popped : heap.pop? = some (root, rest)) :
    other ∈ heap.toList ↔ other = root ∨ other ∈ rest.toList := by
  rw [(toList_pop?_perm popped).mem_iff, List.mem_cons]

theorem peek?_eq_head? (heap : Heap α less) : heap.peek? = heap.toList.head? := by
  rw [peek?, toList, List.head?_eq_getElem?, Array.getElem?_toList]

theorem toList_foldl_insert_perm (heap : Heap α less) (items : List α) :
    (items.foldl insert heap).toList.Perm (heap.toList ++ items) := by
  induction items generalizing heap with
  | nil => rw [List.foldl_nil, List.append_nil]
  | cons item items inductionHypothesis =>
      calc (items.foldl insert (heap.insert item)).toList
          |>.Perm ((heap.insert item).toList ++ items) := inductionHypothesis _
        _ |>.Perm (item :: heap.toList ++ items) := (toList_insert_perm heap item).append_right _
        _ |>.Perm (heap.toList ++ item :: items) := List.perm_middle.symm

theorem popAll_of_pop? {heap rest : Heap α less} {root : α}
    (popped : heap.pop? = some (root, rest)) : heap.popAll = root :: rest.popAll := by
  rw [popAll]
  split
  · rename_i vacant
    cases popped.symm.trans vacant
  · rename_i found
    cases popped.symm.trans found
    rfl

theorem popAll_of_none {heap : Heap α less} (vacant : heap.pop? = none) : heap.popAll = [] := by
  rw [popAll]
  split
  · rfl
  · rename_i found
    cases vacant.symm.trans found

theorem popAll_perm (heap : Heap α less) : heap.popAll.Perm heap.toList := by
  fun_induction popAll heap with
  | case1 heap vacant =>
      have none : heap.toList.length = 0 := pop?_eq_none_iff.1 vacant
      rw [List.eq_nil_of_length_eq_zero none]
  | case2 heap root rest popped smaller inductionHypothesis =>
      exact (inductionHypothesis.cons root).trans (toList_pop?_perm popped).symm

theorem head?_popAll (heap : Heap α less) : heap.popAll.head? = heap.peek? := by
  cases popped : heap.pop? with
  | none =>
      rw [popAll_of_none popped, peek?_eq_none_iff.2 (pop?_eq_none_iff.1 popped)]
      rfl
  | some taken =>
      rw [popAll_of_pop? popped, (pop?_eq_some_iff.1 popped).1]
      rfl

end Agenda.Heap
