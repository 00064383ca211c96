import Agenda.Heap.Contents

/-!
# A heap sees its items through the comparison only

If an image of the items compares as the items do, the heap of the images goes through the same
swaps, and everything taken from it is the image of what is taken from the heap.
-/

namespace Agenda.Heap

universe u v

variable {α : Type u} {β : Type v} {less : α → α → Bool} {less' : β → β → Bool} {n : Nat}

def map (image : α → β) (heap : Heap α less) : Heap β less' := ⟨heap.items.map image⟩

/-- The images compare as the items do. -/
def Reflects (less : α → α → Bool) (less' : β → β → Bool) (image : α → β) : Prop :=
  ∀ first second, less' (image first) (image second) = less first second

variable {image : α → β}

@[simp]
theorem toList_map (heap : Heap α less) :
    (heap.map image : Heap β less').toList = heap.toList.map image := by
  simp [toList, map]

@[simp]
theorem size_map (heap : Heap α less) : (heap.map image : Heap β less').size = heap.size := by
  simp [size, map]

@[simp]
theorem isEmpty_map (heap : Heap α less) :
    (heap.map image : Heap β less').isEmpty = heap.isEmpty := by
  simp [isEmpty, map, Array.isEmpty]

@[simp]
theorem map_empty : ((empty : Heap α less).map image : Heap β less') = empty := by
  simp [empty, map]

@[simp]
theorem peek?_map (heap : Heap α less) :
    (heap.map image : Heap β less').peek? = heap.peek?.map image := by
  simp [peek?, map]

theorem swap_map (items : Vector α n) (first second : Nat) (inside : first < n)
    (within : second < n) :
    (items.map image).swap first second = (items.swap first second).map image := by
  ext index bound
  simp only [Vector.getElem_swap, Vector.getElem_map]
  split
  · rfl
  · split <;> rfl

theorem pop_map (items : Vector α n) : (items.map image).pop = items.pop.map image := by
  ext index bound
  simp only [Vector.getElem_pop, Vector.getElem_map]

theorem siftUp_cast {m : Nat} (same : n = m) (items : Vector α n) (index : Nat) (inside : index < m) :
    siftUp less (items.cast same) index inside =
      (siftUp less items index (same ▸ inside)).cast same := by
  subst same
  rfl

/-- What is left when the root has gone, for items whose number is a variable. -/
theorem tail_mk (items : Vector α n) : (⟨items.toArray⟩ : Heap α less).tail =
    if occupied : 0 < n then
      if remaining : 0 < n - 1 then
        ⟨(siftDown less (items.swap 0 (n - 1)).pop ⟨0, remaining⟩).toArray⟩
      else ⟨(items.swap 0 (n - 1)).pop.toArray⟩
    else ⟨items.toArray⟩ := by
  obtain ⟨items, rfl⟩ := items
  rfl

namespace Reflects

variable (reflects : Reflects less less' image)

include reflects

theorem siftUp (items : Vector α n) (index : Nat) (inside : index < n) :
    Heap.siftUp less' (items.map image) index inside =
      (Heap.siftUp less items index inside).map image := by
  fun_induction Heap.siftUp less items index inside with
  | case1 items inside =>
      rw [Heap.siftUp, dif_pos rfl]
  | case2 items index inside inner closer within below inductionHypothesis =>
      rw [Heap.siftUp, dif_neg inner]
      simp only [Vector.getElem_map, reflects _ _, if_pos below, swap_map, inductionHypothesis]
  | case3 items index inside inner closer within rests =>
      rw [Heap.siftUp, dif_neg inner]
      simp only [Vector.getElem_map, reflects _ _, if_neg rests]

theorem lesser (items : Vector α n) (index : Fin n) (child : Nat) :
    Heap.lesser less' (items.map image) index child = Heap.lesser less items index child := by
  unfold Heap.lesser
  simp only [Fin.getElem_fin, Vector.getElem_map, reflects _ _]

theorem least (items : Vector α n) (index : Fin n) :
    Heap.least less' (items.map image) index = Heap.least less items index := by
  unfold Heap.least
  rw [reflects.lesser, reflects.lesser]

theorem siftDown (items : Vector α n) (index : Fin n) :
    Heap.siftDown less' (items.map image) index = (Heap.siftDown less items index).map image := by
  fun_induction Heap.siftDown less items index with
  | case1 items index rests =>
      rw [Heap.siftDown, dif_pos ((reflects.least items index).trans rests)]
  | case2 items index moves further inductionHypothesis =>
      have same := reflects.least items index
      rw [Heap.siftDown, dif_neg (by rw [same]; exact moves)]
      simp only [same, swap_map, inductionHypothesis]

theorem insert (heap : Heap α less) (item : α) :
    (heap.map image : Heap β less').insert (image item) = (heap.insert item).map image := by
  have length : ((heap.items.map image).push (image item)).size = (heap.items.push item).size := by
    simp
  have images : ((heap.items.map image).push (image item)).toVector.cast length =
      (heap.items.push item).toVector.map image := by
    apply Vector.toArray_inj.1
    simp
  have sifted := reflects.siftUp (heap.items.push item).toVector heap.items.size (by simp)
  rw [← images, siftUp_cast] at sifted
  simpa [Heap.insert, map] using congrArg Vector.toArray sifted

theorem tail (heap : Heap α less) :
    (heap.map image : Heap β less').tail = heap.tail.map image := by
  have images : (heap.map image : Heap β less') = ⟨(heap.items.toVector.map image).toArray⟩ := by
    simp [map]
  rw [images, tail_mk, Heap.tail]
  split
  · split
    · rw [swap_map, pop_map, reflects.siftDown]
      rfl
    · rw [swap_map, pop_map]
      rfl
  · exact images.symm

theorem pop? (heap : Heap α less) : (heap.map image : Heap β less').pop? =
    heap.pop?.map fun (root, rest) => (image root, rest.map image) := by
  rw [Heap.pop?, peek?_map, reflects.tail, Heap.pop?, Option.map_map, Option.map_map]
  rfl

end Reflects

end Agenda.Heap
