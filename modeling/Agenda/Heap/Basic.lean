/-!
A binary heap over an array, ordered by any comparison.

The array is read as a complete binary tree: the children of the item at index `i` are at
`2 * i + 1` and `2 * i + 2`.  An item enters at the end and moves towards the root while it is
less than its parent; when the root leaves, the last item takes its place and moves down while
a child is less.  Nothing is asked of the comparison: both walks end, stay inside the array
and only swap items.  The order of equal items follows from these two walks.
-/

namespace Agenda

universe u

/-- Items kept so that none is less than the item it hangs under. -/
structure Heap (α : Type u) (less : α → α → Bool) where
  items : Array α
  deriving Repr

namespace Heap

variable {α : Type u} {less : α → α → Bool} {n : Nat}

def parent (index : Nat) : Nat := (index - 1) / 2

theorem parent_lt {index : Nat} (inner : index ≠ 0) : parent index < index := by
  unfold parent
  omega

def siftUp (less : α → α → Bool) (items : Vector α n) (index : Nat)
    (inside : index < n) : Vector α n :=
  if inner : index = 0 then
    items
  else
    have closer : parent index < index := parent_lt inner
    have parentInside : parent index < n := Nat.lt_trans closer inside
    if less items[index] items[parent index] then
      siftUp less (items.swap index (parent index)) (parent index) parentInside
    else
      items
termination_by index

/-- Of `index` and `child`, the one that holds the lesser item.  A child outside the array
never wins, and neither does one that is not strictly less. -/
def lesser (less : α → α → Bool) (items : Vector α n) (index : Fin n)
    (child : Nat) : Fin n :=
  if inside : child < n then
    if less items[child] items[index] then ⟨child, inside⟩ else index
  else
    index

theorem lesser_eq (less : α → α → Bool) (items : Vector α n) (index : Fin n) (child : Nat) :
    lesser less items index child = index ∨ (lesser less items index child).val = child := by
  unfold lesser
  split
  · split <;> simp
  · simp

/-- The index of the least item among `index` and its two children: the left child is tried
first, and the right child has to be less than the winner of that. -/
def least (less : α → α → Bool) (items : Vector α n) (index : Fin n) : Fin n :=
  lesser less items (lesser less items index (2 * index.val + 1)) (2 * index.val + 2)

theorem least_eq (less : α → α → Bool) (items : Vector α n) (index : Fin n) :
    least less items index = index ∨
      (least less items index).val = 2 * index.val + 1 ∨
      (least less items index).val = 2 * index.val + 2 := by
  unfold least
  rcases lesser_eq less items (lesser less items index (2 * index.val + 1))
      (2 * index.val + 2) with kept | right
  · rw [kept]
    rcases lesser_eq less items index (2 * index.val + 1) with kept | left
    · exact Or.inl kept
    · exact Or.inr (Or.inl left)
  · exact Or.inr (Or.inr right)

theorem lt_least {items : Vector α n} {index : Fin n}
    (moved : least less items index ≠ index) :
    index.val < (least less items index).val := by
  rcases least_eq less items index with kept | left | right
  · exact absurd kept moved
  · omega
  · omega

def siftDown (less : α → α → Bool) (items : Vector α n) (index : Fin n) :
    Vector α n :=
  if moved : least less items index = index then
    items
  else
    have further : index.val < (least less items index).val := lt_least moved
    siftDown less (items.swap index (least less items index)) (least less items index)
termination_by n - index.val

def empty : Heap α less := ⟨#[]⟩

instance : Inhabited (Heap α less) := ⟨empty⟩

def size (heap : Heap α less) : Nat := heap.items.size

def isEmpty (heap : Heap α less) : Bool := heap.items.isEmpty

def toList (heap : Heap α less) : List α := heap.items.toList

def peek? (heap : Heap α less) : Option α := heap.items[0]?

def insert (heap : Heap α less) (item : α) : Heap α less :=
  ⟨(siftUp less (heap.items.push item).toVector heap.items.size (by simp)).toArray⟩

/-- The items that are left when the root has gone: the last one takes its place. -/
def tail (heap : Heap α less) : Heap α less :=
  if occupied : 0 < heap.items.size then
    let rest := (heap.items.toVector.swap 0 (heap.items.size - 1)).pop
    if remaining : 0 < heap.items.size - 1 then
      ⟨(siftDown less rest ⟨0, remaining⟩).toArray⟩
    else
      ⟨rest.toArray⟩
  else
    heap

def pop? (heap : Heap α less) : Option (α × Heap α less) :=
  heap.peek?.map fun root => (root, heap.tail)

/-- All items in the order of the array, and the heap without them. -/
def drain (heap : Heap α less) : List α × Heap α less :=
  (heap.toList, empty)

@[simp]
theorem size_empty : (empty : Heap α less).size = 0 := rfl

@[simp]
theorem toList_empty : (empty : Heap α less).toList = [] := rfl

@[simp]
theorem peek?_empty : (empty : Heap α less).peek? = none := rfl

@[simp]
theorem length_toList (heap : Heap α less) : heap.toList.length = heap.size := rfl

@[simp]
theorem size_insert (heap : Heap α less) (item : α) :
    (heap.insert item).size = heap.size + 1 := by
  simp [insert, size]

@[simp]
theorem size_tail (heap : Heap α less) : heap.tail.size = heap.size - 1 := by
  unfold tail
  split
  · split <;> simp [size]
  · simp only [size] at *
    omega

theorem peek?_eq_none_iff {heap : Heap α less} : heap.peek? = none ↔ heap.size = 0 := by
  simp [peek?, size]

theorem pop?_eq_some_iff {heap rest : Heap α less} {root : α} :
    heap.pop? = some (root, rest) ↔ heap.peek? = some root ∧ rest = heap.tail := by
  simp only [pop?, Option.map_eq_some_iff, Prod.mk.injEq]
  constructor
  · rintro ⟨_, seen, rfl, rfl⟩
    exact ⟨seen, rfl⟩
  · rintro ⟨seen, rfl⟩
    exact ⟨root, seen, rfl, rfl⟩

theorem pop?_eq_none_iff {heap : Heap α less} : heap.pop? = none ↔ heap.size = 0 := by
  rw [pop?, Option.map_eq_none_iff, peek?_eq_none_iff]

theorem size_of_pop? {heap rest : Heap α less} {root : α}
    (popped : heap.pop? = some (root, rest)) : rest.size + 1 = heap.size := by
  obtain ⟨seen, rfl⟩ := pop?_eq_some_iff.1 popped
  have occupied : heap.size ≠ 0 := by
    intro vacant
    rw [peek?_eq_none_iff.2 vacant] at seen
    cases seen
  rw [size_tail]
  omega

def popAll (heap : Heap α less) : List α :=
  match popped : heap.pop? with
  | none => []
  | some (root, rest) =>
      have : rest.size + 1 = heap.size := size_of_pop? popped
      root :: popAll rest
termination_by heap.size

end Heap

end Agenda
