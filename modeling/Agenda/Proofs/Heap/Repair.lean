import Agenda.Heap.Contents
import Mathlib.Order.Defs.Unbundled

/-!
# Repair of a heap

Both walks mend a heap that is out of order around one index.  While an item moves towards the
root, only that item may be less than the one it hangs under; while it moves away from the root,
only its children may be less than it.  In both cases the children of the moving item have to
fit under the item above it, since a swap may bring them there.
-/

namespace Agenda.Heap

universe u

variable {α : Type u} {less : α → α → Bool} {n : Nat}

/-- The item at `index` is not less than the one it hangs under. -/
def InPlace (less : α → α → Bool) (items : Vector α n) (index : Nat) : Prop :=
  ∀ (inside : index < n) (above : parent index < n), index ≠ 0 →
    less items[index] items[parent index] = false

/-- No child of the item at `index` is less than the item above that. -/
def Bridged (less : α → α → Bool) (items : Vector α n) (index : Nat) : Prop :=
  ∀ (child : Nat) (inside : child < n) (above : parent index < n),
    child ≠ 0 → parent child = index → index ≠ 0 →
      less items[child] items[parent index] = false

def IsOrdered (heap : Heap α less) : Prop :=
  ∀ (index : Nat) (inside : index < heap.items.size) (above : parent index < heap.items.size),
    index ≠ 0 → less heap.items[index] heap.items[parent index] = false

theorem isOrdered_ofVector {items : Vector α n} (placed : ∀ index, InPlace less items index) :
    IsOrdered (⟨items.toArray⟩ : Heap α less) := by
  intro index inside above inner
  exact placed index (by simpa using inside) (by simpa using above) inner

section Comparison

variable [IsStrictWeakOrder α fun a b => less a b = true]

theorem less_self (less : α → α → Bool) [IsStrictWeakOrder α fun a b => less a b = true]
    (a : α) : less a a = false := by
  apply Bool.eq_false_iff.2
  exact irrefl_of (fun a b => less a b = true) a

theorem less_flip {a b : α} (lower : less a b = true) : less b a = false := by
  apply Bool.eq_false_iff.2
  intro higher
  exact asymm_of (fun a b => less a b = true) lower higher

theorem not_less_trans {a b c : α} (first : less a b = false) (second : less b c = false) :
    less a c = false := by
  apply Bool.eq_false_iff.2
  intro lower
  have before : ¬ less b a = true := by
    intro higher
    have through : less b c = true := trans_of (fun a b => less a b = true) higher lower
    rw [second] at through
    cases through
  have after : ¬ less c b = true := by
    intro higher
    have through : less a b = true := trans_of (fun a b => less a b = true) lower higher
    rw [first] at through
    cases through
  have level := @IsStrictWeakOrder.incomp_trans α (fun a b => less a b = true) _ a b c
    ⟨by simp [first], before⟩ ⟨by simp [second], after⟩
  exact level.1 lower

end Comparison

theorem parent_eq_iff {child index : Nat} (inner : child ≠ 0) :
    parent child = index ↔ child = 2 * index + 1 ∨ child = 2 * index + 2 := by
  unfold parent
  omega

theorem lesser_less {items : Vector α n} {index : Fin n} {child : Nat}
    (moved : lesser less items index child ≠ index) :
    less items[lesser less items index child] items[index] = true := by
  unfold lesser at moved ⊢
  split at moved
  · rename_i inside
    split at moved
    · rename_i lower
      simp only [inside, dite_true, lower, if_true]
      exact lower
    · exact absurd rfl moved
  · exact absurd rfl moved

theorem least_hangs {items : Vector α n} {index : Fin n} (moved : least less items index ≠ index) :
    (least less items index).val ≠ 0 ∧ parent (least less items index).val = index.val := by
  have further := lt_least moved
  have inner : (least less items index).val ≠ 0 := by omega
  refine ⟨inner, (parent_eq_iff inner).2 ?_⟩
  rcases least_eq less items index with kept | child
  · exact absurd kept moved
  · exact child

theorem bridged_swap_least {items : Vector α n} {index : Fin n}
    (moved : least less items index ≠ index)
    (placed : ∀ other, parent other ≠ index.val → InPlace less items other) :
    Bridged less (items.swap index (least less items index)) (least less items index).val := by
  have further := lt_least moved
  obtain ⟨childInner, hangs⟩ := least_hangs moved
  intro child inside above inner below _
  have deeper := parent_lt inner
  have leaf := placed child (by omega) inside (by omega) inner
  simp only [hangs, Vector.getElem_swap_left]
  rw [Vector.getElem_swap_of_ne (by omega) (by omega)]
  simp only [below] at leaf
  exact leaf

section SiftUp

variable [IsStrictWeakOrder α fun a b => less a b = true]

theorem inPlace_swap_parent {items : Vector α n} {index : Nat} (inner : index ≠ 0)
    (inside : index < n) (above : parent index < n)
    (placed : ∀ other, other ≠ index → InPlace less items other)
    (bridged : Bridged less items index)
    (lower : less items[index] items[parent index] = true) (other : Nat)
    (apart : other ≠ parent index) :
    InPlace less (items.swap index (parent index)) other := by
  have closer := parent_lt inner
  intro otherInside otherAbove otherInner
  by_cases same : other = index
  · subst same
    rw [Vector.getElem_swap_left, Vector.getElem_swap_right]
    exact less_flip lower
  · rw [Vector.getElem_swap_of_ne same apart]
    by_cases child : parent other = index
    · subst child
      rw [Vector.getElem_swap_left]
      exact bridged other otherInside above otherInner rfl inner
    · by_cases sibling : parent other = parent index
      · have beside := placed other same otherInside otherAbove otherInner
        simp only [sibling, Vector.getElem_swap_right] at beside ⊢
        exact not_less_trans beside (less_flip lower)
      · rw [Vector.getElem_swap_of_ne child sibling]
        exact placed other same otherInside otherAbove otherInner

theorem bridged_swap_parent {items : Vector α n} {index : Nat} (inner : index ≠ 0)
    (inside : index < n) (above : parent index < n)
    (placed : ∀ other, other ≠ index → InPlace less items other) :
    Bridged less (items.swap index (parent index)) (parent index) := by
  have closer := parent_lt inner
  intro child childInside top childInner hangs topInner
  have further := parent_lt topInner
  have stem := placed (parent index) (by omega) above top topInner
  rw [Vector.getElem_swap_of_ne (k := parent (parent index)) (by omega) (by omega)]
  by_cases same : child = index
  · subst same
    rw [Vector.getElem_swap_left]
    exact stem
  · have below := parent_lt childInner
    have leaf := placed child same childInside (by omega) childInner
    rw [Vector.getElem_swap_of_ne same (by omega)]
    simp only [hangs] at leaf
    exact not_less_trans leaf stem

theorem inPlace_siftUp {items : Vector α n} {index : Nat} (inside : index < n)
    (placed : ∀ other, other ≠ index → InPlace less items other)
    (bridged : Bridged less items index) (other : Nat) :
    InPlace less (siftUp less items index inside) other := by
  -- Both hypotheses are kept by a swap, for the parent in the place of the index.
  induction index using Nat.strongRecOn generalizing items with
  | _ index closerOnes =>
      rw [siftUp]
      by_cases inner : index = 0
      · rw [dif_pos inner]
        intro otherInside otherAbove otherInner
        exact placed other (by omega) otherInside otherAbove otherInner
      · rw [dif_neg inner]
        have closer := parent_lt inner
        have above : parent index < n := by omega
        dsimp only
        split
        · rename_i lower
          apply closerOnes (parent index) closer above
          · exact inPlace_swap_parent inner inside above placed bridged lower
          · exact bridged_swap_parent inner inside above placed
        · rename_i kept
          by_cases same : other = index
          · subst same
            intro _ _ _
            simpa using kept
          · exact placed other same

end SiftUp

section SiftDown

variable [IsStrictWeakOrder α fun a b => less a b = true]

theorem less_lesser (less : α → α → Bool) [IsStrictWeakOrder α fun a b => less a b = true]
    (items : Vector α n) (index : Fin n) (child : Nat) :
    less items[index] items[lesser less items index child] = false ∧
      ∀ inside : child < n, less items[child] items[lesser less items index child] = false := by
  unfold lesser
  split
  · split
    · rename_i lower
      exact ⟨less_flip lower, fun _ => less_self less _⟩
    · rename_i kept
      exact ⟨less_self less _, fun _ => by simpa using kept⟩
  · rename_i outside
    exact ⟨less_self less _, fun inside => absurd inside outside⟩

theorem less_least (less : α → α → Bool) [IsStrictWeakOrder α fun a b => less a b = true]
    (items : Vector α n) (index : Fin n) {first : Fin n} (chosen : least less items index = first) :
    less items[index] items[first] = false ∧
      ∀ child, (inside : child < n) → child ≠ 0 → parent child = index.val →
        less items[child] items[first] = false := by
  subst chosen
  have left := less_lesser less items index (2 * index.val + 1)
  have right := less_lesser less items
    (lesser less items index (2 * index.val + 1)) (2 * index.val + 2)
  unfold least
  refine ⟨not_less_trans left.1 right.1, ?_⟩
  intro child inside inner hangs
  rcases (parent_eq_iff inner).1 hangs with first | second
  · subst first
    exact not_less_trans (left.2 inside) right.1
  · subst second
    exact right.2 inside

theorem least_less {items : Vector α n} {index : Fin n} (moved : least less items index ≠ index) :
    less items[least less items index] items[index] = true := by
  have twice : least less items index
      = lesser less items (lesser less items index (2 * index.val + 1)) (2 * index.val + 2) := rfl
  by_cases kept : lesser less items index (2 * index.val + 1) = index
  · rw [kept] at twice
    rw [twice] at moved
    simpa only [twice] using lesser_less moved
  · have first := lesser_less kept
    have second := (less_lesser less items
      (lesser less items index (2 * index.val + 1)) (2 * index.val + 2)).1
    apply Bool.not_eq_false _ |>.mp
    intro level
    have back := not_less_trans second level
    rw [first] at back
    cases back

/-- A swap with the least child leaves only the children of that child's index out of order. -/
theorem inPlace_swap_least {items : Vector α n} {index : Fin n}
    (moved : least less items index ≠ index)
    (placed : ∀ other, parent other ≠ index.val → InPlace less items other)
    (bridged : Bridged less items index.val) (other : Nat)
    (apart : parent other ≠ (least less items index).val) :
    InPlace less (items.swap index (least less items index)) other := by
  have further := lt_least moved
  obtain ⟨childInner, hangs⟩ := least_hangs moved
  intro inside above inner
  by_cases child : parent other = index.val
  · simp only [child, Vector.getElem_swap_left]
    by_cases same : other = (least less items index).val
    · simp only [same, Vector.getElem_swap_right]
      exact less_flip (least_less moved)
    · have below := parent_lt inner
      rw [Vector.getElem_swap_of_ne (by omega) same]
      exact (less_least less items index rfl).2 other inside inner child
  · by_cases top : other = index.val
    · subst top
      rw [Vector.getElem_swap_left, Vector.getElem_swap_of_ne child apart]
      exact bridged (least less items index).val (least less items index).isLt above childInner
        hangs inner
    · have different : other ≠ (least less items index).val := by
        intro same
        subst same
        exact child hangs
      rw [Vector.getElem_swap_of_ne top different, Vector.getElem_swap_of_ne child apart]
      exact placed other child inside above inner

theorem inPlace_siftDown {items : Vector α n} {index : Fin n}
    (placed : ∀ other, parent other ≠ index.val → InPlace less items other)
    (bridged : Bridged less items index.val) (other : Nat) :
    InPlace less (siftDown less items index) other := by
  induction left : n - index.val using Nat.strongRecOn generalizing items index with
  | _ left furtherOnes =>
      rw [siftDown]
      split
      · rename_i kept
        by_cases child : parent other = index.val
        · intro inside above inner
          have lowest := (less_least less items index rfl).2 other inside inner child
          simpa only [kept, child, Fin.getElem_fin] using lowest
        · exact placed other child
      · rename_i moved
        have further := lt_least moved
        exact furtherOnes (n - (least less items index).val) (by omega)
          (inPlace_swap_least moved placed bridged) (bridged_swap_least moved placed) rfl

end SiftDown

@[simp]
theorem isOrdered_empty : (empty : Heap α less).IsOrdered := by
  intro index inside
  exact absurd inside (Nat.not_lt_zero index)

section Heap

variable [IsStrictWeakOrder α fun a b => less a b = true]

theorem isOrdered_insert {heap : Heap α less} (ordered : heap.IsOrdered) (item : α) :
    (heap.insert item).IsOrdered := by
  have size : (heap.items.push item).size = heap.items.size + 1 := Array.size_push ..
  apply isOrdered_ofVector
  intro index
  apply inPlace_siftUp
  · intro other earlier inside above inner
    have closer := parent_lt inner
    have old : other < heap.items.size := by omega
    have oldAbove : parent other < heap.items.size := by omega
    have known := ordered other old oldAbove inner
    simpa [Array.getElem_push, old, oldAbove] using known
  · intro child inside above inner hangs
    have closer := parent_lt inner
    omega

theorem isOrdered_tail {heap : Heap α less} (ordered : heap.IsOrdered) : heap.tail.IsOrdered := by
  unfold tail
  split
  · dsimp only
    split
    · rename_i remaining
      apply isOrdered_ofVector
      intro index
      apply inPlace_siftDown
      · intro other apart inside above inner
        have stem : parent other ≠ 0 := apart
        have known := ordered other (by omega) (by omega) inner
        have unmoved : other ≠ heap.items.size - 1 := by omega
        have unmovedAbove : parent other ≠ heap.items.size - 1 := by omega
        simpa [Vector.getElem_swap, unmoved, unmovedAbove, inner, stem] using known
      · intro child inside above inner hangs root
        exact absurd rfl root
    · intro index inside
      have vacant : index < heap.items.size - 1 := by simpa using inside
      omega
  · exact ordered

theorem less_root {heap : Heap α less} (ordered : heap.IsOrdered) {root item : α}
    (seen : heap.peek? = some root) (held : item ∈ heap.toList) : less item root = false := by
  obtain ⟨occupied, found⟩ := Array.getElem?_eq_some_iff.1 seen
  obtain ⟨index, inside, same⟩ := List.getElem_of_mem held
  rw [← same, ← found]
  clear same
  induction index using Nat.strongRecOn with
  | _ index closerOnes =>
      by_cases inner : index = 0
      · subst inner
        exact less_self less _
      · have closer := parent_lt inner
        have above : parent index < heap.items.size := Nat.lt_trans closer inside
        exact not_less_trans (ordered index inside above inner)
          (closerOnes (parent index) closer above)

end Heap

end Agenda.Heap
