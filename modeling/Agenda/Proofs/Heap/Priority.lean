import Agenda.Heap.Order
import Agenda.Heap.Steps
import Agenda.Proofs.Heap.Repair
import Mathlib

/-!
# A heap is a priority queue

Whoever works on an ordered heap from outside sees a bag of items, one of which is shown: no item of
the bag is less than that one, and it is the one that is taken next.
-/

namespace Agenda

universe u

variable {α : Type u} {less : α → α → Bool}

/-- Items without an order, of which a least one is shown unless there is none. -/
structure Bag (α : Type u) (less : α → α → Bool) where
  items : Multiset α
  shown : Option α
  vacant : shown = none ↔ items = 0
  least : ∀ {item}, shown = some item →
    item ∈ items ∧ ∀ other ∈ items, less other item = false

namespace Bag

def empty : Bag α less where
  items := 0
  shown := none
  vacant := by simp
  least := nofun

/-- How a bag answers a step, and what is left of it.  Which one of several least items is shown is
left open whenever the items change. -/
inductive Serves (itemText : α → String) :
    Bag α less → Heap.Step α → Heap.Answer α → Bag α less → Prop where
  | insert {before after : Bag α less} (items : List α) :
      after.items = before.items + items →
      Serves itemText before (.insert items) (.count after.items.card) after
  | peek {bag : Bag α less} {item : α} :
      bag.shown = some item → Serves itemText bag .peek (.item item) bag
  | peekVacant {bag : Bag α less} :
      bag.items = 0 → Serves itemText bag .peek (.failed .empty) bag
  /-- The item that was shown is taken out, once. -/
  | pop {before after : Bag α less} {item : α} :
      before.shown = some item → before.items = item ::ₘ after.items →
      Serves itemText before .pop (.item item) after
  | popVacant {bag : Bag α less} :
      bag.items = 0 → Serves itemText bag .pop (.failed .empty) bag
  | popAll {before after : Bag α less} {items : List α} :
      before.items = items → before.shown = items.head? →
      items.Pairwise (fun earlier later => less later earlier = false) → after.items = 0 →
      Serves itemText before .popAll (.items items) after
  | size {bag : Bag α less} : Serves itemText bag .size (.count bag.items.card) bag
  | isEmpty {bag : Bag α less} {flag : Bool} :
      (flag = true ↔ bag.items = 0) → Serves itemText bag .isEmpty (.flag flag) bag
  /-- Nothing is left, however many of the items are handed over. -/
  | drain {before after : Bag α less} {items : List α} (limit : Option Nat) :
      before.items = items → before.shown = items.head? → after.items = 0 →
      Serves itemText before (.drain limit)
        (.items (match limit with | none => items | some limit => items.take limit)) after
  | debug {bag : Bag α less} :
      Serves itemText bag .debug
        (.text (Text.record "OrderedQueue" [("len", toString bag.items.card),
          ("min", Text.optional (bag.shown.map itemText))])) bag

inductive Conforms (itemText : α → String) :
    Bag α less → List (Heap.Step α) → List (Heap.Answer α) → Prop where
  | nil {bag : Bag α less} : Conforms itemText bag [] []
  | cons {bag next : Bag α less} {step : Heap.Step α} {steps : List (Heap.Step α)}
      {answer : Heap.Answer α} {answers : List (Heap.Answer α)} :
      Serves itemText bag step answer next → Conforms itemText next steps answers →
      Conforms itemText bag (step :: steps) (answer :: answers)

end Bag

namespace Heap

section Ordered

variable [IsStrictWeakOrder α fun a b => less a b = true]

theorem isOrdered_foldl_insert {heap : Heap α less} (ordered : heap.IsOrdered) (items : List α) :
    (items.foldl insert heap).IsOrdered := by
  induction items generalizing heap with
  | nil => exact ordered
  | cons item items inductionHypothesis => exact inductionHypothesis (isOrdered_insert ordered item)

theorem pairwise_popAll {heap : Heap α less} (ordered : heap.IsOrdered) :
    heap.popAll.Pairwise fun earlier later => less later earlier = false := by
  fun_induction popAll heap with
  | case1 heap vacant => exact .nil
  | case2 heap root rest popped smaller inductionHypothesis =>
      obtain ⟨seen, same⟩ := pop?_eq_some_iff.1 popped
      refine List.pairwise_cons.2 ⟨?_, inductionHypothesis (same ▸ isOrdered_tail ordered)⟩
      intro item listed
      have held : item ∈ rest.toList := (popAll_perm rest).mem_iff.1 listed
      exact less_root ordered seen ((mem_iff_of_pop? popped).2 (.inr held))

def bag (heap : Heap α less) (ordered : heap.IsOrdered) : Bag α less where
  items := heap.toList
  shown := heap.peek?
  vacant := by
    rw [peek?_eq_none_iff, Multiset.coe_eq_zero, ← List.length_eq_zero_iff, length_toList]
  least seen := by
    refine ⟨?_, fun other held => less_root ordered seen held⟩
    rw [peek?_eq_head?] at seen
    exact List.mem_of_head? seen

/-- Every step on an ordered heap is a step on its bag. -/
theorem serves_perform (itemText : α → String) {heap : Heap α less} (ordered : heap.IsOrdered)
    (step : Step α) : ∃ still : (heap.perform itemText step).2.IsOrdered,
      (heap.bag ordered).Serves itemText step (heap.perform itemText step).1
        ((heap.perform itemText step).2.bag still) := by
  cases step with
  | insert items =>
      have still := isOrdered_foldl_insert ordered items
      have filled : ((items.foldl insert heap).bag still).items = (heap.bag ordered).items + items :=
        Multiset.coe_eq_coe.2 (toList_foldl_insert_perm heap items)
      exact ⟨still, Bag.Serves.insert items filled⟩
  | peek =>
      cases seen : heap.peek? with
      | none =>
          simp only [perform, seen]
          exact ⟨ordered, .peekVacant ((heap.bag ordered).vacant.1 seen)⟩
      | some root =>
          simp only [perform, seen]
          exact ⟨ordered, .peek seen⟩
  | pop =>
      cases popped : heap.pop? with
      | none =>
          have seen : heap.peek? = none := peek?_eq_none_iff.2 (pop?_eq_none_iff.1 popped)
          simp only [perform, popped]
          exact ⟨ordered, .popVacant ((heap.bag ordered).vacant.1 seen)⟩
      | some taken =>
          obtain ⟨root, rest⟩ := taken
          obtain ⟨seen, same⟩ := pop?_eq_some_iff.1 popped
          simp only [perform, popped]
          refine ⟨same ▸ isOrdered_tail ordered, .pop seen ?_⟩
          exact Multiset.coe_eq_coe.2 (toList_pop?_perm popped)
  | popAll =>
      refine ⟨isOrdered_empty, .popAll ?_ (head?_popAll heap).symm (pairwise_popAll ordered) rfl⟩
      exact Multiset.coe_eq_coe.2 (popAll_perm heap).symm
  | size => exact ⟨ordered, .size⟩
  | isEmpty =>
      refine ⟨ordered, .isEmpty ?_⟩
      rw [isEmpty, Array.isEmpty_iff, ← Array.toList_eq_nil_iff]
      exact (Multiset.coe_eq_zero _).symm
  | drain limit => exact ⟨isOrdered_empty, .drain limit rfl (peek?_eq_head? heap) rfl⟩
  | debug => exact ⟨ordered, .debug⟩

theorem conforms_answers (itemText : α → String) {heap : Heap α less} (ordered : heap.IsOrdered)
    (steps : List (Step α)) :
    (heap.bag ordered).Conforms itemText steps (heap.answers itemText steps) := by
  induction steps generalizing heap with
  | nil => exact .nil
  | cons step steps inductionHypothesis =>
      obtain ⟨still, serves⟩ := serves_perform itemText ordered step
      exact .cons serves (inductionHypothesis still)

/-- A heap that was empty at first answers every sequence of steps as a bag does. -/
theorem conforms_answers_empty (itemText : α → String) (steps : List (Step α)) :
    (Bag.empty : Bag α less).Conforms itemText steps
      ((empty : Heap α less).answers itemText steps) :=
  conforms_answers itemText isOrdered_empty steps

end Ordered

end Heap

instance : IsStrictWeakOrder Int fun a b => NumberOrder.magnitude.less a b = true where
  irrefl a := by simp [NumberOrder.less]
  trans a b c := by
    simp only [NumberOrder.less, decide_eq_true_eq]
    omega
  incomp_trans a b c := by
    simp only [NumberOrder.less, decide_eq_true_eq]
    omega

/-- Numbers of the same magnitude are told apart although none of them is less: the one that is
popped is the one that was shown. -/
theorem conforms_answers_of_magnitudes :
    IsStrictWeakOrder Int (fun a b => NumberOrder.magnitude.less a b = true) ∧
      (Bag.empty : Bag Int NumberOrder.magnitude.less).Conforms toString
        [.insert [2, -1, 1], .peek, .pop, .pop, .drain (some 0), .pop]
        [.count 3, .item (-1), .item (-1), .item 1, .items [], .failed .empty] := by
  refine ⟨inferInstance, ?_⟩
  have answers : (Heap.empty : Heap Int NumberOrder.magnitude.less).answers toString
      [.insert [2, -1, 1], .peek, .pop, .pop, .drain (some 0), .pop] =
      [.count 3, .item (-1), .item (-1), .item 1, .items [], .failed .empty] := by
    cbv
  rw [← answers]
  exact Heap.conforms_answers_empty toString _

end Agenda
