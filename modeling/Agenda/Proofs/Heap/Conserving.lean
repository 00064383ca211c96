import Agenda.Heap.Steps
import Agenda.Proofs.Heap.Walking

/-!
# What a heap does under any comparison

A comparison need not be an order for a heap to be safe.  Both walks end inside the array, nothing
is lost, doubled or invented on the way, and what is popped is what was shown.
-/

namespace Agenda.Heap

universe u

variable {α : Type u} {less : α → α → Bool}

def Step.incoming : Step α → List α
  | .insert items => items
  | _ => []

def Answer.contents : Answer α → List α
  | .item shown => [shown]
  | .items listed => listed
  | _ => []

/-- The items that are gone when a step is over, though it has not handed them over. -/
def Step.leftover (heap : Heap α less) : Step α → List α
  | .drain (some limit) => heap.toList.drop limit
  | _ => []

/-- The items that a step takes out of a heap. -/
def outgoing (itemText : α → String) (heap : Heap α less) : Step α → List α
  | .peek => []
  | step => (heap.perform itemText step).1.contents ++ step.leftover heap

def departed (itemText : α → String) (heap : Heap α less) : List (Step α) → List α
  | [] => []
  | step :: steps =>
      heap.outgoing itemText step ++ (heap.perform itemText step).2.departed itemText steps

def after (itemText : α → String) (heap : Heap α less) (steps : List (Step α)) : Heap α less :=
  steps.foldl (fun heap step => (heap.perform itemText step).2) heap

theorem after_append (itemText : α → String) (heap : Heap α less) (steps later : List (Step α)) :
    heap.after itemText (steps ++ later) = (heap.after itemText steps).after itemText later :=
  List.foldl_append

theorem answers_append (itemText : α → String) (heap : Heap α less) (steps later : List (Step α)) :
    heap.answers itemText (steps ++ later) =
      heap.answers itemText steps ++ (heap.after itemText steps).answers itemText later := by
  induction steps generalizing heap with
  | nil => rfl
  | cons step steps inductionHypothesis =>
      simp only [List.cons_append, answers, inductionHypothesis, after, List.foldl_cons]

/-- What can be relied on when an item is inserted into the heap or taken from it. -/
structure Safe (itemText : α → String) (heap : Heap α less) : Prop where
  climbs : ∀ item, ∃ rounds,
    Walk (climb less) (heap.items.push item) heap.size rounds (heap.insert item).items ∧
      2 ^ rounds ≤ 2 * (heap.size + 1)
  gains : ∀ item, (heap.insert item).toList.Perm (item :: heap.toList)
  /-- The last item takes the place of the root, and goes down from there if there is any other. -/
  sinks : ∀ root rest, heap.pop? = some (root, rest) → (heap.size = 1 ∧ rest.size = 0) ∨ ∃ rounds,
    Walk (sink less) (heap.items.swapIfInBounds 0 (heap.size - 1)).pop 0 rounds rest.items ∧
      2 ^ rounds ≤ 2 * (heap.size - 1)
  loses : ∀ root rest, heap.pop? = some (root, rest) → heap.toList.Perm (root :: rest.toList)
  shows : (heap.perform itemText .pop).1 = (heap.perform itemText .peek).1
  fails : (heap.perform itemText .pop).1 = .failed .empty ↔ heap.toList = []
  /-- A drain hands over each item once, or as many of these as it is asked for. -/
  drains : ∃ items, items.Perm heap.toList ∧
    heap.perform itemText (.drain none) = (.items items, empty) ∧
      ∀ limit, heap.perform itemText (.drain (some limit)) = (.items (items.take limit), empty)

structure Withstands (itemText : α → String) (heap : Heap α less) (steps : List (Step α)) :
    Prop where
  safe : (heap.after itemText steps).Safe itemText
  conserved : (heap.toList ++ steps.flatMap Step.incoming).Perm
    (heap.departed itemText steps ++ (heap.after itemText steps).toList)

theorem exists_walk_insert (heap : Heap α less) (item : α) : ∃ rounds,
    Walk (climb less) (heap.items.push item) heap.size rounds (heap.insert item).items ∧
      2 ^ rounds ≤ 2 * (heap.size + 1) :=
  exists_walk_climb less (heap.items.push item).toVector heap.items.size (by simp)

theorem exists_walk_pop? {heap rest : Heap α less} {root : α}
    (popped : heap.pop? = some (root, rest)) : (heap.size = 1 ∧ rest.size = 0) ∨ ∃ rounds,
      Walk (sink less) (heap.items.swapIfInBounds 0 (heap.size - 1)).pop 0 rounds rest.items ∧
        2 ^ rounds ≤ 2 * (heap.size - 1) := by
  have smaller := size_of_pop? popped
  obtain ⟨_, rfl⟩ := pop?_eq_some_iff.1 popped
  by_cases alone : heap.size = 1
  · exact .inl ⟨alone, by omega⟩
  · have occupied : 0 < heap.items.size := by
      unfold size at smaller
      omega
    have remaining : 0 < heap.items.size - 1 := by
      unfold size at alone
      omega
    obtain ⟨rounds, walk, few⟩ := exists_walk_sink less
      (heap.items.toVector.swap 0 (heap.items.size - 1)).pop ⟨0, remaining⟩
    have fewer : 2 ^ rounds ≤ 2 * (heap.size - 1) := by simpa [size] using few
    refine .inr ⟨rounds, ?_, fewer⟩
    have entered : ((heap.items.toVector.swap 0 (heap.items.size - 1)).pop).toArray =
        (heap.items.swapIfInBounds 0 (heap.size - 1)).pop := by
      have inside : heap.items.size - 1 < heap.items.size := by omega
      simp [size, Array.swapIfInBounds_def, occupied, inside]
    rw [tail, dif_pos occupied]
    dsimp only
    rw [dif_pos remaining, ← entered]
    exact walk

theorem fst_perform_pop (itemText : α → String) (heap : Heap α less) :
    (heap.perform itemText .pop).1 = (heap.perform itemText .peek).1 := by
  simp only [perform, pop?]
  cases heap.peek? <;> rfl

theorem fst_perform_pop_eq_failed_iff {itemText : α → String} {heap : Heap α less} :
    (heap.perform itemText .pop).1 = .failed .empty ↔ heap.toList = [] := by
  rw [← List.length_eq_zero_iff, length_toList, ← pop?_eq_none_iff, perform]
  cases heap.pop? <;> simp

theorem safe (itemText : α → String) (heap : Heap α less) : heap.Safe itemText where
  climbs := exists_walk_insert heap
  gains := toList_insert_perm heap
  sinks _ _ := exists_walk_pop?
  loses _ _ := toList_pop?_perm
  shows := fst_perform_pop itemText heap
  fails := fst_perform_pop_eq_failed_iff
  drains := ⟨heap.toList, .refl _, rfl, fun _ => rfl⟩

/-- What was there and what a step puts in is what it takes out and what it leaves. -/
theorem perm_perform (itemText : α → String) (heap : Heap α less) (step : Step α) :
    (heap.toList ++ step.incoming).Perm
      (heap.outgoing itemText step ++ (heap.perform itemText step).2.toList) := by
  cases step with
  | insert items =>
      simpa [Step.incoming, outgoing, Step.leftover, perform, Answer.contents] using
        (toList_foldl_insert_perm heap items).symm
  | pop =>
      cases popped : heap.pop? with
      | none => simp [Step.incoming, outgoing, Step.leftover, perform, popped, Answer.contents]
      | some taken =>
          simpa [Step.incoming, outgoing, Step.leftover, perform, popped, Answer.contents] using
            toList_pop?_perm popped
  | popAll =>
      simpa [Step.incoming, outgoing, Step.leftover, perform, Answer.contents] using
        (popAll_perm heap).symm
  | drain limit =>
      cases limit <;> simp [Step.incoming, outgoing, Step.leftover, perform, drain, Answer.contents]
  | peek =>
      simp only [Step.incoming, outgoing, perform, List.append_nil, List.nil_append]
      split <;> rfl
  | _ => simp [Step.incoming, outgoing, Step.leftover, perform, Answer.contents]

theorem perm_after (itemText : α → String) (heap : Heap α less) (steps : List (Step α)) :
    (heap.toList ++ steps.flatMap Step.incoming).Perm
      (heap.departed itemText steps ++ (heap.after itemText steps).toList) := by
  induction steps generalizing heap with
  | nil => simp [departed, after]
  | cons step steps inductionHypothesis =>
      have first := perm_perform itemText heap step
      have later := inductionHypothesis (heap.perform itemText step).2
      rw [List.flatMap_cons, departed, ← List.append_assoc, List.append_assoc (outgoing ..)]
      refine (first.append_right _).trans ?_
      rw [List.append_assoc]
      exact later.append_left _

/-- Whatever the comparison says, every sequence of steps keeps the items and leaves a heap that is
safe to work on. -/
theorem withstands (itemText : α → String) (heap : Heap α less) (steps : List (Step α)) :
    heap.Withstands itemText steps :=
  ⟨safe itemText _, perm_after itemText heap steps⟩

/-- If every item is said to be less than every other one, the last one inserted is popped first.  Of
the two that are drained one is handed over. -/
theorem withstands_everything_less :
    let heap : Heap Nat fun _ _ => true := empty
    let steps : List (Step Nat) := [.insert [3, 1, 2], .peek, .pop, .drain (some 1), .pop]
    heap.Withstands toString steps ∧
      heap.answers toString steps =
        [.count 3, .item 2, .item 2, .items [3], .failed .empty] ∧
      heap.departed toString steps = [2, 3, 1] :=
  ⟨withstands _ _ _, by cbv, by cbv⟩

end Agenda.Heap
