import Agenda.Proofs.Heap.Conserving
import Agenda.Proofs.Heap.Mapping

/-!
# Work on images, and on numbers

The heap of the images keeps in step with the heap of the items through any sequence of steps.  So
nothing but the keys of the items decides which item goes where: a heap that knows of each item only
by its number in the order of insertion, and compares the keys under these numbers, does the same.
-/

namespace Agenda.Heap

universe u v w

variable {α : Type u} {β : Type v} {γ : Type w} {less : α → α → Bool} {less' : β → β → Bool}
  {lessKey : γ → γ → Bool} {image : α → β}

/-- The step with other items in the place of those that it inserts. -/
def Step.refill (fill : List α → List β) : Step α → Step β
  | .insert items => .insert (fill items)
  | .peek => .peek
  | .pop => .pop
  | .popAll => .popAll
  | .size => .size
  | .isEmpty => .isEmpty
  | .drain limit => .drain limit
  | .debug => .debug

def Step.map (image : α → β) (step : Step α) : Step β := step.refill (List.map image)

def Answer.map (image : α → β) : Answer α → Answer β
  | .item shown => .item (image shown)
  | .failed error => .failed error
  | .items listed => .items (listed.map image)
  | .count counted => .count counted
  | .flag answer => .flag answer
  | .text content => .text content

@[simp]
theorem Step.incoming_map (image : α → β) (step : Step α) :
    (step.map image).incoming = step.incoming.map image := by
  cases step <;> rfl

@[simp]
theorem Answer.contents_map (image : α → β) (answer : Answer α) :
    (answer.map image).contents = answer.contents.map image := by
  cases answer <;> rfl

namespace Reflects

variable (reflects : Reflects less less' image)

include reflects

theorem foldl_insert (heap : Heap α less) (items : List α) :
    (items.map image).foldl Heap.insert (heap.map image : Heap β less') =
      (items.foldl Heap.insert heap).map image := by
  induction items generalizing heap with
  | nil => rfl
  | cons item items inductionHypothesis =>
      rw [List.map_cons, List.foldl_cons, reflects.insert, inductionHypothesis, List.foldl_cons]

theorem popAll (heap : Heap α less) :
    (heap.map image : Heap β less').popAll = heap.popAll.map image := by
  fun_induction Heap.popAll heap with
  | case1 heap vacant =>
      have none : (heap.map image : Heap β less').pop? = none := by
        rw [reflects.pop?, vacant, Option.map_none]
      rw [popAll_of_none none, List.map_nil]
  | case2 heap root rest popped smaller inductionHypothesis =>
      have taken : (heap.map image : Heap β less').pop? = some (image root, rest.map image) := by
        rw [reflects.pop?, popped, Option.map_some]
      rw [popAll_of_pop? taken, List.map_cons, inductionHypothesis]

theorem perform (itemText : β → String) (heap : Heap α less) (step : Step α) :
    (heap.map image : Heap β less').perform itemText (step.map image) =
      ((heap.perform (itemText ∘ image) step).1.map image,
        (heap.perform (itemText ∘ image) step).2.map image) := by
  cases step with
  | insert items =>
      simp only [Step.map, Step.refill, Heap.perform, reflects.foldl_insert, size_map, Answer.map]
  | peek =>
      simp only [Step.map, Step.refill, Heap.perform, peek?_map]
      cases heap.peek? <;> rfl
  | pop =>
      simp only [Step.map, Step.refill, Heap.perform, reflects.pop?]
      cases heap.pop? <;> rfl
  | popAll => simp only [Step.map, Step.refill, Heap.perform, reflects.popAll, Answer.map, map_empty]
  | size => simp only [Step.map, Step.refill, Heap.perform, size_map, Answer.map]
  | isEmpty => simp only [Step.map, Step.refill, Heap.perform, isEmpty_map, Answer.map]
  | drain limit =>
      simp only [Step.map, Step.refill, Heap.perform, drain, toList_map, Answer.map, map_empty]
      cases limit <;> simp [List.map_take]
  | debug =>
      simp only [Step.map, Step.refill, Heap.perform, debugText, size_map, peek?_map, Answer.map,
        Option.map_map]

theorem answers (itemText : β → String) (heap : Heap α less) (steps : List (Step α)) :
    (heap.map image : Heap β less').answers itemText (steps.map (Step.map image)) =
      (heap.answers (itemText ∘ image) steps).map (Answer.map image) := by
  induction steps generalizing heap with
  | nil => rfl
  | cons step steps inductionHypothesis =>
      simp only [List.map_cons, Heap.answers, reflects.perform, inductionHypothesis]

theorem after (itemText : β → String) (heap : Heap α less) (steps : List (Step α)) :
    (heap.map image : Heap β less').after itemText (steps.map (Step.map image)) =
      (heap.after (itemText ∘ image) steps).map image := by
  induction steps generalizing heap with
  | nil => rfl
  | cons step steps inductionHypothesis =>
      simp only [List.map_cons, Heap.after, List.foldl_cons, reflects.perform]
      exact inductionHypothesis _

end Reflects

def inserted (steps : List (Step α)) (number : Nat) : Option α :=
  (steps.flatMap Step.incoming)[number]?

/-- The steps with the numbers of the items, counted from `next`, in the place of the items. -/
def numbered (next : Nat) : List (Step α) → List (Step Nat)
  | [] => []
  | step :: steps =>
      step.refill (fun items => List.range' next items.length) ::
        numbered (next + step.incoming.length) steps

def optionLess (less : α → α → Bool) (first second : Option α) : Bool :=
  match first, second with
  | some a, some b => less a b
  | _, _ => false

def rankLess (lessKey : γ → γ → Bool) (keys : List (Step γ)) (first second : Nat) : Bool :=
  optionLess lessKey (inserted keys first) (inserted keys second)

def optionText (itemText : α → String) (item : Option α) : String := (item.map itemText).getD ""

def rankText (keyText : γ → String) (keys : List (Step γ)) (number : Nat) : String :=
  optionText keyText (inserted keys number)

def ranking (lessKey : γ → γ → Bool) (keyText : γ → String) (keys : List (Step γ)) :
    List (Answer Nat) :=
  (empty : Heap Nat (rankLess lessKey keys)).answers (rankText keyText keys) (numbered 0 keys)

def arrangement (lessKey : γ → γ → Bool) (keyText : γ → String) (keys : List (Step γ)) :
    List Nat :=
  ((empty : Heap Nat (rankLess lessKey keys)).after (rankText keyText keys)
    (numbered 0 keys)).toList

/-- The answers of a heap that was empty at first, and its array, are these numbers of the items that
were inserted. -/
structure Numbered (less : α → α → Bool) (itemText : α → String) (steps : List (Step α))
    (ranks : List (Answer Nat)) (places : List Nat) : Prop where
  answers : ((empty : Heap α less).answers itemText steps).map (Answer.map some) =
    ranks.map (Answer.map (inserted steps))
  array : ((empty : Heap α less).after itemText steps).toList.map some =
    places.map (inserted steps)

theorem inserted_map (key : α → γ) (steps : List (Step α)) (number : Nat) :
    inserted (steps.map (Step.map key)) number = (inserted steps number).map key := by
  have images : (steps.map (Step.map key)).flatMap Step.incoming =
      (steps.flatMap Step.incoming).map key := by
    rw [List.flatMap_map, List.map_flatMap]
    simp only [Step.incoming_map]
  rw [inserted, inserted, images, List.getElem?_map]

theorem numbered_map (key : α → γ) (next : Nat) (steps : List (Step α)) :
    numbered next (steps.map (Step.map key)) = numbered next steps := by
  induction steps generalizing next with
  | nil => rfl
  | cons step steps inductionHypothesis =>
      rw [List.map_cons, numbered, numbered, inductionHypothesis, Step.incoming_map,
        List.length_map]
      congr 1
      cases step <;> simp [Step.map, Step.refill]

theorem map_some_eq_range' (earlier items later : List α) : items.map some =
    (List.range' earlier.length items.length).map fun number =>
      (earlier ++ (items ++ later))[number]? := by
  apply List.ext_getElem
  · simp
  · intro index inside _
    rw [List.length_map] at inside
    simp [List.getElem?_append_right, List.getElem?_append_left, inside]

theorem map_some_numbered (earlier : List α) (steps : List (Step α)) :
    steps.map (Step.map some) = (numbered earlier.length steps).map
      (Step.map fun number => (earlier ++ steps.flatMap Step.incoming)[number]?) := by
  induction steps generalizing earlier with
  | nil => rfl
  | cons step steps inductionHypothesis =>
      have onward := inductionHypothesis (earlier ++ step.incoming)
      rw [List.length_append, List.append_assoc] at onward
      rw [List.map_cons, numbered, List.map_cons, List.flatMap_cons, onward]
      congr 1
      cases step with
      | insert items => exact congrArg Step.insert (map_some_eq_range' earlier items _)
      | _ => rfl

/-- The heap of the images has the array of the images after each of the steps, and its answers are
the images of the answers. -/
structure Mirrors (less' : β → β → Bool) (image : α → β) (itemText : β → String)
    (heap : Heap α less) (steps : List (Step α)) : Prop where
  arrays : ∀ earlier, earlier <+: steps →
    ((heap.map image : Heap β less').after itemText (earlier.map (Step.map image))).items =
      (heap.after (itemText ∘ image) earlier).items.map image
  answers : (heap.map image : Heap β less').answers itemText (steps.map (Step.map image)) =
    (heap.answers (itemText ∘ image) steps).map (Answer.map image)

theorem Reflects.mirrors (reflects : Reflects less less' image) (itemText : β → String)
    (heap : Heap α less) (steps : List (Step α)) : Mirrors less' image itemText heap steps :=
  ⟨fun earlier _ => congrArg items (reflects.after itemText heap earlier),
    reflects.answers itemText heap steps⟩

theorem reflects_some (less : α → α → Bool) : Reflects less (optionLess less) some :=
  fun _ _ => rfl

variable {key : α → γ}

theorem reflects_inserted (reflects : Reflects less lessKey key) (steps : List (Step α)) :
    Reflects (rankLess lessKey (steps.map (Step.map key))) (optionLess less) (inserted steps) := by
  intro first second
  rw [rankLess, inserted_map, inserted_map]
  cases inserted steps first <;> cases inserted steps second
  · rfl
  · rfl
  · rfl
  · exact (reflects _ _).symm

theorem rankText_map (keyText : γ → String) (steps : List (Step α)) :
    rankText keyText (steps.map (Step.map key)) =
      optionText (keyText ∘ key) ∘ inserted steps := by
  funext number
  rw [rankText, inserted_map, Function.comp_apply, optionText, optionText, Option.map_map]

/-- Which item goes where is a function of the keys. -/
theorem numbered_ranking (reflects : Reflects less lessKey key) (keyText : γ → String)
    (steps : List (Step α)) :
    Numbered less (keyText ∘ key) steps (ranking lessKey keyText (steps.map (Step.map key)))
      (arrangement lessKey keyText (steps.map (Step.map key))) := by
  have byItem := reflects_some less
  have byNumber := reflects_inserted reflects steps
  have same : steps.map (Step.map some) =
      (numbered 0 (steps.map (Step.map key))).map (Step.map (inserted steps)) := by
    rw [numbered_map]
    exact map_some_numbered [] steps
  have images (heap : Heap Nat (rankLess lessKey (steps.map (Step.map key)))) :
      (heap.map (inserted steps) : Heap (Option α) (optionLess less)).toList =
        heap.toList.map (inserted steps) := toList_map heap
  constructor
  · calc ((empty : Heap α less).answers (keyText ∘ key) steps).map (Answer.map some)
        = ((empty : Heap α less).map some : Heap (Option α) (optionLess less)).answers
            (optionText (keyText ∘ key)) (steps.map (Step.map some)) :=
          (byItem.answers (optionText (keyText ∘ key)) empty steps).symm
      _ = (ranking lessKey keyText (steps.map (Step.map key))).map
            (Answer.map (inserted steps)) := by
          rw [same, ranking, rankText_map, ← byNumber.answers, map_empty, map_empty]
  · calc ((empty : Heap α less).after (keyText ∘ key) steps).toList.map some
        = (((empty : Heap α less).map some : Heap (Option α) (optionLess less)).after
            (optionText (keyText ∘ key)) (steps.map (Step.map some))).toList := by
          rw [byItem.after, toList_map]
          rfl
      _ = (arrangement lessKey keyText (steps.map (Step.map key))).map (inserted steps) := by
          rw [same, arrangement, rankText_map, ← images, ← byNumber.after, map_empty, map_empty]

/-- Items with equal keys do not leave in the order of their insertion: the last item takes the place
of the root, and no other one is less. -/
example : ranking (fun first second : Int => first < second) toString
    [.insert [5, 5, 5], .pop, .pop, .pop] = [.count 3, .item 0, .item 2, .item 1] := by
  cbv

end Agenda.Heap
