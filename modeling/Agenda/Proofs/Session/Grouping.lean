import Agenda.Proofs.Session.Opening
import Agenda.Proofs.System.Waiting

/-!
# What a session shows of the events

Events are grouped by label after every tick.  Within a label nothing is added, lost or reordered.
-/

namespace Agenda.Session

universe u

variable {V : Type u}

section Sorting

variable {α : Type u} {le : α → α → Bool}

/-- A sorted list falls into what comes before an item and what does not. -/
theorem split_at_item {item : α} {front back : List α}
    (below : ∀ other ∈ front, (!le item other) = true)
    (above : ∀ other ∈ back, le item other = true) :
    (front ++ back).filter (fun other => !le item other) = front ∧
      (front ++ back).filter (le item) = back := by
  constructor
  · rw [List.filter_append, List.filter_eq_self.2 below, List.filter_eq_nil_iff.2, List.append_nil]
    intro other listed
    simp [above other listed]
  · rw [List.filter_append, List.filter_eq_self.2 above, List.filter_eq_nil_iff.2, List.nil_append]
    intro other listed
    simpa using below other listed

variable (trans : ∀ first second third, le first second = true → le second third = true →
    le first third = true)
  (total : ∀ first second, (le first second || le second first) = true)

include trans total

/-- The first item comes behind all that are lesser, and before all others. -/
theorem mergeSort_cons_eq (item : α) (items : List α) :
    items.mergeSort le = (items.mergeSort le).filter (fun other => !le item other) ++
        (items.mergeSort le).filter (le item) ∧
      (item :: items).mergeSort le = (items.mergeSort le).filter (fun other => !le item other) ++
        item :: (items.mergeSort le).filter (le item) := by
  obtain ⟨front, back, sorted, rest, below⟩ := List.mergeSort_cons trans total item items
  have above : ∀ other ∈ back, le item other = true := by
    have order := List.pairwise_mergeSort trans total (item :: items)
    rw [sorted, List.pairwise_append, List.pairwise_cons] at order
    exact order.2.1.1
  obtain ⟨lesser, greater⟩ := split_at_item below above
  rw [sorted, rest, lesser, greater]
  exact ⟨rfl, rfl⟩

/-- To sort and to leave items out comes to the same in either order, since sorting keeps the order
of items that are not told apart. -/
theorem filter_mergeSort (keep : α → Bool) (items : List α) :
    (items.mergeSort le).filter keep = (items.filter keep).mergeSort le := by
  induction items with
  | nil => simp
  | cons item items inductionHypothesis =>
      have moved (part : α → Bool) : ((items.mergeSort le).filter part).filter keep =
          ((items.filter keep).mergeSort le).filter part := by
        rw [← inductionHypothesis, List.filter_filter, List.filter_filter]
        simp only [Bool.and_comm]
      obtain ⟨whole, sorted⟩ := mergeSort_cons_eq trans total item (items.filter keep)
      rw [(mergeSort_cons_eq trans total item items).2, List.filter_append, moved]
      cases kept : keep item with
      | false =>
          rw [List.filter_cons_of_neg (by simp [kept]), List.filter_cons_of_neg (by simp [kept]),
            moved, ← whole]
      | true =>
          rw [List.filter_cons_of_pos kept, List.filter_cons_of_pos kept, moved, sorted]

/-- A further item is put somewhere between the others, which keep their order. -/
theorem exists_mergeSort_insert (item : α) (front back : List α) :
    ∃ first last, (front ++ back).mergeSort le = first ++ last ∧
      (front ++ item :: back).mergeSort le = first ++ item :: last := by
  induction front with
  | nil => exact ⟨_, _, mergeSort_cons_eq trans total item back⟩
  | cons other front inductionHypothesis =>
      obtain ⟨first, last, sorted, inserted⟩ := inductionHypothesis
      rw [List.cons_append, List.cons_append, (mergeSort_cons_eq trans total other _).2,
        (mergeSort_cons_eq trans total other _).2, sorted, inserted]
      simp only [List.filter_append]
      cases before : le other item with
      | true =>
          refine ⟨first.filter (fun third => !le other third) ++
            last.filter (fun third => !le other third) ++ other :: first.filter (le other),
            last.filter (le other), ?_, ?_⟩
          · simp
          · simp [before]
      | false =>
          refine ⟨first.filter (fun third => !le other third),
            last.filter (fun third => !le other third) ++ other :: (first.filter (le other) ++
              last.filter (le other)), ?_, ?_⟩
          · simp
          · simp [before]

end Sorting

theorem labelLE_trans (first second third : String) (before : labelLE first second = true)
    (after : labelLE second third = true) : labelLE first third = true := by
  simp only [labelLE, Bool.not_eq_true', decide_eq_false_iff_not, String.not_lt] at *
  exact String.le_trans before after

theorem labelLE_total (first second : String) :
    (labelLE first second || labelLE second first) = true := by
  simp only [labelLE, Bool.or_eq_true, Bool.not_eq_true', decide_eq_false_iff_not, String.not_lt]
  exact String.le_total first second

theorem filter_grouped (keep : Event V → Bool) (events : List (Event V)) :
    (grouped events).filter keep = grouped (events.filter keep) := by
  apply filter_mergeSort
  · intro first second third
    exact labelLE_trans first.scheduler second.scheduler third.scheduler
  · intro first second
    exact labelLE_total first.scheduler second.scheduler

theorem exists_grouped_insert (event : Event V) (front back : List (Event V)) :
    ∃ first last, grouped (front ++ back) = first ++ last ∧
      grouped (front ++ event :: back) = first ++ event :: last := by
  apply exists_mergeSort_insert
  · intro first second third
    exact labelLE_trans first.scheduler second.scheduler third.scheduler
  · intro first second
    exact labelLE_total first.scheduler second.scheduler

/-- Within a label the order is that of the events themselves. -/
theorem filter_label_grouped (label : Label) (events : List (Event V)) :
    (grouped events).filter (fun event => event.scheduler = label) =
      events.filter fun event => event.scheduler = label := by
  rw [filter_grouped]
  apply List.mergeSort_of_pairwise
  apply List.pairwise_of_forall_mem_list
  intro first listed second further
  have same : first.scheduler = label := of_decide_eq_true (List.mem_filter.1 listed).2
  have alike : second.scheduler = label := of_decide_eq_true (List.mem_filter.1 further).2
  rw [same, alike]
  exact (Bool.or_self _).symm.trans (labelLE_total label label)

theorem eventsSince_of_append {before after : System V} {known : List (Event V)}
    (grown : after.events.toList = before.events.toList ++ known) :
    eventsSince before after = known := by
  rw [eventsSince, grown, ← Array.length_toList, List.drop_left]

end Agenda.Session
