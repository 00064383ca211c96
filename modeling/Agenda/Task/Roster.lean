/-!
What became of the tasks that a scheduler accepted.

Tasks are numbered from one in the order of their acceptance.  Each starts out pending and
takes at most one step from there: it fires or it is cancelled.

Numbers have no bound.  Numbers of 64 bits do as well for a scheduler that accepts fewer than 2 ^ 64
tasks.
-/

namespace Agenda

inductive Fate where
  | pending
  | fired
  | cancelled
  deriving DecidableEq, Repr

def Fate.name : Fate → String
  | .pending => "Pending"
  | .fired => "Fired"
  | .cancelled => "Cancelled"

structure TaskId where
  number : Nat
  deriving DecidableEq, Repr

/-- The fates of the tasks accepted so far, the first accepted task first. -/
structure Roster where
  fates : Array Fate := #[]
  deriving DecidableEq, Repr

namespace Roster

def count (roster : Roster) : Nat := roster.fates.size

def nextId (roster : Roster) : TaskId := ⟨roster.count + 1⟩

def accept (roster : Roster) : Roster := ⟨roster.fates.push .pending⟩

def fate? (roster : Roster) (id : TaskId) : Option Fate :=
  match id.number with
  | 0 => none
  | index + 1 => roster.fates[index]?

def isPending (roster : Roster) (id : TaskId) : Bool :=
  roster.fate? id = some .pending

/-- Gives a pending task its fate.  Other tasks keep the one they have. -/
def resolve (roster : Roster) (id : TaskId) (fate : Fate) : Roster :=
  if roster.isPending id then ⟨roster.fates.setIfInBounds (id.number - 1) fate⟩ else roster

@[simp]
theorem count_accept (roster : Roster) : roster.accept.count = roster.count + 1 := by
  simp [accept, count]

@[simp]
theorem count_resolve (roster : Roster) (id : TaskId) (fate : Fate) :
    (roster.resolve id fate).count = roster.count := by
  unfold resolve
  split <;> simp [count]

theorem fate?_accept (roster : Roster) (id : TaskId) :
    roster.accept.fate? id = if id = roster.nextId then some .pending else roster.fate? id := by
  obtain ⟨number⟩ := id
  cases number with
  | zero => simp [fate?, nextId]
  | succ index =>
      simp only [fate?, accept, nextId, count, TaskId.mk.injEq, Nat.add_right_cancel_iff,
        Array.getElem?_push]

theorem fate?_resolve (roster : Roster) (id other : TaskId) (fate : Fate) :
    (roster.resolve id fate).fate? other =
      if other = id ∧ roster.fate? id = some .pending then some fate else roster.fate? other := by
  unfold resolve isPending
  by_cases pending : roster.fate? id = some .pending
  · obtain ⟨number⟩ := id
    obtain ⟨otherNumber⟩ := other
    cases number with
    | zero => simp [fate?] at pending
    | succ index =>
        cases otherNumber with
        | zero => simp [fate?]
        | succ otherIndex =>
            have inside : index < roster.fates.size := by
              simp only [fate?] at pending
              exact (Array.getElem?_eq_some_iff.1 pending).1
            by_cases same : otherIndex = index
            · subst same
              simp [pending]
              simp [fate?, inside]
            · simp [pending, same]
              simp [fate?, Ne.symm same]
  · simp [pending]

theorem isPending_iff {roster : Roster} {id : TaskId} :
    roster.isPending id = true ↔ roster.fate? id = some .pending := by
  simp [isPending]

theorem fate?_resolve_self {roster : Roster} {id : TaskId}
    (pending : roster.fate? id = some .pending) (fate : Fate) :
    (roster.resolve id fate).fate? id = some fate := by
  rw [fate?_resolve, if_pos ⟨rfl, pending⟩]

theorem fate?_resolve_of_ne (roster : Roster) {id other : TaskId} (different : other ≠ id)
    (fate : Fate) : (roster.resolve id fate).fate? other = roster.fate? other := by
  rw [fate?_resolve, if_neg fun same => different same.1]

theorem fate?_eq_none_iff {roster : Roster} {id : TaskId} :
    roster.fate? id = none ↔ id.number = 0 ∨ roster.count < id.number := by
  obtain ⟨number⟩ := id
  cases number with
  | zero => simp [fate?]
  | succ index =>
      simp only [fate?, Array.getElem?_eq_none_iff, count]
      omega

theorem known_of_count_le {roster later : Roster} (order : roster.count ≤ later.count) {id : TaskId}
    (known : roster.fate? id ≠ none) : later.fate? id ≠ none := by
  rw [ne_eq, fate?_eq_none_iff] at known ⊢
  omega

theorem fate?_empty (id : TaskId) : ({} : Roster).fate? id = none := by
  rw [fate?_eq_none_iff]
  simp only [count, List.size_toArray, List.length_nil]
  omega

theorem fate?_nextId (roster : Roster) : roster.fate? roster.nextId = none := by
  rw [fate?_eq_none_iff]
  simp [nextId]

theorem ne_nextId_of_some {roster : Roster} {id : TaskId} {fate : Fate}
    (known : roster.fate? id = some fate) : id ≠ roster.nextId := by
  intro new
  rw [new, fate?_nextId] at known
  cases known

theorem ne_nextId_of_known {roster : Roster} {id : TaskId} (known : roster.fate? id ≠ none) :
    id ≠ roster.nextId := by
  obtain ⟨fate, shown⟩ := Option.ne_none_iff_exists'.1 known
  exact ne_nextId_of_some shown

theorem fate?_accept_of_some {roster : Roster} {id : TaskId} {fate : Fate}
    (known : roster.fate? id = some fate) : roster.accept.fate? id = some fate := by
  rw [fate?_accept, if_neg (ne_nextId_of_some known), known]

/-- The fate of an accepted task does not depend on what is accepted after it. -/
theorem fate?_resolve_accept {roster : Roster} {id : TaskId} (old : id ≠ roster.nextId)
    (fate : Fate) (other : TaskId) : (roster.accept.resolve id fate).fate? other =
      (roster.resolve id fate).accept.fate? other := by
  have number : (roster.resolve id fate).nextId = roster.nextId := by
    rw [nextId, count_resolve, nextId]
  rw [fate?_resolve, fate?_accept, fate?_accept, fate?_accept, fate?_resolve, number, if_neg old]
  by_cases new : other = roster.nextId
  · subst new
    simp [Ne.symm old]
  · simp [new]

/-- Fates after all of some tasks were cancelled that were pending. -/
theorem fate?_cancelAll (ids : List TaskId) (roster : Roster) (other : TaskId) :
    (ids.foldl (fun roster id => roster.resolve id .cancelled) roster).fate? other =
      if other ∈ ids ∧ roster.fate? other = some .pending then some .cancelled
      else roster.fate? other := by
  induction ids generalizing roster with
  | nil => simp
  | cons id ids inductionHypothesis =>
      rw [List.foldl_cons, inductionHypothesis, fate?_resolve]
      by_cases same : other = id
      · subst same
        by_cases pending : roster.fate? other = some .pending <;> simp [pending]
      · simp [same]

theorem count_cancelAll (ids : List TaskId) (roster : Roster) :
    (ids.foldl (fun roster id => roster.resolve id .cancelled) roster).count = roster.count := by
  induction ids generalizing roster with
  | nil => rfl
  | cons id ids inductionHypothesis =>
      rw [List.foldl_cons, inductionHypothesis, count_resolve]

end Roster

end Agenda
