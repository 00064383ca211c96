import Agenda.Proofs.Plan.Basic
import Agenda.Proofs.Scheduler.Continuing
import Agenda.Proofs.System.Settled

/-!
# What a scheduler still has to run

Behind its heap, its cancelled entries and its sleeping worker a scheduler has a list of tasks to
run, as a plan has.  Most moves of the worker leave the list as it is.  The others take away a task
that is due, and none that is left is due before it.
-/

namespace Agenda

universe u

variable {V : Type u}

def Work.handle : Work V → Label
  | .task _ handle _ => handle
  | .deletion _ _ _ => ""

def Entry.item (entry : Entry (Work V)) : Item := ⟨entry.due, entry.id, entry.work.handle⟩

namespace Scheduler

/-- The tasks that the scheduler has yet to run. -/
def outstanding (scheduler : Scheduler (Work V)) : List Item :=
  if scheduler.halted then []
  else (scheduler.queue.toList.filter fun entry => scheduler.roster.isPending entry.id).map
    Entry.item

/-- The fate that a task has, or that is certain because of the stop signal. -/
def fateInView? (scheduler : Scheduler (Work V)) (id : TaskId) : Option Fate :=
  if scheduler.halted = true ∧ scheduler.roster.fate? id = some .pending then some .cancelled
  else scheduler.roster.fate? id

inductive Advance (now : Int) (before after : Scheduler (Work V)) : Option Item → Prop where
  | quiet :
      after.outstanding.Perm before.outstanding →
      (∀ id, after.fateInView? id = before.fateInView? id) → Advance now before after none
  | begin {item : Item} :
      item.due ≤ now → before.outstanding.Perm (item :: after.outstanding) →
      (∀ other ∈ after.outstanding, item.due ≤ other.due) →
      (∀ id, after.fateInView? id =
        if id = item.id then some .fired else before.fateInView? id) →
      Advance now before after (some item)

variable {before after : Scheduler (Work V)} {now : Int}

theorem outstanding_of_halted {scheduler : Scheduler (Work V)} (halted : scheduler.halted = true) :
    scheduler.outstanding = [] := if_pos halted

theorem outstanding_of_running {scheduler : Scheduler (Work V)}
    (running : scheduler.halted = false) : scheduler.outstanding =
      (scheduler.queue.toList.filter fun entry => scheduler.roster.isPending entry.id).map
        Entry.item := if_neg (by simp [running])

theorem fateInView?_of_running {scheduler : Scheduler (Work V)}
    (running : scheduler.halted = false) (id : TaskId) :
    scheduler.fateInView? id = scheduler.roster.fate? id := if_neg (by simp [running])

theorem mem_outstanding {scheduler : Scheduler (Work V)} {item : Item} :
    item ∈ scheduler.outstanding ↔ scheduler.halted = false ∧
      ∃ entry ∈ scheduler.queue.toList,
        scheduler.roster.fate? entry.id = some .pending ∧ entry.item = item := by
  unfold outstanding
  split
  · rename_i halted
    simp [halted]
  · rename_i running
    simp only [List.mem_map, List.mem_filter, Roster.isPending_iff, and_assoc]
    simp [running]

theorem Advance.of_eq (queue : after.queue = before.queue) (roster : after.roster = before.roster)
    (halted : after.halted = before.halted) : Advance now before after none := by
  refine .quiet ?_ ?_
  · unfold outstanding
    rw [queue, roster, halted]
  · intro id
    unfold fateInView?
    rw [roster, halted]

theorem Advance.trans_quiet {middle : Scheduler (Work V)} {item : Option Item}
    (outstanding : middle.outstanding.Perm before.outstanding)
    (fates : ∀ id, middle.fateInView? id = before.fateInView? id)
    (advance : Advance now middle after item) : Advance now before after item := by
  cases advance with
  | quiet same kept =>
      exact .quiet (same.trans outstanding) fun id => (kept id).trans (fates id)
  | begin due taken later changed =>
      refine .begin due (outstanding.symm.trans taken) later ?_
      intro id
      rw [changed, fates]

theorem outstanding_discard {scheduler : Scheduler (Work V)} {head : Entry (Work V)}
    {rest : TaskQueue (Work V)} (popped : scheduler.queue.pop? = some (head, rest))
    (resolved : scheduler.roster.fate? head.id ≠ some .pending) :
    (scheduler.discard head.id rest).outstanding.Perm scheduler.outstanding := by
  have kept := halted_discard scheduler head.id rest
  cases halted : scheduler.halted with
  | true =>
      rw [outstanding_of_halted (kept.trans halted), outstanding_of_halted halted]
  | false =>
      rw [outstanding_of_running (kept.trans halted), outstanding_of_running halted,
        queue_discard, roster_discard]
      apply List.Perm.map
      have taken := (Heap.toList_pop?_perm popped).filter
        fun entry => scheduler.roster.isPending entry.id
      have refused : ¬ scheduler.roster.isPending head.id = true := by
        rw [Roster.isPending_iff]
        exact resolved
      exact (taken.trans (.of_eq (List.filter_cons_of_neg refused))).symm

theorem fateInView?_discard (scheduler : Scheduler (Work V)) (removed id : TaskId)
    (rest : TaskQueue (Work V)) :
    (scheduler.discard removed rest).fateInView? id = scheduler.fateInView? id := by
  simp [fateInView?]

/-- Of the tasks that a worker has to run it begins one that is due first. -/
theorem advance_begin (sound : before.Sound) (running : before.halted = false)
    {head : Entry (Work V)} {rest : TaskQueue (Work V)}
    (popped : before.queue.pop? = some (head, rest))
    (pending : before.roster.fate? head.id = some .pending) (due : head.due ≤ now) :
    Advance now before (before.begin head rest now) (some head.item) := by
  have apart := (sound.stored.tail popped).2.2
  have kept : (before.begin head rest now).halted = false := running
  have left : (before.begin head rest now).outstanding =
      (rest.toList.filter fun entry => before.roster.isPending entry.id).map Entry.item := by
    have same : rest.toList.filter
          (fun entry => (before.roster.resolve head.id .fired).isPending entry.id)
        = rest.toList.filter fun entry => before.roster.isPending entry.id := by
      apply List.filter_congr
      intro entry held
      unfold Roster.isPending
      rw [Roster.fate?_resolve_of_ne _ (apart entry held)]
    rw [← same]
    exact outstanding_of_running kept
  refine .begin due ?_ ?_ ?_
  · rw [left, outstanding_of_running running, ← List.map_cons]
    apply List.Perm.map
    have taken := (Heap.toList_pop?_perm popped).filter
      fun entry => before.roster.isPending entry.id
    exact taken.trans (.of_eq (List.filter_cons_of_pos (Roster.isPending_iff.2 pending)))
  · intro other remaining
    rw [left] at remaining
    obtain ⟨entry, held, rfl⟩ := List.mem_map.1 remaining
    exact sound.stored.head_due_le popped
      (Stored.mem_of_pop? popped (List.mem_filter.1 held).1)
  · intro id
    have fired : (before.begin head rest now).roster.fate? id = _ :=
      Roster.fate?_resolve before.roster head.id id .fired
    rw [fateInView?_of_running kept, fateInView?_of_running running, fired]
    simp only [pending, and_true]
    rfl

theorem Chooses.advance (chosen : Chooses now before after) (sound : before.Sound)
    (looking : before.worker = .looking) (running : before.halted = false) :
    ∃ item, Advance now before after item ∧
      (match after.worker with
        | .busy _ work => ∃ begun : Item, item = some begun ∧ begun.handle = work.handle
        | _ => item = none) := by
  induction chosen with
  | exit vacant stopped => exact ⟨none, .of_eq rfl rfl rfl, rfl⟩
  | idle vacant stopped => exact ⟨none, .of_eq rfl rfl rfl, rfl⟩
  | sleep popped pending early => exact ⟨none, .of_eq rfl rfl rfl, rfl⟩
  | begin popped pending due =>
      exact ⟨_, advance_begin sound running popped pending due, _, rfl, rfl⟩
  | @discard scheduler last head rest popped resolved _ inductionHypothesis =>
      obtain ⟨item, advance, begun⟩ :=
        inductionHypothesis (sound.discard looking popped resolved) (by simpa using looking)
          (by simpa using running)
      have same := fateInView?_discard scheduler head.id
      exact ⟨item, advance.trans_quiet (outstanding_discard popped resolved)
        fun id => same id rest, begun⟩

/-- The stop signal had already decided what the worker does about it. -/
theorem advance_abandon (sound : before.Sound) (halted : before.halted = true) :
    Advance now before before.abandon none := by
  have past : before.abandon.halted = true := halted
  refine .quiet ?_ ?_
  · rw [outstanding_of_halted past, outstanding_of_halted halted]
  · intro id
    have fates : before.abandon.roster.fate? id = _ :=
      Roster.fate?_cancelAll (before.queue.toList.map Entry.id) before.roster id
    unfold fateInView?
    rw [fates, past, halted]
    by_cases pending : before.roster.fate? id = some .pending
    · obtain ⟨entry, held, same⟩ := sound.stored.queued id pending
      have listed : id ∈ before.queue.toList.map Entry.id := List.mem_map.2 ⟨entry, held, same⟩
      simp [pending, listed]
    · simp [pending]

end Scheduler

end Agenda
