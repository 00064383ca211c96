import Agenda.Heap.Contents
import Agenda.System.Potential

/-!
What the operations of one scheduler do to the bounds on its moves.
-/

namespace Agenda

universe u

variable {V : Type u}

namespace TaskQueue

theorem weight_insert (queue : TaskQueue (Work V)) (entry : Entry (Work V)) :
    TaskQueue.weight (queue.insert entry)
      = TaskQueue.weight queue + entry.work.weight + 3 := by
  have moved := total_perm (fun entry => entry.work.weight + 3)
    (Heap.toList_insert_perm queue entry)
  rw [total_cons] at moved
  unfold TaskQueue.weight
  omega

theorem partings_insert (queue : TaskQueue (Work V)) (entry : Entry (Work V)) :
    TaskQueue.partings (queue.insert entry)
      = TaskQueue.partings queue + entry.work.partings := by
  have moved := total_perm (fun entry => entry.work.partings)
    (Heap.toList_insert_perm queue entry)
  rw [total_cons] at moved
  unfold TaskQueue.partings
  omega

theorem weight_of_pop? {queue rest : TaskQueue (Work V)} {head : Entry (Work V)}
    (popped : queue.pop? = some (head, rest)) :
    TaskQueue.weight queue = TaskQueue.weight rest + head.work.weight + 3 := by
  have moved := total_perm (fun entry => entry.work.weight + 3) (Heap.toList_pop?_perm popped)
  rw [total_cons] at moved
  unfold TaskQueue.weight
  omega

theorem partings_of_pop? {queue rest : TaskQueue (Work V)} {head : Entry (Work V)}
    (popped : queue.pop? = some (head, rest)) :
    TaskQueue.partings queue = TaskQueue.partings rest + head.work.partings := by
  have moved := total_perm (fun entry => entry.work.partings) (Heap.toList_pop?_perm popped)
  rw [total_cons] at moved
  unfold TaskQueue.partings
  omega

@[simp]
theorem weight_empty : TaskQueue.weight (Heap.empty : TaskQueue (Work V)) = 0 := rfl

@[simp]
theorem partings_empty : TaskQueue.partings (Heap.empty : TaskQueue (Work V)) = 0 := rfl

end TaskQueue

namespace Scheduler

variable (scheduler : Scheduler (Work V)) (now : Int)

theorem weight_eq :
    scheduler.weight now = (if scheduler.halted then 0 else 4)
      + (if scheduler.ready then 2 else 0) + (if scheduler.interrupt then 2 else 0)
      + scheduler.worker.weight scheduler.halted now + TaskQueue.weight scheduler.queue := rfl

@[simp]
theorem weight_note (notice : Notice) : (scheduler.note notice).weight now =
    scheduler.weight now := rfl

@[simp]
theorem partings_note (notice : Notice) : (scheduler.note notice).partings =
    scheduler.partings := rfl

@[simp]
theorem weight_signalDrained : scheduler.signalDrained.weight now = scheduler.weight now := by
  unfold signalDrained
  split <;> rfl

@[simp]
theorem partings_signalDrained : scheduler.signalDrained.partings = scheduler.partings := by
  unfold signalDrained
  split <;> rfl

theorem weight_halt_le : scheduler.halt.weight now ≤ scheduler.weight now := by
  simp only [weight_eq, halt]
  cases scheduler.halted <;> cases scheduler.worker <;> simp [Worker.weight] <;> split <;> omega

@[simp]
theorem partings_halt : scheduler.halt.partings = scheduler.partings := rfl

@[simp]
theorem weight_join : scheduler.join.weight now = scheduler.weight now := rfl

@[simp]
theorem partings_join : scheduler.join.partings = scheduler.partings := rfl

@[simp]
theorem weight_stopInside : scheduler.stopInside.weight now = scheduler.weight now := by
  unfold stopInside
  split <;> rfl

@[simp]
theorem partings_stopInside : scheduler.stopInside.partings = scheduler.partings := by
  unfold stopInside
  split <;> rfl

theorem weight_close_le : scheduler.close.weight now ≤ scheduler.weight now + 2 := by
  unfold close
  split <;> simp only [weight_eq, note] <;> cases scheduler.ready <;> simp <;> omega

@[simp]
theorem partings_close : scheduler.close.partings = scheduler.partings := by
  unfold close
  split <;> rfl

@[simp]
theorem weight_cancel (id : TaskId) :
    (scheduler.cancel id).2.weight now = scheduler.weight now := by
  unfold cancel
  split <;> rfl

@[simp]
theorem partings_cancel (id : TaskId) : (scheduler.cancel id).2.partings =
    scheduler.partings := by
  unfold cancel
  split <;> rfl

variable {scheduler} {now}

theorem weight_submit?_le (now : Int) {filled : Scheduler (Work V)} {due : Int} {work : Work V} {id : TaskId}
    (accepted : scheduler.submit? due work = some (id, filled)) :
    filled.weight now ≤ scheduler.weight now + work.weight + 5 := by
  unfold submit? at accepted
  split at accepted
  · cases accepted
  · cases accepted
    unfold announce accept
    split
    · simp only [weight_eq, TaskQueue.weight_insert]
      cases scheduler.ready <;> simp <;> omega
    · split
      · simp only [weight_note]
        simp only [weight_eq, TaskQueue.weight_insert]
        cases scheduler.interrupt <;> simp <;> omega
      · simp only [weight_eq, TaskQueue.weight_insert]
        omega

theorem partings_submit? {filled : Scheduler (Work V)} {due : Int} {work : Work V} {id : TaskId}
    (accepted : scheduler.submit? due work = some (id, filled)) :
    filled.partings = scheduler.partings + work.partings := by
  unfold submit? at accepted
  split at accepted
  · cases accepted
  · cases accepted
    unfold announce accept
    split
    · simp only [Scheduler.partings, TaskQueue.partings_insert]
      omega
    · split
      · simp only [partings_note]
        simp only [Scheduler.partings, TaskQueue.partings_insert]
        omega
      · simp only [Scheduler.partings, TaskQueue.partings_insert]
        omega

theorem weight_discard (now : Int) {head : Entry (Work V)} {rest : TaskQueue (Work V)}
    (popped : scheduler.queue.pop? = some (head, rest)) :
    (scheduler.discard head.id rest).weight now + head.work.weight + 3
      = scheduler.weight now := by
  simp only [discard, weight_signalDrained, weight_note]
  simp only [weight_eq, TaskQueue.weight_of_pop? popped]
  omega

theorem partings_discard {head : Entry (Work V)} {rest : TaskQueue (Work V)}
    (popped : scheduler.queue.pop? = some (head, rest)) :
    (scheduler.discard head.id rest).partings + head.work.partings = scheduler.partings := by
  simp only [discard, partings_signalDrained, partings_note]
  simp only [Scheduler.partings, TaskQueue.partings_of_pop? popped]
  omega

/-- A choice spends weight, and begins no calls that were not in store. -/
theorem choose_lt (looking : scheduler.worker = .looking) (live : scheduler.halted = false) :
    (scheduler.choose now).weight now < scheduler.weight now ∧
      (scheduler.choose now).partings ≤ scheduler.partings := by
  induction length : scheduler.queue.size using Nat.strongRecOn generalizing scheduler with
  | _ length shorterOnes =>
      rw [choose]
      split
      · split
        · simp [weight_eq, Scheduler.partings, Worker.weight, Worker.partings, live, looking, note]
        · simp [weight_eq, Scheduler.partings, Worker.weight, Worker.partings, live, looking]
      · rename_i head rest popped
        split
        · split
          · have asleep : ¬ head.due ≤ now := by omega
            simp [weight_eq, Scheduler.partings, Worker.weight, Worker.partings, live, looking,
              asleep]
          · have spent := TaskQueue.weight_of_pop? popped
            have moved := TaskQueue.partings_of_pop? popped
            simp only [begin, weight_note, partings_note]
            simp only [weight_eq, Scheduler.partings, Worker.weight, Worker.partings, live,
              looking]
            omega
        · have shorter : rest.size + 1 = scheduler.queue.size := Heap.size_of_pop? popped
          have chosen := shorterOnes rest.size (by omega) (by simpa using looking)
            (by simpa using live) (congrArg Heap.size (queue_discard scheduler head.id rest))
          have spent := weight_discard now popped
          have moved := partings_discard popped
          dsimp only
          omega

end Scheduler

end Agenda
