import Agenda.Scheduler.Stop

/-!
The worker of a scheduler, move by move.

A worker comes up on a thread of its own, whenever that gets to run.  From then on it looks at the
stop signal and the queue, and then it parks, begins a task or exits.
Looking discards the entries of cancelled tasks from the head of the queue, due or not, until
the head is a pending task.
-/

namespace Agenda.Scheduler

universe u

variable {ω : Type u}

/-- Takes the entry of a task that is no longer pending off the queue, which leaves `rest`. -/
def discard (scheduler : Scheduler ω) (id : TaskId) (rest : TaskQueue ω) : Scheduler ω :=
  ({ scheduler with queue := rest }.note (.discarded id)).signalDrained

@[simp]
theorem queue_discard (scheduler : Scheduler ω) (id : TaskId) (rest : TaskQueue ω) :
    (scheduler.discard id rest).queue = rest := by
  simp [discard, note]

@[simp]
theorem worker_discard (scheduler : Scheduler ω) (id : TaskId) (rest : TaskQueue ω) :
    (scheduler.discard id rest).worker = scheduler.worker := by
  simp [discard, note]

@[simp]
theorem halted_discard (scheduler : Scheduler ω) (id : TaskId) (rest : TaskQueue ω) :
    (scheduler.discard id rest).halted = scheduler.halted := by
  simp [discard, note]

@[simp]
theorem roster_discard (scheduler : Scheduler ω) (id : TaskId) (rest : TaskQueue ω) :
    (scheduler.discard id rest).roster = scheduler.roster := by
  simp [discard, note]

@[simp]
theorem stopped_discard (scheduler : Scheduler ω) (id : TaskId) (rest : TaskQueue ω) :
    (scheduler.discard id rest).stopped = scheduler.stopped := by
  simp [discard, note]

@[simp]
theorem ready_discard (scheduler : Scheduler ω) (id : TaskId) (rest : TaskQueue ω) :
    (scheduler.discard id rest).ready = scheduler.ready := by
  simp [discard, note]

@[simp]
theorem interrupt_discard (scheduler : Scheduler ω) (id : TaskId) (rest : TaskQueue ω) :
    (scheduler.discard id rest).interrupt = scheduler.interrupt := by
  simp [discard, note]

def begin (scheduler : Scheduler ω) (head : Entry ω) (rest : TaskQueue ω) (now : Int) :
    Scheduler ω :=
  { scheduler with
    queue := rest
    roster := scheduler.roster.resolve head.id .fired
    worker := .busy head.id head.work }.note (.began head.id head.due now)

def choose (scheduler : Scheduler ω) (now : Int) : Scheduler ω :=
  match popped : scheduler.queue.pop? with
  | none =>
      if scheduler.stopped then { scheduler with worker := .exited }.note .stopped
      else { scheduler with worker := .idle }
  | some (head, rest) =>
      if scheduler.roster.isPending head.id then
        if now < head.due then { scheduler with worker := .asleep head.due }
        else scheduler.begin head rest now
      else
        have : rest.size + 1 = scheduler.queue.size := Heap.size_of_pop? popped
        choose (scheduler.discard head.id rest) now
termination_by scheduler.queue.size
decreasing_by
  simp only [queue_discard]
  omega

def look (scheduler : Scheduler ω) (now : Int) : Scheduler ω :=
  if scheduler.halted then scheduler.abandon else scheduler.choose now

/-- The start of a worker, or the end of a park if there is a reason for it.  The stop signal comes
first, a kept signal is used up, and a sleeper also wakes at its time. -/
def wake? (scheduler : Scheduler ω) (now : Int) : Option (Scheduler ω) :=
  match scheduler.worker with
  | .starting => some ({ scheduler with worker := .looking }.note .started)
  | .idle =>
      if scheduler.halted then some { scheduler with worker := .looking }
      else if scheduler.ready then some { scheduler with worker := .looking, ready := false }
      else none
  | .asleep due =>
      if scheduler.halted then some { scheduler with worker := .looking }
      else if scheduler.interrupt then
        some ({ scheduler with worker := .looking, interrupt := false }.note .wokeEarly)
      else if due ≤ now then some { scheduler with worker := .looking }
      else none
  | _ => none

theorem wake?_idle_eq_none_iff {scheduler : Scheduler ω} {now : Int}
    (parked : scheduler.worker = .idle) :
    scheduler.wake? now = none ↔ scheduler.halted = false ∧ scheduler.ready = false := by
  rw [wake?, parked]
  cases scheduler.halted <;> cases scheduler.ready <;> simp

theorem wake?_asleep_eq_none_iff {scheduler : Scheduler ω} {now due : Int}
    (parked : scheduler.worker = .asleep due) :
    scheduler.wake? now = none ↔
      scheduler.halted = false ∧ scheduler.interrupt = false ∧ now < due := by
  rw [wake?, parked]
  cases scheduler.halted <;> cases scheduler.interrupt <;> simp

def proceed (scheduler : Scheduler ω) (id : TaskId) (work : ω) : Scheduler ω :=
  { scheduler with worker := .busy id work }

def finish (scheduler : Scheduler ω) : Scheduler ω :=
  { scheduler with worker := .looking }.signalDrained

def fail (scheduler : Scheduler ω) (id : TaskId) (message : String) : Scheduler ω :=
  let noted := scheduler.note (.panicked id message)
  if scheduler.settings.hook.any Hook.panics then noted.note .hookPanicked else noted

@[simp]
theorem queue_fail (scheduler : Scheduler ω) (id : TaskId) (message : String) :
    (scheduler.fail id message).queue = scheduler.queue := by
  unfold fail
  dsimp only
  split <;> rfl

@[simp]
theorem worker_fail (scheduler : Scheduler ω) (id : TaskId) (message : String) :
    (scheduler.fail id message).worker = scheduler.worker := by
  unfold fail
  dsimp only
  split <;> rfl

@[simp]
theorem roster_fail (scheduler : Scheduler ω) (id : TaskId) (message : String) :
    (scheduler.fail id message).roster = scheduler.roster := by
  unfold fail
  dsimp only
  split <;> rfl

end Agenda.Scheduler
