import Agenda.Scheduler.Basic

/-!
Giving tasks to a scheduler and taking them back.

A submission queues its entry and wakes the worker in one step.  If the lock on the queue is let go
of before the signal is given, a worker that looks in between finds the entry all the same.  The
signal is then kept, and costs it one more look, for which it reads the queue anew.
-/

namespace Agenda.Scheduler

universe u

variable {ω : Type u}

def heads (scheduler : Scheduler ω) (id : TaskId) : Bool :=
  scheduler.queue.peek?.any fun entry => entry.id = id

def accept (scheduler : Scheduler ω) (due : Int) (work : ω) : Scheduler ω :=
  { scheduler with
    roster := scheduler.roster.accept
    queue := scheduler.queue.insert ⟨due, scheduler.roster.nextId, work⟩ }

/-- Wakes the worker for the task just accepted: by `ready` if its entry is the only one, by
`interrupt` if it went ahead of all others, and not at all otherwise. -/
def announce (scheduler : Scheduler ω) (id : TaskId) : Scheduler ω :=
  if scheduler.size = 1 then { scheduler with ready := true }
  else if scheduler.heads id then { scheduler with interrupt := true }.note (.preempts id)
  else scheduler

def submit? (scheduler : Scheduler ω) (due : Int) (work : ω) :
    Option (TaskId × Scheduler ω) :=
  if scheduler.isStopped then none
  else some (scheduler.roster.nextId, (scheduler.accept due work).announce scheduler.roster.nextId)

/-- What is accepted is queued; besides, only the kept signals and the journal change. -/
theorem eq_of_submit? {scheduler after : Scheduler ω} {due : Int} {work : ω} {id : TaskId}
    (accepted : scheduler.submit? due work = some (id, after)) :
    scheduler.isStopped = false ∧ id = scheduler.roster.nextId ∧ ∃ ready interrupt journal,
      after = { scheduler.accept due work with ready, interrupt, journal } := by
  unfold submit? at accepted
  split at accepted
  · cases accepted
  · rename_i running
    cases accepted
    refine ⟨by simpa using running, rfl, ?_⟩
    unfold announce
    split
    · exact ⟨_, _, _, rfl⟩
    · split
      · exact ⟨_, _, _, rfl⟩
      · exact ⟨_, _, _, rfl⟩

/-- Cancels the task `id` and says whether it was still pending.  Its entry stays queued and
the worker is not woken. -/
def cancel (scheduler : Scheduler ω) (id : TaskId) : Bool × Scheduler ω :=
  if scheduler.roster.isPending id then
    (true, { scheduler with roster := scheduler.roster.resolve id .cancelled }.note (.cancelled id))
  else
    (false, scheduler)

theorem fst_cancel (scheduler : Scheduler ω) (id : TaskId) :
    (scheduler.cancel id).1 = scheduler.roster.isPending id := by
  unfold cancel
  split
  · rename_i pending
    exact pending.symm
  · rename_i refused
    exact (Bool.not_eq_true _ |>.mp refused).symm

@[simp]
theorem roster_cancel (scheduler : Scheduler ω) (id : TaskId) :
    (scheduler.cancel id).2.roster = scheduler.roster.resolve id .cancelled := by
  unfold cancel
  split
  · rfl
  · rename_i refused
    rw [Roster.resolve, if_neg refused]

@[simp]
theorem queue_cancel (scheduler : Scheduler ω) (id : TaskId) :
    (scheduler.cancel id).2.queue = scheduler.queue := by
  unfold cancel
  split <;> rfl

@[simp]
theorem worker_cancel (scheduler : Scheduler ω) (id : TaskId) :
    (scheduler.cancel id).2.worker = scheduler.worker := by
  unfold cancel
  split <;> rfl

@[simp]
theorem settings_cancel (scheduler : Scheduler ω) (id : TaskId) :
    (scheduler.cancel id).2.settings = scheduler.settings := by
  unfold cancel
  split <;> rfl

@[simp]
theorem stopped_cancel (scheduler : Scheduler ω) (id : TaskId) :
    (scheduler.cancel id).2.stopped = scheduler.stopped := by
  unfold cancel
  split <;> rfl

@[simp]
theorem halted_cancel (scheduler : Scheduler ω) (id : TaskId) :
    (scheduler.cancel id).2.halted = scheduler.halted := by
  unfold cancel
  split <;> rfl

@[simp]
theorem ready_cancel (scheduler : Scheduler ω) (id : TaskId) :
    (scheduler.cancel id).2.ready = scheduler.ready := by
  unfold cancel
  split <;> rfl

@[simp]
theorem interrupt_cancel (scheduler : Scheduler ω) (id : TaskId) :
    (scheduler.cancel id).2.interrupt = scheduler.interrupt := by
  unfold cancel
  split <;> rfl

def disown (scheduler : Scheduler ω) (id : TaskId) : Bool × Scheduler ω :=
  (false, scheduler.note (.foreign id))

end Agenda.Scheduler
