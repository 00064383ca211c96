import Agenda.Scheduler.Basic

/-!
The ways in which a scheduler stops.

A graceful stop sets the flag and lets the queue run empty.  A halt is the stop signal: the
worker gives up what is queued as soon as it looks.

Closing a scheduler sets the flag and wakes the worker in one step.  A worker that looks in between
the two finds the flag and an empty queue, and exits; the signal then wakes nobody.
-/

namespace Agenda.Scheduler

universe u

variable {ω : Type u}

def halt (scheduler : Scheduler ω) : Scheduler ω := { scheduler with halted := true }

/-- Stops the scheduler from one of its own tasks: what is queued still runs. -/
def stopInside (scheduler : Scheduler ω) : Scheduler ω :=
  if scheduler.stopped then scheduler
  else { scheduler with stopped := true }.note (.stopping scheduler.size)

/-- Stops a drained scheduler from outside and wakes its worker. -/
def close (scheduler : Scheduler ω) : Scheduler ω :=
  if scheduler.stopped then { scheduler with ready := true }
  else { scheduler with stopped := true, ready := true }.note .shuttingDown

@[simp]
theorem isDrained_close (scheduler : Scheduler ω) :
    scheduler.close.isDrained = scheduler.isDrained := by
  unfold close
  split <;> rfl

@[simp]
theorem stopped_close (scheduler : Scheduler ω) : scheduler.close.stopped = true := by
  unfold close
  split
  · rename_i stopped
    exact stopped
  · rfl

/-- Takes the right to wait for the worker's exit.  Only the first to ask gets it. -/
def join (scheduler : Scheduler ω) : Scheduler ω := { scheduler with joined := true }

def signalDrained (scheduler : Scheduler ω) : Scheduler ω :=
  if scheduler.isDrained then { scheduler with drains := scheduler.drains + 1 } else scheduler

@[simp]
theorem queue_signalDrained (scheduler : Scheduler ω) :
    scheduler.signalDrained.queue = scheduler.queue := by
  unfold signalDrained
  split <;> rfl

@[simp]
theorem worker_signalDrained (scheduler : Scheduler ω) :
    scheduler.signalDrained.worker = scheduler.worker := by
  unfold signalDrained
  split <;> rfl

@[simp]
theorem halted_signalDrained (scheduler : Scheduler ω) :
    scheduler.signalDrained.halted = scheduler.halted := by
  unfold signalDrained
  split <;> rfl

@[simp]
theorem roster_signalDrained (scheduler : Scheduler ω) :
    scheduler.signalDrained.roster = scheduler.roster := by
  unfold signalDrained
  split <;> rfl

@[simp]
theorem stopped_signalDrained (scheduler : Scheduler ω) :
    scheduler.signalDrained.stopped = scheduler.stopped := by
  unfold signalDrained
  split <;> rfl

@[simp]
theorem ready_signalDrained (scheduler : Scheduler ω) :
    scheduler.signalDrained.ready = scheduler.ready := by
  unfold signalDrained
  split <;> rfl

@[simp]
theorem interrupt_signalDrained (scheduler : Scheduler ω) :
    scheduler.signalDrained.interrupt = scheduler.interrupt := by
  unfold signalDrained
  split <;> rfl

/-- The end of the worker after the stop signal: every queued task that is pending becomes
cancelled, and the queue is empty. -/
def abandon (scheduler : Scheduler ω) : Scheduler ω :=
  let ids := scheduler.queue.toList.map Entry.id
  ({ scheduler with
    stopped := true
    queue := Heap.empty
    roster := ids.foldl (fun roster id => roster.resolve id .cancelled) scheduler.roster
    drains := scheduler.drains + 1
    worker := .exited }.note (.abandoned ids)).note .stopped

end Agenda.Scheduler
