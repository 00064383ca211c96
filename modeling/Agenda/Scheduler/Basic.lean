import Agenda.Heap.Basic
import Agenda.Scheduler.Error
import Agenda.Scheduler.Notice
import Agenda.Settings

/-!
A scheduler: a queue of tasks ordered by due time, and one worker that runs them.

A scheduler knows nothing of what its tasks do: they are values of a type `ω`.  Cancelling a
task only changes its fate; the entry stays queued until the worker meets it at the head.
Two signals can wake a parked worker, and each is kept until it is used: `ready` says that the
queue received its first entry or that the scheduler stopped, `interrupt` says that a new entry
became the head.
-/

namespace Agenda

universe u

structure SchedulerId where
  index : Nat
  deriving DecidableEq, Repr

structure Entry (ω : Type u) where
  due : Int
  id : TaskId
  work : ω
  deriving Repr

def Entry.before {ω : Type u} (a b : Entry ω) : Bool := a.due < b.due

/-- The queued tasks, the earliest at the root. -/
abbrev TaskQueue (ω : Type u) := Heap (Entry ω) Entry.before

inductive Worker (ω : Type u) where
  /-- Its thread has not come up yet. -/
  | starting
  | looking
  /-- Parked until a signal comes. -/
  | idle
  /-- Parked until a signal comes or the clock shows `due`. -/
  | asleep (due : Int)
  /-- In the middle of a task, with this work left. -/
  | busy (id : TaskId) (work : ω)
  | exited
  deriving Repr

def Worker.isBusy {ω : Type u} : Worker ω → Bool
  | .busy _ _ => true
  | _ => false

def Worker.isExited {ω : Type u} : Worker ω → Bool
  | .exited => true
  | _ => false

structure Scheduler (ω : Type u) where
  settings : Settings
  queue : TaskQueue ω := Heap.empty
  roster : Roster := {}
  worker : Worker ω := .starting
  /-- No task is accepted any more. -/
  stopped : Bool := false
  /-- The stop signal was given: what is queued will not run. -/
  halted : Bool := false
  ready : Bool := false
  interrupt : Bool := false
  /-- How often it was signalled that the queue is empty and nothing runs. -/
  drains : Nat := 0
  /-- Somebody waits, or has waited, for the worker to exit. -/
  joined : Bool := false
  journal : Array Notice := #[]
  deriving Repr

namespace Scheduler

variable {ω : Type u}

def name (scheduler : Scheduler ω) : String := scheduler.settings.name

def note (scheduler : Scheduler ω) (notice : Notice) : Scheduler ω :=
  { scheduler with journal := scheduler.journal.push notice }

def start (settings : Settings) (halted : Bool) : Scheduler ω :=
  { settings, halted }

/-- The number of queued entries, those of cancelled tasks included. -/
def size (scheduler : Scheduler ω) : Nat := scheduler.queue.size

def isEmpty (scheduler : Scheduler ω) : Bool := scheduler.queue.isEmpty

def isRunning (scheduler : Scheduler ω) : Bool := scheduler.worker.isBusy

def isStopped (scheduler : Scheduler ω) : Bool := scheduler.halted || scheduler.stopped

def isDrained (scheduler : Scheduler ω) : Bool := scheduler.isEmpty && !scheduler.isRunning

def refusal (scheduler : Scheduler ω) : SchedulerError := .stopped scheduler.name

/-- The debug text: the name, the number of queued entries, and the scheduler's own flag. -/
def debugText (scheduler : Scheduler ω) : String :=
  Text.record "TaskManager"
    [("name", Text.quoted scheduler.name), ("queued", toString scheduler.size),
      ("stopped", Text.truth scheduler.stopped)]

end Scheduler

end Agenda
