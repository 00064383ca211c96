/-!
Why a scheduler turns a task down, or does not come into being.
-/

namespace Agenda

inductive SchedulerError where
  /-- The scheduler of this name takes no tasks any more. -/
  | stopped (name : String)
  /-- The worker could not be started, for a reason that the system gave. -/
  | startFailed (reason : String)
  deriving DecidableEq, Repr

namespace SchedulerError

def message : SchedulerError → String
  | .stopped name => "task manager '" ++ name ++ "' is stopped"
  | .startFailed reason => "failed to start task manager worker: " ++ reason

def isStopped : SchedulerError → Bool
  | .stopped _ => true
  | .startFailed _ => false

/-- The text of the error that this one was caused by. -/
def source? : SchedulerError → Option String
  | .stopped _ => none
  | .startFailed reason => some reason

end SchedulerError

end Agenda
