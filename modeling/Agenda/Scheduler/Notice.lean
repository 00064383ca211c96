import Agenda.Log
import Agenda.Task.Roster

/-!
What a scheduler writes into its journal.
-/

namespace Agenda

inductive Notice where
  | started
  /-- The new task is due before every other one in the queue. -/
  | preempts (id : TaskId)
  /-- A task was to be cancelled that another scheduler accepted. -/
  | foreign (id : TaskId)
  | cancelled (id : TaskId)
  /-- The worker began to run a task that was due at `due`, when the clock showed `now`. -/
  | began (id : TaskId) (due now : Int)
  /-- A running task stopped the scheduler while this many entries were queued. -/
  | stopping (queued : Nat)
  | shuttingDown
  /-- The worker's sleep was cut short for a task that is due earlier. -/
  | wokeEarly
  | discarded (id : TaskId)
  | panicked (id : TaskId) (message : String)
  | hookPanicked
  /-- The worker emptied the queue, which held these tasks, because of the stop signal. -/
  | abandoned (ids : List TaskId)
  | stopped
  deriving DecidableEq, Repr

/-- The log line of a journal entry of the scheduler `name`.  The start of a task is not
logged. -/
def Notice.line? (name : String) : Notice → Option LogLine
  | .started => some ⟨.info, "Task manager '" ++ name ++ "' started"⟩
  | .preempts id =>
      some ⟨.trace, "Task " ++ toString id.number ++ " preempts the current wait in '"
        ++ name ++ "'"⟩
  | .foreign id =>
      some ⟨.warn, "Task " ++ toString id.number ++ " does not belong to manager '" ++ name
        ++ "', not cancelled"⟩
  | .cancelled id =>
      some ⟨.debug, "Task " ++ toString id.number ++ " cancelled in manager '" ++ name ++ "'"⟩
  | .began _ _ _ => none
  | .stopping queued =>
      some ⟨.info, "Task manager '" ++ name ++ "' stopping from inside a task, draining "
        ++ toString queued ++ " task(s)"⟩
  | .shuttingDown => some ⟨.info, "Task manager '" ++ name ++ "' shutting down"⟩
  | .wokeEarly =>
      some ⟨.trace, "Task manager '" ++ name ++ "' woke early for a new head"⟩
  | .discarded id =>
      some ⟨.trace, "Discarding cancelled task " ++ toString id.number ++ " in '" ++ name
        ++ "'"⟩
  | .panicked id message =>
      some ⟨.error, "Task " ++ toString id.number ++ " in manager '" ++ name
        ++ "' panicked: " ++ message⟩
  | .hookPanicked => some ⟨.error, "Failure hook of manager '" ++ name ++ "' panicked"⟩
  | .abandoned ids =>
      some ⟨.info, "Task manager '" ++ name ++ "' cancelled via token, abandoned "
        ++ toString ids.length ++ " task(s)"⟩
  | .stopped => some ⟨.info, "Task manager '" ++ name ++ "' stopped"⟩

end Agenda
