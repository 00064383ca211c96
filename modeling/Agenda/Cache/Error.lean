import Agenda.Scheduler.Error

/-!
Why a cache does not store an entry.
-/

namespace Agenda

inductive CacheError where
  /-- The key is present and was not to be overwritten. -/
  | duplicateKey (key : String)
  /-- The expiration of the entry could not be scheduled. -/
  | unscheduled (cause : SchedulerError)
  deriving DecidableEq, Repr

namespace CacheError

def message : CacheError → String
  | .duplicateKey key => "key '" ++ key ++ "' already exists"
  | .unscheduled cause => "failed to arrange cache expiration: " ++ cause.message

/-- The text of the error that this one was caused by. -/
def source? : CacheError → Option String
  | .duplicateKey _ => none
  | .unscheduled cause => some cause.message

end CacheError

end Agenda
