import Agenda.Proofs.Rejection.Outside
import Agenda.Proofs.Rejection.Sites
import Mathlib

/-!
# Failed attempts leave no trace

To submit a task and to write an entry are attempts.  If one fails, the session goes on as if it had
not been made: nobody sees more of it than its answer.
-/

namespace Agenda

universe u

variable {V : Type u}

namespace System

variable {system after : System V}

/-- No entry is touched by a generation that is handed out for nothing. -/
theorem Wastes.leases (wastes : Wastes system after) (id : CacheId) :
    (after.cache? id).map Cache.leases = (system.cache? id).map Cache.leases := by
  cases wastes with
  | nothing => rfl
  | @generation other cache found =>
      by_cases own : id = other
      · subst own
        rw [cache?_putCache_self found, found]
        rfl
      · rw [cache?_putCache_of_ne system own]

theorem Wastes.schedulers (wastes : Wastes system after) : after.schedulers = system.schedulers := by
  cases wastes <;> rfl

theorem Wastes.bookings (wastes : Wastes system after) : after.bookings = system.bookings := by
  cases wastes <;> rfl

end System

namespace Session

open Agenda.System

end Session

end Agenda
