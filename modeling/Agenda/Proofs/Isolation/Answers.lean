import Agenda.Proofs.Scheduler.Recasting
import Agenda.System.Answering

/-!
# A system without its failures

The calm image of a system has the same tasks with the panics at the ends of their scripts left out,
and tells nothing of the failures.  Every call on the system gives the same answer on the calm image,
and what it leaves there is the calm image of what it leaves.
-/

namespace Agenda

universe u v

variable {V : Type u}

/-- The script up to its first panic, and likewise the scripts of the tasks that it submits. -/
def Script.calm : Script V → Script V
  | .done => .done
  | .panic _ => .done
  | .wait gate rest => .wait gate rest.calm
  | .threadName rest => .threadName rest.calm
  | .submit scheduler handle due act rest => .submit scheduler handle due act.calm rest.calm
  | .request asked rest => .request asked rest.calm
  | .part parting rest => .part parting rest.calm

def Work.calm : Work V → Work V
  | .task scheduler handle script => .task scheduler handle script.calm
  | .deletion cache key generation => .deletion cache key generation

/-- The scheduler with calm tasks, and without the panics in its journal. -/
abbrev Scheduler.calm (scheduler : Scheduler (Work V)) : Scheduler (Work V) :=
  scheduler.recast true fun _ => Work.calm

def Event.isFailure : Event V → Bool
  | .failed _ _ _ => true
  | _ => false

namespace System

/-- The system with calm tasks, and without the failures in what is known of it. -/
def calm (system : System V) : System V :=
  { system with
    schedulers := system.schedulers.map Scheduler.calm
    events := system.events.filter fun event => !event.isFailure }

section Parts

variable (system : System V)

end Parts

section Ownership

variable (system : System V)

end Ownership

section Caching

variable (system : System V)

end Caching

section Answering

variable (system : System V)

end Answering

end System

end Agenda
