import Agenda.Proofs.System.Keeping
import Agenda.Session.Run

/-!
# Sessions with one scheduler

How a session begins in which there is one scheduler, and what the system is after some commands.
-/

namespace Agenda

universe u

variable {V : Type u}

namespace Session

def after (system : System V) (commands : List (Command V)) : System V :=
  commands.foldl (fun system command => (step system command).2) system

/-- A system with a new scheduler under the label `label`, in which the clock shows `now` and some
tokens are cancelled already. -/
def opened (label : Label) (settings : Settings) (now : Int) (tokens : List Label) : System V :=
  (step { now, cancelledTokens := tokens } (.deed (.request (.create label settings)))).2

end Session

theorem System.create_eq (label : Label) (settings : Settings) (now : Int) (tokens : List Label) :
    (({ now, cancelledTokens := tokens } : System V).create label settings).2
      = { now, cancelledTokens := tokens
          schedulers := #[Scheduler.start settings
            (({ now, cancelledTokens := tokens } : System V).isCancelled settings.token)]
          schedulerLabels := (∅ : Std.TreeMap Label SchedulerId).insert label ⟨0⟩ } := by
  refine (sweepSchedulers_of_label rfl Std.TreeMap.getElem?_insert_self).trans ?_
  rw [sweepCaches]
  simp

end Agenda
