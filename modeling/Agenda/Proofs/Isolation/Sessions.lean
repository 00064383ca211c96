import Agenda.Proofs.Isolation.Moves
import Agenda.Proofs.Session.Grouping

/-!
# Two sessions that differ in panics

Sessions whose commands have the same calm image give the same answers but for the failures and the
log, and leave systems with the same calm image.
-/

namespace Agenda.Session

universe u

variable {V : Type u}

def calmEvents (events : List (Event V)) : List (Event V) :=
  events.filter fun event => !event.isFailure

def Deed.calm : Deed V → Deed V
  | .submit scheduler handle due script => .submit scheduler handle due script.calm
  | .request asked => .request asked
  | .part parting helper => .part parting helper

def Command.calm : Command V → Command V
  | .deed asked => .deed asked.calm
  | .advance millis => .advance millis
  | .slowAccess millis cache key access => .slowAccess millis cache key access
  | .parallel threads => .parallel (threads.map (List.map Deed.calm))

def Answer.calm (answer : Answer V) : Answer V :=
  { answer with events := calmEvents answer.events, lines := [] }

section Steps

variable (system : System V)

end Steps

section Sessions

variable {system other : System V} {commands others : List (Command V)}

end Sessions

end Agenda.Session
