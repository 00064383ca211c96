import Agenda.System.Moves
import Agenda.System.Potential

/-!
Letting a system do all it can while the clock stands still.
-/

namespace Agenda.System

universe u

variable {V : Type u}

def settleWithin : Nat → SchedulerId → System V → System V
  | 0, _, system => system
  | limit + 1, turn, system =>
      match system.move? turn with
      | none => system
      | some (turn, moved) => settleWithin limit turn moved

def settle (system : System V) : System V := settleWithin system.potential ⟨0⟩ system

end Agenda.System
