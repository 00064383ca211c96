import Agenda.Session.Run
import Agenda.System.Quiescence.Settling

/-!
# What settling keeps

What every move keeps holds after settling, and after settling nothing has a move.
-/

namespace Agenda.System

universe u

variable {V : Type u} {motive : System V → Prop} {system : System V}

theorem worker_or_call_of_move? {turn next : SchedulerId} {moved : System V}
    (move : system.move? turn = some (next, moved)) :
    system.moveWorker? next = some moved ∨ next = turn ∧ system.moveWorkers? turn = none ∧
      ∃ position, system.moveCall? position = some moved := by
  unfold move? at move
  split at move
  · rename_i found
    cases move
    obtain ⟨id, _, found⟩ := List.exists_of_findSome?_eq_some found
    obtain ⟨_, byWorker, same⟩ := Option.map_eq_some_iff.1 found
    cases same
    exact .inl byWorker
  · rename_i none
    obtain ⟨_, calls, same⟩ := Option.map_eq_some_iff.1 move
    cases same
    obtain ⟨position, _, byCall⟩ := List.exists_of_findSome?_eq_some calls
    exact .inr ⟨rfl, none, position, byCall⟩

theorem settleWithin_keeps
    (worker : ∀ {before after id}, motive before → before.moveWorker? id = some after →
      motive after)
    (call : ∀ {before after position}, motive before → before.moveCall? position = some after →
      motive after)
    (limit : Nat) (turn : SchedulerId) (start : motive system) :
    motive (settleWithin limit turn system) := by
  induction limit generalizing turn system with
  | zero => exact start
  | succ limit inductionHypothesis =>
      unfold settleWithin
      split
      · exact start
      · rename_i next moved move
        apply inductionHypothesis
        rcases worker_or_call_of_move? move with byWorker | ⟨_, _, position, byCall⟩
        · exact worker start byWorker
        · exact call start byCall

/-- What every move of a worker and of a call keeps is kept by settling. -/
theorem settle_keeps
    (worker : ∀ {before after id}, motive before → before.moveWorker? id = some after →
      motive after)
    (call : ∀ {before after position}, motive before → before.moveCall? position = some after →
      motive after)
    (start : motive system) : motive system.settle :=
  settleWithin_keeps worker call _ _ start

theorem IsSettled.moveWorker?_eq_none (settled : system.IsSettled) (id : SchedulerId) :
    system.moveWorker? id = none := by
  have still := settled id
  unfold move? at still
  split at still
  · cases still
  · rename_i noWorker
    exact Option.map_eq_none_iff.1 (List.findSome?_eq_none_iff.1 noWorker id List.mem_cons_self)

end Agenda.System
