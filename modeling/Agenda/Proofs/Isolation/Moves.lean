import Agenda.Proofs.Isolation.Answers
import Agenda.Proofs.System.Settled

/-!
# The calm image moves in step

Whatever move a system has, its calm image has it too, and stays its calm image: where a task
panics, the same task of the calm image ends.
-/

namespace Agenda.System

universe u

variable {V : Type u}

section Calls

variable (system : System V)

end Calls

section Workers

variable (system : System V) (id : SchedulerId) (scheduler : Scheduler (Work V))

end Workers

section Settling

variable (system : System V)

theorem settleWithin_of_le {limit more : Nat} (enough : limit ≤ more) (turn : SchedulerId)
    (settled : (settleWithin limit turn system).IsSettled) :
    settleWithin more turn system = settleWithin limit turn system := by
  induction limit generalizing turn system more with
  | zero =>
      cases more with
      | zero => rfl
      | succ more =>
          unfold settleWithin
          rw [show system.move? turn = none from settled turn]
  | succ limit inductionHypothesis =>
      cases more with
      | zero => omega
      | succ more =>
          unfold settleWithin at settled ⊢
          cases moved : system.move? turn with
          | none => rfl
          | some next =>
              rw [moved] at settled
              exact inductionHypothesis next.2 (Nat.le_of_succ_le_succ enough) next.1 settled

end Settling

end Agenda.System
