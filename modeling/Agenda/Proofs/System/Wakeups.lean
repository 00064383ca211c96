import Agenda.Proofs.System.Parking
import Agenda.Proofs.System.Reach
import Mathlib

/-!
# No wakeup is lost

A worker of a reachable system that has done all it can is parked for a reason, and nothing is
overdue in its queue.
-/

namespace Agenda.System

universe u

variable {V : Type u} {system : System V} {id : SchedulerId} {scheduler : Scheduler (Work V)}

/-- No wakeup is lost: in every reachable system a worker that has done all it can, and is not in
the middle of a task, is in exactly one of three places, and nothing is overdue in its queue. -/
theorem exists_unique_park (reachable : Reachable system)
    (found : system.scheduler? id = some scheduler) (still : system.moveWorker? id = none)
    (free : scheduler.worker.isBusy = false) :
    ((scheduler.IsOver ∧ ¬ scheduler.IsIdle ∧ ¬ scheduler.IsSleeping system.now) ∨
      (¬ scheduler.IsOver ∧ scheduler.IsIdle ∧ ¬ scheduler.IsSleeping system.now) ∨
      (¬ scheduler.IsOver ∧ ¬ scheduler.IsIdle ∧ scheduler.IsSleeping system.now)) ∧
      ∀ entry ∈ scheduler.queue.toList, system.now < entry.due := by
  obtain ⟨awake, asleep⟩ := still_of_moveWorker? found still free
  have parked := (reachable.sound found).parked awake asleep free
  refine ⟨?_, fun entry held => Scheduler.not_overdue parked held⟩
  rcases parked with past | idle | sleeping
  · exact .inl ⟨past, past.not_isIdle, past.not_isSleeping⟩
  · exact .inr (.inl ⟨fun past => past.not_isIdle idle, idle, idle.not_isSleeping⟩)
  · exact .inr (.inr ⟨fun past => past.not_isSleeping sleeping,
      fun idle => idle.not_isSleeping sleeping, sleeping⟩)

theorem exists_unique_park_asleep :
    ∃ (system : System Nat) (scheduler : Scheduler (Work Nat)),
      Reachable system ∧ system.scheduler? ⟨0⟩ = some scheduler ∧
        system.moveWorker? ⟨0⟩ = none ∧ scheduler.worker.isBusy = false ∧
        scheduler.IsSleeping system.now := by
  have empty : Reachable ({} : System Nat) := .start
  have created := empty.step (.deed _ (.request (.create "main" {})))
  have accepted := created.step (.deed _ (.submit "main" "task" (.at 50) .done))
  generalize given : (Session.perform (Session.perform ({} : System Nat)
    (.request (.create "main" {}))).2 (.submit "main" "task" (.at 50) .done)).2 = start at accepted
  have parks : ((start.moveWorker? ⟨0⟩).bind (·.moveWorker? ⟨0⟩)).any fun system =>
      (system.moveWorker? ⟨0⟩).isNone && (system.scheduler? ⟨0⟩).any fun scheduler =>
        !scheduler.worker.isBusy && scheduler.queue.size == 1 := by
    rw [← given]
    cbv
  obtain ⟨system, moves, parks⟩ := (Option.any_eq_true _ _).1 parks
  obtain ⟨up, starts, looks⟩ := Option.bind_eq_some_iff.1 moves
  rw [Bool.and_eq_true, Option.isNone_iff_eq_none] at parks
  obtain ⟨still, parked⟩ := parks
  obtain ⟨scheduler, found, parked⟩ := (Option.any_eq_true _ _).1 parked
  simp only [Bool.and_eq_true, Bool.not_eq_true', beq_iff_eq] at parked
  obtain ⟨free, size⟩ := parked
  have reachable := (accepted.step (.worker starts)).step (.worker looks)
  refine ⟨system, scheduler, reachable, found, still, free, ?_⟩
  have occupied : scheduler.queue.toList ≠ [] := by
    rw [ne_eq, Scheduler.toList_eq_nil_iff, size]
    exact Nat.one_ne_zero
  rcases (exists_unique_park reachable found still free).1 with past | idle | sleeping
  · exact absurd past.1.queue occupied
  · exact absurd idle.2.1.queue occupied
  · exact sleeping.2.2

end Agenda.System
