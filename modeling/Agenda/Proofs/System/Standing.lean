import Agenda.Proofs.Scheduler.Resting
import Agenda.Proofs.System.Tracing
import Agenda.System.Quiescence.Settling

/-!
# Systems at a standing clock

A worker comes to rest at one time if what runs submits only so much.  In a system this is so: tasks
are scripts, and deletions of cache entries, and the moves that all workers and calls can make before
the next call from outside are bounded by the potential.
-/

namespace Agenda

universe u v

def Operation.isMove {V : Type v} : Operation V → Bool
  | .worker _ => true
  | .call _ => true
  | _ => false

namespace System

variable {V : Type v} {first last before after : System V} {operation : Operation V}
  {record : List (System V × Operation V)}

theorem Does.potential_lt (does : before.Does operation after) (move : operation.isMove = true) :
    after.potential < before.potential := by
  cases does with
  | worker moved => exact potential_lt_of_moveWorker? moved
  | call moved => exact potential_lt_of_moveCall? moved
  | _ => cases move

/-- Every move is paid for out of the potential. -/
theorem Course.length_add_potential_le (course : Course first record last)
    (moves : ∀ taken ∈ record, taken.2.isMove = true) :
    record.length + last.potential ≤ first.potential := by
  induction course with
  | rest => simp
  | @step record last after operation _ does inductionHypothesis =>
      have earlier := inductionHypothesis fun taken listed =>
        moves taken (List.mem_append_left _ listed)
      have spent := does.potential_lt (moves _ (List.mem_append_right _ List.mem_cons_self))
      rw [List.length_append, List.length_singleton]
      omega

end System

/-- No worker spins.  At one time it looks only so often and then rests, if only so much is submitted
in all; and the tasks and deletions of a system submit only so much, whatever is kept, cancelled, past
due or stopped in it. -/
theorem Scheduler.Instant.never_spins {ω : Type u} {now : Int} {instant : Scheduler.Instant now ω}
    (few : {n | instant.submits n = true}.Finite) :
    instant.Settles ∧
      ∀ {V : Type v} {first last : System V} {record : List (System V × Operation V)},
        System.Course first record last → (∀ taken ∈ record, taken.2.isMove = true) →
          record.length + last.potential ≤ first.potential :=
  ⟨Scheduler.Instant.settles few, System.Course.length_add_potential_le⟩

/-- Of four tasks one was cancelled, two are past due, one of them submitted by the other, and the last
one is not due.  The worker looks four times, once for a kept wakeup only, and then it sleeps, with
another wakeup still kept.  In a system whose cache holds a value for no time at all, and where a task
renews it for no time at all, eleven moves bring the worker to rest. -/
theorem Scheduler.Instant.never_spins_of_past_due :
    ∃ (instant : Scheduler.Instant 5 Unit) (first last : System Nat)
        (record : List (System Nat × Operation Nat)),
      Nat.count (fun n => instant.looks n) 13 = 4 ∧
        (instant.state 13).worker = .asleep 9 ∧ (instant.state 13).ready = true ∧
        instant.Settles ∧ instant.Fair ∧ System.Course first record last ∧ record.length = 11 ∧
        last.moveWorker? ⟨0⟩ = none ∧ record.length + last.potential ≤ first.potential := by
  let acts : List (Scheduler.Act Unit) := [.wake, .submit 9 (), .submit 4 (), .submit 3 (),
    .cancel ⟨3⟩, .look, .submit 5 (), .finish, .look, .finish, .look, .wake, .look]
  let instant : Scheduler.Instant 5 Unit := Scheduler.Instant.play 5 (Scheduler.start {} false) acts
  have looks : Nat.count (fun n => instant.looks n) 13 = 4 := by decide +kernel
  have asleep : (instant.state 13).worker = .asleep 9 := by cbv
  have ready : (instant.state 13).ready = true := by decide +kernel
  have still : (instant.state 13).isRestless 5 = false := by decide +kernel
  have runs : (System.trace? ({} : System Nat) [.deed (.request (.create "main" {})),
      .deed (.request (.createCacheOn "store" "main")),
      .deed (.request (.access "store" "key" (.add 7 (.span 0)))),
      .deed (.submit "main" "renewal" (.at 0)
        (.request (.access "store" "key" (.set 8 (.span 0))) .done))]).any (fun run =>
      (System.trace? run.2 (List.replicate 11 (.worker ⟨0⟩))).any fun later =>
        decide (later.1.length = 11) && (later.1.all fun taken => taken.2.isMove)
          && (later.2.moveWorker? ⟨0⟩).isNone) = true := by
    decide +kernel
  obtain ⟨⟨_, first⟩, _, onward⟩ := (Option.any_eq_true _ _).1 runs
  obtain ⟨⟨record, last⟩, traced, shown⟩ := (Option.any_eq_true _ _).1 onward
  simp only [Bool.and_eq_true, decide_eq_true_eq, List.all_eq_true, Option.isNone_iff_eq_none] at shown
  obtain ⟨⟨length, moves⟩, parked⟩ := shown
  have course : System.Course first record last := .of_trace? traced
  have few : {n | instant.submits n = true}.Finite := Scheduler.Instant.finite_submits_play
  obtain ⟨settles, bound⟩ := Scheduler.Instant.never_spins few
  exact ⟨instant, first, last, record, looks, asleep, ready, settles,
    Scheduler.Instant.fair_play still, course, length, parked, bound course moves⟩

end Agenda
