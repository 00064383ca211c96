import Agenda.Proofs.Scheduler.Soundness
import Agenda.System.Moves

/-!
# Parked workers

A worker that has nothing to do at the present time is at its end, waits for a first task, or
sleeps for a queue in which nothing is due before it wakes.
-/

namespace Agenda

universe u

variable {ω : Type u} {V : Type u}

namespace Scheduler

/-- The worker has exited, and nothing is queued or will be. -/
structure IsOver (scheduler : Scheduler ω) : Prop where
  worker : scheduler.worker = .exited
  queue : scheduler.queue.toList = []
  stopped : scheduler.stopped = true

structure IsIdle (scheduler : Scheduler ω) : Prop where
  worker : scheduler.worker = .idle
  queue : scheduler.queue.toList = []
  running : scheduler.stopped = false

/-- The worker sleeps until a time to come, before which nothing is due. -/
def IsSleeping (scheduler : Scheduler ω) (now : Int) : Prop :=
  ∃ due, scheduler.worker = .asleep due ∧ now < due ∧ scheduler.queue.toList ≠ [] ∧
    ∀ entry ∈ scheduler.queue.toList, due ≤ entry.due

variable {scheduler : Scheduler ω} {now : Int}

theorem toList_eq_nil_iff {queue : TaskQueue ω} : queue.toList = [] ↔ queue.size = 0 := by
  rw [← Heap.length_toList, List.length_eq_zero_iff]

theorem IsOver.not_isIdle (past : scheduler.IsOver) : ¬ scheduler.IsIdle := by
  intro idle
  cases past.worker.symm.trans idle.worker

theorem IsOver.not_isSleeping (past : scheduler.IsOver) : ¬ scheduler.IsSleeping now := by
  rintro ⟨due, asleep, _⟩
  cases past.worker.symm.trans asleep

theorem IsIdle.not_isSleeping (idle : scheduler.IsIdle) : ¬ scheduler.IsSleeping now := by
  rintro ⟨due, asleep, _⟩
  cases idle.worker.symm.trans asleep

/-- A park has its reason as long as there is none to wake. -/
theorem Sound.parked (sound : scheduler.Sound) (awake : scheduler.worker ≠ .looking)
    (still : scheduler.wake? now = none) (free : scheduler.worker.isBusy = false) :
    scheduler.IsOver ∨ scheduler.IsIdle ∨ scheduler.IsSleeping now := by
  cases place : scheduler.worker with
  | looking => exact absurd place awake
  | busy id work => simp [place, Worker.isBusy] at free
  | starting => simp [wake?, place] at still
  | exited =>
      obtain ⟨vacant, stopped⟩ := sound.exited place
      exact .inl ⟨place, toList_eq_nil_iff.2 vacant, stopped⟩
  | idle =>
      obtain ⟨_, unsignalled⟩ := (wake?_idle_eq_none_iff place).1 still
      rcases sound.idle place with ready | ⟨vacant, running⟩
      · rw [unsignalled] at ready
        cases ready
      · exact .inr (.inl ⟨place, toList_eq_nil_iff.2 vacant, running⟩)
  | asleep due =>
      obtain ⟨_, unsignalled, early⟩ := (wake?_asleep_eq_none_iff place).1 still
      obtain ⟨occupied, reason⟩ := sound.asleep place
      rcases reason with interrupt | later
      · rw [unsignalled] at interrupt
        cases interrupt
      · refine .inr (.inr ⟨due, place, early, ?_, later⟩)
        rw [ne_eq, toList_eq_nil_iff]
        exact occupied

theorem exited_of_halted (awake : scheduler.worker ≠ .looking) (still : scheduler.wake? now = none)
    (free : scheduler.worker.isBusy = false) (halted : scheduler.halted = true) :
    scheduler.worker = .exited := by
  cases place : scheduler.worker with
  | looking => exact absurd place awake
  | starting => simp [wake?, place] at still
  | idle =>
      have running := ((wake?_idle_eq_none_iff place).1 still).1
      cases halted.symm.trans running
  | asleep due =>
      have running := ((wake?_asleep_eq_none_iff place).1 still).1
      cases halted.symm.trans running
  | busy id work => simp [place, Worker.isBusy] at free
  | exited => rfl

theorem Sound.exited_of_stopped (sound : scheduler.Sound) (awake : scheduler.worker ≠ .looking)
    (still : scheduler.wake? now = none) (free : scheduler.worker.isBusy = false)
    (stopped : scheduler.stopped = true) (vacant : scheduler.queue.toList = []) :
    scheduler.worker = .exited := by
  rcases sound.parked awake still free with past | idle | ⟨_, _, _, occupied, _⟩
  · exact past.worker
  · cases stopped.symm.trans idle.running
  · exact absurd vacant occupied

theorem not_overdue (parked : scheduler.IsOver ∨ scheduler.IsIdle ∨ scheduler.IsSleeping now)
    {entry : Entry ω} (held : entry ∈ scheduler.queue.toList) : now < entry.due := by
  rcases parked with past | idle | ⟨due, _, early, _, later⟩
  · rw [past.queue] at held
    cases held
  · rw [idle.queue] at held
    cases held
  · exact Int.lt_of_lt_of_le early (later entry held)

end Scheduler

namespace System

variable {system : System V} {id : SchedulerId} {scheduler : Scheduler (Work V)}

/-- A worker without a move, and not in the middle of a task, has nothing to wake for. -/
theorem still_of_moveWorker? (found : system.scheduler? id = some scheduler)
    (still : system.moveWorker? id = none) (free : scheduler.worker.isBusy = false) :
    scheduler.worker ≠ .looking ∧ scheduler.wake? system.now = none := by
  rw [moveWorker?, found, Option.bind_some] at still
  cases place : scheduler.worker with
  | looking => simp [place] at still
  | busy task work => simp [place, Worker.isBusy] at free
  | _ =>
      simp only [place, Option.map_eq_none_iff] at still
      exact ⟨by simp, still⟩

end System

end Agenda
