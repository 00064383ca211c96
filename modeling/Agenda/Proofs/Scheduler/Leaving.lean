import Agenda.Proofs.Scheduler.Completing

/-!
# How a worker leaves

Without a stop signal a worker exits only when its scheduler is stopped and nothing is left in the
queue.  What has begun shows in the journal once, with a time that has come.
-/

namespace Agenda

universe u

variable {ω : Type u}

namespace Scheduler

structure Leaves (moment : Moment ω) : Prop where
  stopped : moment.scheduler.stopped = true
  /-- What is still in the queue has been cancelled, and is discarded in the look. -/
  queued : ∀ entry ∈ moment.scheduler.queue.toList,
    moment.scheduler.roster.fate? entry.id = some .cancelled
  vacant : (moment.scheduler.look moment.now).queue.toList = []
  exited : (moment.scheduler.look moment.now).worker = .exited

variable {before after : Scheduler ω} {now : Int}

/-- What a choice has seen that lets the worker exit. -/
theorem Chooses.leaves (chosen : Chooses now before after) (exited : after.worker = .exited) :
    before.stopped = true ∧ after.queue.toList = [] ∧
      ∀ entry ∈ before.queue.toList, before.roster.fate? entry.id ≠ some .pending := by
  induction chosen with
  | @exit scheduler vacant stopped =>
      have empty : scheduler.queue.toList = [] := by
        rw [← List.length_eq_zero_iff, Heap.length_toList]
        exact Heap.pop?_eq_none_iff.1 vacant
      refine ⟨stopped, empty, ?_⟩
      rw [empty]
      nofun
  | idle _ _ => cases exited
  | sleep _ _ _ => cases exited
  | begin _ _ _ => cases exited
  | discard popped resolved _ inductionHypothesis =>
      obtain ⟨stopped, empty, rest⟩ := inductionHypothesis exited
      rw [stopped_discard] at stopped
      rw [queue_discard, roster_discard] at rest
      refine ⟨stopped, empty, fun entry held => ?_⟩
      rcases (Heap.mem_iff_of_pop? popped).1 held with rfl | later
      · exact resolved
      · exact rest entry later

/-- A worker that exits in a step has looked. -/
theorem Step.looking_of_exited {occurred : List Occurrence}
    (step : before.Step now occurred after) (awake : before.worker ≠ .exited)
    (exited : after.worker = .exited) :
    before.worker = .looking ∧ after = before.look now := by
  have still (same : after.worker = before.worker) : before.worker = .looking ∧
      after = before.look now := absurd (same.symm.trans exited) awake
  cases step with
  | submit accepted =>
      obtain ⟨_, _, ready, interrupt, journal, rfl⟩ := eq_of_submit? accepted
      exact still rfl
  | cancel id => exact still (worker_cancel ..)
  | stopInside _ =>
      refine still ?_
      unfold Scheduler.stopInside
      split <;> rfl
  | close _ =>
      refine still ?_
      unfold Scheduler.close
      split <;> rfl
  | look looking => exact ⟨looking, rfl⟩
  | wake woke => cases (wakes_of_wake? woke).worker.symm.trans exited
  | proceed rest _ => cases exited
  | fail message _ => exact still (worker_fail ..)
  | finish _ =>
      rw [Scheduler.finish, worker_signalDrained] at exited
      cases exited
  | _ => exact still rfl

theorem Sound.leaves (sound : before.Sound) (running : before.halted = false)
    (exited : (before.look now).worker = .exited) : Leaves ⟨now, before⟩ := by
  have chosen : before.look now = before.choose now := by
    rw [Scheduler.look, running]
    rfl
  have shown := (chooses_choose before now).leaves (by rw [← chosen]; exact exited)
  obtain ⟨stopped, empty, resolved⟩ := shown
  refine ⟨stopped, fun entry held => ?_, ?_, exited⟩
  · exact (sound.stored.waiting entry held).resolve_left (resolved entry held)
  · rw [chosen]
    exact empty

end Scheduler

namespace Run

variable {first last : Moment ω} {record : List Occurrence}

/-- A worker that has exited without a stop signal has left at some moment of the run. -/
theorem leaves (run : Run first record last) (sound : first.scheduler.Sound)
    (awake : first.scheduler.worker ≠ .exited) (exited : last.scheduler.worker = .exited)
    (running : last.scheduler.halted = false) :
    ∃ moment earlier later, Run first earlier moment ∧ Scheduler.Leaves moment ∧
      Run ⟨moment.now, moment.scheduler.look moment.now⟩ later last := by
  induction run with
  | rest => exact absurd exited awake
  | @step record occurred middle after taken step inductionHypothesis =>
      have before : middle.scheduler.halted = false := by
        rw [← Bool.not_eq_true] at running ⊢
        exact fun halted => running (step.remembers.halted halted)
      by_cases already : middle.scheduler.worker = .exited
      · obtain ⟨moment, earlier, later, run, leaves, onward⟩ := inductionHypothesis already before
        exact ⟨moment, earlier, _, run, leaves, onward.step step⟩
      · obtain ⟨_, rfl⟩ := step.looking_of_exited already exited
        exact ⟨middle, record, [], taken, (taken.sound sound).leaves before exited, .rest⟩
  | pass _ order inductionHypothesis =>
      obtain ⟨moment, earlier, later, run, leaves, onward⟩ := inductionHypothesis exited running
      exact ⟨moment, earlier, later, run, leaves, onward.pass order⟩

theorem began_le (run : Run first record last) (sound : first.scheduler.Sound) {id : TaskId}
    {time : Int} (began : .began id time ∈ record) : time ≤ last.now := by
  induction run with
  | rest => cases began
  | step taken step inductionHypothesis =>
      rcases List.mem_append.1 began with earlier | now
      · exact inductionHypothesis earlier
      · exact Int.le_of_eq ((step.effect (taken.sound sound)).pending_of_began now).2.2
  | pass _ order inductionHypothesis => exact Int.le_trans (inductionHypothesis began) order

/-- What has begun shows in the journal, once. -/
theorem filter_begun {settings : Settings} {halted : Bool} {now time : Int} {id : TaskId}
    (run : Run ⟨now, Scheduler.start settings halted⟩ record last) (began : .began id time ∈ record) :
    (last.scheduler.begun.filter fun shown => shown.1 = id) = [(id, time)] := by
  have chronicle := run.chronicle (Scheduler.sound_start settings halted) (.empty settings halted)
  have shown : last.scheduler.begun = record.filterMap Occurrence.begun? := run.begun
  have listed : (id, time) ∈ last.scheduler.begun.filter fun shown => shown.1 = id := by
    rw [shown, List.mem_filter, List.mem_filterMap]
    exact ⟨⟨_, began, rfl⟩, decide_eq_true rfl⟩
  have single : (last.scheduler.begun.filter fun shown => shown.1 = id).length ≤ 1 := by
    rw [shown, ← List.countP_eq_length_filter, List.countP_filterMap]
    refine Nat.le_trans (List.countP_mono_left fun occurrence _ kind => ?_) (chronicle.once id)
    cases occurrence <;> simp_all [Occurrence.begun?, Occurrence.decides]
  obtain ⟨only, alone⟩ := List.length_eq_one_iff.1
    (Nat.le_antisymm single (List.length_pos_of_mem listed))
  rw [alone, List.mem_singleton] at listed
  rw [alone, listed]

end Run

end Agenda
