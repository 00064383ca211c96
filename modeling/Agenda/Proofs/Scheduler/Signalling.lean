import Agenda.Proofs.Scheduler.Completing

/-!
# Signals to those who wait

A scheduler that is not drained becomes drained only in a step that signals it: at the end of its
last task, when its last entry is discarded, or when the stop signal empties the queue.  So a call
that is parked on a scheduler which is drained has a signal to wake for.
-/

namespace Agenda

universe u

variable {ω : Type u} {V : Type u}

namespace Scheduler

/-- Signals are not taken back, and a scheduler that has become drained has given one. -/
structure Signals (before after : Scheduler ω) : Prop where
  drains : before.drains ≤ after.drains
  drained : after.isDrained = true → before.isDrained = true ∨ before.drains < after.drains

variable {before middle after : Scheduler ω} {now : Int}

theorem isDrained_iff {scheduler : Scheduler ω} :
    scheduler.isDrained = true ↔ scheduler.queue.size = 0 ∧ scheduler.worker.isBusy = false := by
  simp [isDrained, isEmpty, isRunning, Heap.isEmpty, Heap.size]

theorem Closed.isDrained (closed : before.Closed) : before.isDrained = true := by
  refine isDrained_iff.2 ⟨?_, closed.free⟩
  rw [← Heap.length_toList, closed.queue]
  rfl

theorem closed_of_isDrained (drained : before.isDrained = true) (stopped : before.stopped = true) :
    before.Closed := by
  obtain ⟨vacant, free⟩ := isDrained_iff.1 drained
  refine ⟨stopped, ?_, free⟩
  rw [← List.length_eq_zero_iff, Heap.length_toList, vacant]

namespace Signals

theorem of_eq (queue : after.queue = before.queue)
    (worker : after.worker.isBusy = before.worker.isBusy) (drains : after.drains = before.drains) :
    Signals before after := by
  refine ⟨Nat.le_of_eq drains.symm, fun drained => .inl ?_⟩
  rw [isDrained_iff] at drained ⊢
  rwa [queue, worker] at drained

theorem trans (first : Signals before middle) (second : Signals middle after) :
    Signals before after := by
  have earlier := first.drains
  have later := second.drains
  refine ⟨Nat.le_trans earlier later, fun drained => ?_⟩
  rcases second.drained drained with already | signalled
  · exact (first.drained already).imp_right fun signalled => Nat.lt_of_lt_of_le signalled later
  · exact .inr (Nat.lt_of_le_of_lt earlier signalled)

/-- Whatever the queue and the worker have become, a signal is given if that means to be drained. -/
theorem signalDrained (drains : after.drains = before.drains) :
    Signals before after.signalDrained := by
  unfold Scheduler.signalDrained
  split
  · exact ⟨Nat.le_succ_of_le (Nat.le_of_eq drains.symm),
      fun _ => .inr (Nat.lt_succ_of_le (Nat.le_of_eq drains.symm))⟩
  · rename_i occupied
    exact ⟨Nat.le_of_eq drains.symm, fun drained => absurd drained occupied⟩

theorem of_not_drained (drains : after.drains = before.drains)
    (occupied : after.isDrained = false) : Signals before after := by
  refine ⟨Nat.le_of_eq drains.symm, fun drained => ?_⟩
  rw [occupied] at drained
  cases drained

theorem submit {due : Int} {work : ω} {id : TaskId}
    (accepted : before.submit? due work = some (id, after)) : Signals before after := by
  obtain ⟨_, _, ready, interrupt, journal, rfl⟩ := eq_of_submit? accepted
  refine of_not_drained rfl ?_
  rw [← Bool.not_eq_true, isDrained_iff]
  intro drained
  exact absurd ((Heap.size_insert ..).symm.trans drained.1) (Nat.succ_ne_zero _)

theorem choose (chosen : Chooses now before after) (looking : before.worker = .looking) :
    Signals before after := by
  induction chosen with
  | exit _ _ => exact of_eq rfl (by rw [looking]; rfl) rfl
  | idle _ _ => exact of_eq rfl (by rw [looking]; rfl) rfl
  | sleep _ _ _ => exact of_eq rfl (by rw [looking]; rfl) rfl
  | begin _ _ _ =>
      refine of_not_drained rfl ?_
      rw [← Bool.not_eq_true, isDrained_iff]
      exact fun drained => absurd drained.2 nofun
  | @discard scheduler last head rest _ _ _ inductionHypothesis =>
      have discarded : Signals scheduler (scheduler.discard head.id rest) := signalDrained rfl
      exact discarded.trans (inductionHypothesis (by simpa using looking))

end Signals

theorem Wakes.signals (wakes : Wakes before after) : Signals before after := by
  refine .of_eq wakes.queue ?_ wakes.drains
  rw [wakes.worker, wakes.isBusy]
  rfl

theorem Step.signals {occurred : List Occurrence} (step : before.Step now occurred after) :
    Signals before after := by
  cases step with
  | submit accepted => exact .submit accepted
  | cancel id =>
      unfold Scheduler.cancel
      split <;> exact .of_eq rfl rfl rfl
  | disown id => exact .of_eq rfl rfl rfl
  | halt => exact .of_eq rfl rfl rfl
  | stopInside _ =>
      unfold Scheduler.stopInside
      split <;> exact .of_eq rfl rfl rfl
  | close _ =>
      unfold Scheduler.close
      split <;> exact .of_eq rfl rfl rfl
  | join => exact .of_eq rfl rfl rfl
  | look looking =>
      unfold Scheduler.look
      split
      · exact ⟨Nat.le_succ _, fun _ => .inr (Nat.lt_succ_self _)⟩
      · exact .choose (chooses_choose before now) looking
  | wake woke => exact (wakes_of_wake? woke).signals
  | proceed rest busy => exact .of_eq rfl (by rw [busy]; rfl) rfl
  | fail message busy =>
      unfold Scheduler.fail
      dsimp only
      split <;> exact .of_eq rfl rfl rfl
  | finish busy => exact .signalDrained rfl

theorem Chooses.isDrained (chosen : Chooses now before after) (vacant : before.queue.size = 0) :
    after.isDrained = true := by
  have popped := Heap.pop?_eq_none_iff.2 vacant
  cases chosen with
  | exit _ _ => exact isDrained_iff.2 ⟨vacant, rfl⟩
  | idle _ _ => exact isDrained_iff.2 ⟨vacant, rfl⟩
  | sleep taken _ _ => cases popped.symm.trans taken
  | begin taken _ _ => cases popped.symm.trans taken
  | discard taken _ _ => cases popped.symm.trans taken

/-- A drained scheduler stays drained until it accepts a task. -/
theorem Step.isDrained_or_accepts {occurred : List Occurrence}
    (step : before.Step now occurred after) (drained : before.isDrained = true) :
    after.isDrained = true ∨ before.roster.count < after.roster.count := by
  obtain ⟨vacant, free⟩ := isDrained_iff.1 drained
  have idle {id : TaskId} {work : ω} (busy : before.worker = .busy id work) : False := by
    rw [busy] at free
    cases free
  cases step with
  | submit accepted =>
      obtain ⟨_, _, ready, interrupt, journal, rfl⟩ := eq_of_submit? accepted
      exact .inr (Nat.lt_of_lt_of_eq (Nat.lt_succ_self _) (Roster.count_accept _).symm)
  | cancel id =>
      rw [isDrained_iff, queue_cancel, worker_cancel]
      exact .inl ⟨vacant, free⟩
  | stopInside running => cases free.symm.trans running
  | close _ => exact .inl ((isDrained_close before).trans drained)
  | look _ =>
      unfold Scheduler.look
      split
      · exact .inl (isDrained_iff.2 ⟨rfl, rfl⟩)
      · exact .inl ((chooses_choose before now).isDrained vacant)
  | wake woke =>
      have wakes := wakes_of_wake? woke
      rw [isDrained_iff, wakes.queue, wakes.worker]
      exact .inl ⟨vacant, rfl⟩
  | proceed rest busy => exact (idle busy).elim
  | fail message busy => exact (idle busy).elim
  | finish busy => exact (idle busy).elim
  | _ => exact .inl drained

end Scheduler

theorem Run.signals {first last : Moment ω} {record : List Occurrence} (run : Run first record last) :
    Scheduler.Signals first.scheduler last.scheduler :=
  run.keeps (motive := Scheduler.Signals first.scheduler)
    (fun signals step => signals.trans step.signals) (.of_eq rfl rfl rfl)

theorem Run.isDrained_or_accepts {first last : Moment ω} {record : List Occurrence}
    (run : Run first record last) (drained : first.scheduler.isDrained = true) :
    last.scheduler.isDrained = true ∨
      first.scheduler.roster.count < last.scheduler.roster.count := by
  induction run with
  | rest => exact .inl drained
  | step taken step inductionHypothesis =>
      rcases inductionHypothesis with still | accepted
      · exact (step.isDrained_or_accepts still).imp_right (Nat.lt_of_le_of_lt taken.count_le)
      · exact .inr (Nat.lt_of_lt_of_le accepted step.count_le)
  | pass _ _ inductionHypothesis => exact inductionHypothesis

end Agenda
