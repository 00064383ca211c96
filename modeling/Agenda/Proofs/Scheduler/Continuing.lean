import Agenda.Proofs.Scheduler.Soundness

/-!
# What a worker leaves alone

A worker that goes on changes neither the settings nor the stop signal, accepts nothing, and
adds nothing to the queue.  So whatever holds of all work that was accepted holds of all work in the
queue and in progress.  The stop signal is not taken back, whoever gave it.
-/

namespace Agenda.Scheduler

universe u

variable {ω : Type u} {before after : Scheduler ω} {now : Int}

structure Continues (before after : Scheduler ω) : Prop where
  settings : after.settings = before.settings
  halted : after.halted = before.halted
  stopped : after.stopped = true → before.stopped = true ∨ after.halted = true
  count : after.roster.count = before.roster.count
  queue : after.queue.toList ⊆ before.queue.toList

theorem Continues.refl (scheduler : Scheduler ω) : Continues scheduler scheduler :=
  ⟨rfl, rfl, .inl, rfl, List.Subset.refl _⟩

theorem Continues.trans {middle : Scheduler ω} (first : Continues before middle)
    (second : Continues middle after) : Continues before after := by
  refine ⟨second.settings.trans first.settings, second.halted.trans first.halted, ?_,
    second.count.trans first.count, List.Subset.trans second.queue first.queue⟩
  intro stopped
  rcases second.stopped stopped with earlier | halted
  · rcases first.stopped earlier with already | halted
    · exact .inl already
    · exact .inr (second.halted.trans halted)
  · exact .inr halted

theorem continues_signalDrained (scheduler : Scheduler ω) :
    Continues scheduler scheduler.signalDrained := by
  unfold signalDrained
  split
  · exact ⟨rfl, rfl, .inl, rfl, List.Subset.refl _⟩
  · exact .refl _

theorem continues_discard {scheduler : Scheduler ω} {head : Entry ω} {rest : TaskQueue ω}
    (popped : scheduler.queue.pop? = some (head, rest)) (id : TaskId) :
    Continues scheduler (scheduler.discard id rest) := by
  have shorter : Continues scheduler ({ scheduler with queue := rest }.note (.discarded id)) :=
    ⟨rfl, rfl, .inl, rfl, fun _ held => Stored.mem_of_pop? popped held⟩
  exact shorter.trans (continues_signalDrained _)

theorem Chooses.continues (chosen : Chooses now before after) : Continues before after := by
  induction chosen with
  | exit vacant stopped => exact ⟨rfl, rfl, .inl, rfl, List.Subset.refl _⟩
  | idle vacant stopped => exact ⟨rfl, rfl, .inl, rfl, List.Subset.refl _⟩
  | sleep popped pending early => exact ⟨rfl, rfl, .inl, rfl, List.Subset.refl _⟩
  | begin popped pending due =>
      exact ⟨rfl, rfl, .inl, Roster.count_resolve .., fun _ held => Stored.mem_of_pop? popped held⟩
  | discard popped resolved _ inductionHypothesis =>
      exact (continues_discard popped _).trans inductionHypothesis

theorem Chooses.mem_of_busy (chosen : Chooses now before after) {id : TaskId} {work : ω}
    (looking : before.worker = .looking) (busy : after.worker = .busy id work) :
    ∃ entry ∈ before.queue.toList, entry.id = id ∧ entry.work = work ∧ entry.due ≤ now := by
  induction chosen with
  | exit vacant stopped => cases busy
  | idle vacant stopped => cases busy
  | sleep popped pending early => cases busy
  | begin popped pending due =>
      cases busy
      exact ⟨_, Stored.head_mem popped, rfl, rfl, due⟩
  | discard popped resolved _ inductionHypothesis =>
      obtain ⟨entry, held, rest⟩ := inductionHypothesis (by simpa using looking) busy
      rw [queue_discard] at held
      exact ⟨entry, Stored.mem_of_pop? popped held, rest⟩

theorem continues_look (scheduler : Scheduler ω) (now : Int) :
    Continues scheduler (scheduler.look now) := by
  unfold look
  split
  · rename_i halted
    exact ⟨rfl, rfl, fun _ => .inr halted, Roster.count_cancelAll .., nofun⟩
  · exact (chooses_choose scheduler now).continues

theorem mem_of_busy_look {scheduler : Scheduler ω} {id : TaskId} {work : ω}
    (looking : scheduler.worker = .looking) (busy : (scheduler.look now).worker = .busy id work) :
    ∃ entry ∈ scheduler.queue.toList, entry.id = id ∧ entry.work = work ∧ entry.due ≤ now := by
  unfold look at busy
  split at busy
  · cases busy
  · exact (chooses_choose scheduler now).mem_of_busy looking busy

theorem Wakes.continues (wakes : Wakes before after) : Continues before after := by
  refine ⟨wakes.settings, wakes.halted, ?_, congrArg Roster.count wakes.roster, ?_⟩
  · rw [wakes.stopped]
    exact .inl
  · rw [wakes.queue]
    exact List.Subset.refl _

theorem continues_finish (scheduler : Scheduler ω) : Continues scheduler scheduler.finish := by
  have looking : Continues scheduler { scheduler with worker := .looking } :=
    ⟨rfl, rfl, .inl, rfl, List.Subset.refl _⟩
  exact looking.trans (continues_signalDrained _)

/-- A step accepts one task or none. -/
theorem Step.count {occurred : List Occurrence} (step : before.Step now occurred after) :
    after.roster.count = before.roster.count ∨
      before.isStopped = false ∧ after.roster.count = before.roster.count + 1 := by
  cases step with
  | submit accepted =>
      obtain ⟨running, _, ready, interrupt, journal, rfl⟩ := eq_of_submit? accepted
      exact .inr ⟨running, Roster.count_accept _⟩
  | cancel id =>
      rw [roster_cancel, Roster.count_resolve]
      exact .inl rfl
  | stopInside _ =>
      unfold Scheduler.stopInside
      split <;> exact .inl rfl
  | close _ =>
      unfold Scheduler.close
      split <;> exact .inl rfl
  | look _ => exact .inl (continues_look before now).count
  | wake woke => exact .inl (wakes_of_wake? woke).continues.count
  | fail message _ =>
      rw [roster_fail]
      exact .inl rfl
  | finish _ => exact .inl (continues_finish before).count
  | _ => exact .inl rfl

theorem Step.count_le {occurred : List Occurrence} (step : before.Step now occurred after) :
    before.roster.count ≤ after.roster.count := by
  rcases step.count with same | ⟨_, more⟩
  · exact Nat.le_of_eq same.symm
  · rw [more]
    exact Nat.le_succ _

structure Remembers (before after : Scheduler ω) : Prop where
  stopped : before.stopped = true → after.stopped = true
  halted : before.halted = true → after.halted = true
  joined : before.joined = true → after.joined = true

theorem Remembers.of_eq (stopped : after.stopped = before.stopped)
    (halted : after.halted = before.halted) (joined : after.joined = before.joined) :
    Remembers before after := by
  refine ⟨?_, ?_, ?_⟩
  · rw [stopped]
    exact id
  · rw [halted]
    exact id
  · rw [joined]
    exact id

theorem Remembers.trans {middle : Scheduler ω} (first : Remembers before middle)
    (second : Remembers middle after) : Remembers before after :=
  ⟨fun set => second.stopped (first.stopped set), fun set => second.halted (first.halted set),
    fun set => second.joined (first.joined set)⟩

theorem Remembers.isStopped (remembers : Remembers before after)
    (stopped : before.isStopped = true) : after.isStopped = true := by
  rw [Scheduler.isStopped, Bool.or_eq_true] at stopped ⊢
  exact stopped.imp remembers.halted remembers.stopped

theorem remembers_signalDrained (scheduler : Scheduler ω) :
    Remembers scheduler scheduler.signalDrained := by
  unfold signalDrained
  split <;> exact .of_eq rfl rfl rfl

theorem Chooses.remembers (chosen : Chooses now before after) : Remembers before after := by
  induction chosen with
  | exit _ _ => exact .of_eq rfl rfl rfl
  | idle _ _ => exact .of_eq rfl rfl rfl
  | sleep _ _ _ => exact .of_eq rfl rfl rfl
  | begin _ _ _ => exact .of_eq rfl rfl rfl
  | @discard scheduler last head rest _ _ _ inductionHypothesis =>
      have shorter : Remembers scheduler
          ({ scheduler with queue := rest }.note (.discarded head.id)) := .of_eq rfl rfl rfl
      exact (shorter.trans (remembers_signalDrained _)).trans inductionHypothesis

theorem Step.remembers {occurred : List Occurrence} (step : before.Step now occurred after) :
    Remembers before after := by
  cases step with
  | submit accepted =>
      obtain ⟨_, _, ready, interrupt, journal, rfl⟩ := eq_of_submit? accepted
      exact .of_eq rfl rfl rfl
  | cancel id =>
      unfold Scheduler.cancel
      split <;> exact .of_eq rfl rfl rfl
  | disown id => exact .of_eq rfl rfl rfl
  | halt => exact ⟨id, fun _ => rfl, id⟩
  | stopInside _ =>
      unfold Scheduler.stopInside
      split
      · exact .of_eq rfl rfl rfl
      · exact ⟨fun _ => rfl, id, id⟩
  | close _ =>
      unfold Scheduler.close
      split
      · exact .of_eq rfl rfl rfl
      · exact ⟨fun _ => rfl, id, id⟩
  | join => exact ⟨id, id, fun _ => rfl⟩
  | look _ =>
      unfold Scheduler.look
      split
      · exact ⟨fun _ => rfl, id, id⟩
      · exact (chooses_choose before now).remembers
  | wake woke =>
      have wakes := wakes_of_wake? woke
      exact .of_eq wakes.stopped wakes.halted wakes.joined
  | proceed rest busy => exact .of_eq rfl rfl rfl
  | fail message busy =>
      unfold Scheduler.fail
      dsimp only
      split <;> exact .of_eq rfl rfl rfl
  | finish busy =>
      have looking : Remembers before { before with worker := .looking } := .of_eq rfl rfl rfl
      exact looking.trans (remembers_signalDrained _)

theorem Step.settings {occurred : List Occurrence} (step : before.Step now occurred after) :
    after.settings = before.settings := by
  cases step with
  | submit accepted =>
      obtain ⟨_, _, ready, interrupt, journal, rfl⟩ := eq_of_submit? accepted
      rfl
  | cancel id => exact settings_cancel before id
  | stopInside _ =>
      unfold Scheduler.stopInside
      split <;> rfl
  | close _ =>
      unfold Scheduler.close
      split <;> rfl
  | look _ => exact (continues_look before now).settings
  | wake woke => exact (wakes_of_wake? woke).settings
  | fail message _ =>
      unfold Scheduler.fail
      dsimp only
      split <;> rfl
  | finish _ => exact (continues_finish before).settings
  | _ => rfl

/-- All work of the scheduler, queued or in progress, is of some kind. -/
structure Bears (kind : ω → Prop) (scheduler : Scheduler ω) : Prop where
  queued : ∀ entry ∈ scheduler.queue.toList, kind entry.work
  busy : ∀ {id work}, scheduler.worker = .busy id work → kind work

namespace Bears

variable {kind : ω → Prop}

theorem imp {wider : ω → Prop} (bears : before.Bears kind)
    (implies : ∀ {work}, kind work → wider work) : before.Bears wider :=
  ⟨fun entry held => implies (bears.queued entry held), fun busy => implies (bears.busy busy)⟩

theorem goOn (bears : before.Bears kind) (continues : Continues before after)
    (busy : ∀ {id work}, after.worker = .busy id work → before.worker = .busy id work ∨
      ∃ entry ∈ before.queue.toList, entry.work = work) : after.Bears kind := by
  refine ⟨fun entry held => bears.queued entry (continues.queue held), ?_⟩
  intro id work running
  rcases busy running with already | ⟨entry, held, rfl⟩
  · exact bears.busy already
  · exact bears.queued entry held

theorem look (bears : before.Bears kind) (looking : before.worker = .looking) (now : Int) :
    (before.look now).Bears kind := by
  apply bears.goOn (continues_look before now)
  intro id work running
  obtain ⟨entry, held, _, same, _⟩ := mem_of_busy_look looking running
  exact .inr ⟨entry, held, same⟩

theorem wake (bears : before.Bears kind) (wakes : Wakes before after) : after.Bears kind := by
  apply bears.goOn wakes.continues
  intro id work running
  cases wakes.worker.symm.trans running

theorem finish (bears : before.Bears kind) : before.finish.Bears kind := by
  apply bears.goOn (continues_finish before)
  intro id work running
  rw [Scheduler.finish, worker_signalDrained] at running
  cases running

theorem cancel (bears : before.Bears kind) (id : TaskId) : (before.cancel id).2.Bears kind := by
  constructor
  · rw [queue_cancel]
    exact bears.queued
  · rw [worker_cancel]
    exact bears.busy

theorem submit (bears : before.Bears kind) {due : Int} {work : ω} (fits : kind work) {id : TaskId}
    (accepted : before.submit? due work = some (id, after)) : after.Bears kind := by
  obtain ⟨_, _, ready, interrupt, journal, rfl⟩ := eq_of_submit? accepted
  refine ⟨?_, bears.busy⟩
  intro entry held
  rcases Heap.mem_insert_iff.1 held with new | old
  · rw [new]
    exact fits
  · exact bears.queued entry old

end Bears

end Agenda.Scheduler

namespace Agenda

theorem Run.settings {ω : Type*} {first last : Moment ω} {record : List Occurrence}
    (run : Run first record last) : last.scheduler.settings = first.scheduler.settings :=
  run.keeps (motive := fun scheduler => scheduler.settings = first.scheduler.settings)
    (fun same step => step.settings.trans same) rfl

end Agenda
