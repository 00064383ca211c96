import Agenda.Proofs.Scheduler.Promises

/-!
# The end of a scheduler

A scheduler is closed when it takes no more tasks, nothing is queued and nothing runs.  Whatever is
done to a closed scheduler, it stays closed, and its tasks stay what they have become.
-/

namespace Agenda

universe u

variable {ω : Type u}

theorem Worker.isExited_iff {worker : Worker ω} : worker.isExited = true ↔ worker = .exited := by
  cases worker <;> simp [Worker.isExited]

namespace Scheduler

structure Closed (scheduler : Scheduler ω) : Prop where
  stopped : scheduler.stopped = true
  queue : scheduler.queue.toList = []
  free : scheduler.worker.isBusy = false

/-- A closed scheduler has stayed closed, and nothing has happened to its tasks. -/
structure StaysClosed (before after : Scheduler ω) : Prop where
  closed : after.Closed
  fates : ∀ id, after.roster.fate? id = before.roster.fate? id
  begun : after.begun = before.begun
  exited : before.worker = .exited → after.worker = .exited

variable {before after : Scheduler ω} {now : Int}

theorem StaysClosed.refl (closed : before.Closed) : StaysClosed before before :=
  ⟨closed, fun _ => rfl, rfl, id⟩

theorem StaysClosed.trans {middle : Scheduler ω} (first : StaysClosed before middle)
    (second : StaysClosed middle after) : StaysClosed before after :=
  ⟨second.closed, fun id => (second.fates id).trans (first.fates id),
    second.begun.trans first.begun, fun exited => second.exited (first.exited exited)⟩

namespace Closed

theorem of_isDrained (drained : before.isDrained = true) : before.close.Closed := by
  rw [isDrained, Bool.and_eq_true, Bool.not_eq_true'] at drained
  obtain ⟨vacant, free⟩ := drained
  have queue : before.queue.toList = [] := by
    simpa [isEmpty, Heap.isEmpty, Heap.toList] using vacant
  unfold close
  split
  · rename_i stopped
    exact ⟨stopped, queue, free⟩
  · exact ⟨rfl, queue, free⟩

theorem pop?_eq_none (closed : before.Closed) : before.queue.pop? = none := by
  rw [Heap.pop?_eq_none_iff, ← Heap.length_toList, closed.queue]
  rfl

theorem isStopped (closed : before.Closed) : before.isStopped = true := by
  rw [Scheduler.isStopped, closed.stopped, Bool.or_true]

theorem submit? (closed : before.Closed) (due : Int) (work : ω) :
    before.submit? due work = none := by
  rw [Scheduler.submit?, if_pos closed.isStopped]

theorem resolved (closed : before.Closed) (sound : before.Sound) (id : TaskId) :
    before.roster.fate? id ≠ some .pending := by
  intro pending
  obtain ⟨entry, held, _⟩ := sound.stored.queued id pending
  rw [closed.queue] at held
  cases held

theorem staysClosed (closed : before.Closed) (queue : after.queue = before.queue)
    (roster : after.roster = before.roster) (worker : after.worker = before.worker)
    (stopped : after.stopped = true) (begun : after.begun = before.begun) :
    StaysClosed before after := by
  refine ⟨⟨stopped, ?_, ?_⟩, ?_, begun, ?_⟩
  · rw [queue, closed.queue]
  · rw [worker, closed.free]
  · intro id
    rw [roster]
  · intro exited
    rw [worker, exited]

theorem cancel (closed : before.Closed) (sound : before.Sound) (id : TaskId) :
    before.cancel id = (false, before) := by
  rw [Scheduler.cancel, if_neg]
  rw [Roster.isPending_iff]
  exact closed.resolved sound id

theorem abandon (closed : before.Closed) (begun : before.abandon.begun = before.begun) :
    StaysClosed before before.abandon := by
  refine ⟨⟨rfl, rfl, rfl⟩, ?_, begun, fun _ => rfl⟩
  intro id
  simp only [Scheduler.abandon, note, closed.queue, List.map_nil, List.foldl_nil]

theorem choose (closed : before.Closed) (chosen : Chooses now before after) :
    StaysClosed before after := by
  have vacant := closed.pop?_eq_none
  cases chosen with
  | exit _ _ => exact ⟨⟨closed.stopped, closed.queue, rfl⟩, fun _ => rfl, begun_of_note rfl rfl,
      fun _ => rfl⟩
  | idle _ running =>
      rw [closed.stopped] at running
      cases running
  | sleep popped _ _ =>
      rw [vacant] at popped
      cases popped
  | begin popped _ _ =>
      rw [vacant] at popped
      cases popped
  | discard popped _ _ =>
      rw [vacant] at popped
      cases popped

theorem wake (closed : before.Closed) (wakes : Wakes before after) : StaysClosed before after := by
  refine ⟨⟨?_, ?_, ?_⟩, ?_, wakes.begun, ?_⟩
  · rw [wakes.stopped, closed.stopped]
  · rw [wakes.queue, closed.queue]
  · rw [wakes.worker]
    rfl
  · intro id
    rw [wakes.roster]
  · exact fun exited => absurd exited wakes.ne_exited

theorem not_busy (closed : before.Closed) {id : TaskId} {work : ω}
    (busy : before.worker = .busy id work) : False := by
  have free := closed.free
  rw [busy] at free
  cases free

theorem step (closed : before.Closed) (sound : before.Sound) {occurred : List Occurrence}
    (step : before.Step now occurred after) : StaysClosed before after := by
  cases step with
  | submit accepted =>
      rw [closed.submit?] at accepted
      cases accepted
  | cancel id =>
      rw [closed.cancel sound]
      exact .refl closed
  | disown id => exact closed.staysClosed rfl rfl rfl closed.stopped (begun_of_note rfl rfl)
  | halt => exact closed.staysClosed rfl rfl rfl closed.stopped rfl
  | stopInside running =>
      rw [closed.free] at running
      cases running
  | close _ =>
      rw [Scheduler.close, if_pos closed.stopped]
      exact closed.staysClosed rfl rfl rfl closed.stopped rfl
  | join => exact closed.staysClosed rfl rfl rfl closed.stopped rfl
  | look _ =>
      unfold Scheduler.look
      split
      · exact closed.abandon (begun_of_note rfl (begun_of_note rfl rfl))
      · exact closed.choose (chooses_choose before now)
  | wake woke => exact closed.wake (wakes_of_wake? woke)
  | proceed rest busy => exact (closed.not_busy busy).elim
  | fail message busy => exact (closed.not_busy busy).elim
  | finish busy => exact (closed.not_busy busy).elim

end Closed

end Scheduler

/-- Whatever is done to a closed scheduler, nothing happens to its tasks any more. -/
theorem Run.staysClosed {first last : Moment ω} {record : List Occurrence}
    (run : Run first record last) (sound : first.scheduler.Sound)
    (closed : first.scheduler.Closed) :
    Scheduler.StaysClosed first.scheduler last.scheduler := by
  induction run with
  | rest => exact .refl closed
  | step taken step inductionHypothesis =>
      exact inductionHypothesis.trans
        (inductionHypothesis.closed.step (taken.sound sound) step)
  | pass _ _ inductionHypothesis => exact inductionHypothesis

end Agenda
