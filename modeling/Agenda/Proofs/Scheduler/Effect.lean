import Agenda.Proofs.Scheduler.Soundness

/-!
# What a step does to the tasks

Of all that a step can change, the fates of the tasks, the queue and the running task change in
six ways only.
-/

namespace Agenda

universe u

variable {ω : Type u}

def Worker.task? : Worker ω → Option TaskId
  | .busy id _ => some id
  | _ => none

theorem Worker.task?_eq_none {worker : Worker ω} (free : worker.isBusy = false) :
    worker.task? = none := by
  cases worker with
  | busy id work => cases free
  | _ => rfl

namespace Scheduler

inductive Effect (now : Int) (before after : Scheduler ω) : List Occurrence → Prop where
  | quiet :
      after.roster = before.roster → after.worker.task? = before.worker.task? →
      after.queue.toList ⊆ before.queue.toList → Effect now before after []
  | accepted {due : Int} {work : ω} :
      after.roster = before.roster.accept → after.worker.task? = before.worker.task? →
      after.queue.toList ⊆ ⟨due, before.roster.nextId, work⟩ :: before.queue.toList →
      Effect now before after [.accepted before.roster.nextId due]
  | cancelAnswered (id : TaskId) :
      after.roster = before.roster.resolve id .cancelled →
      after.worker.task? = before.worker.task? → after.queue.toList ⊆ before.queue.toList →
      Effect now before after [.cancelAnswered id (before.roster.isPending id)]
  | began {head : Entry ω} :
      head ∈ before.queue.toList → before.roster.fate? head.id = some .pending →
      head.due ≤ now → after.roster = before.roster.resolve head.id .fired →
      before.worker.task? = none → after.worker.task? = some head.id →
      after.queue.toList ⊆ before.queue.toList → Effect now before after [.began head.id now]
  | abandoned {ids : List TaskId} :
      ids.Nodup → (∀ id, id ∈ ids ↔ before.roster.fate? id = some .pending) →
      (∀ id, after.roster.fate? id =
        if id ∈ ids then some .cancelled else before.roster.fate? id) →
      before.worker.task? = none → after.worker.task? = none → after.queue.toList = [] →
      Effect now before after (ids.map .abandoned)
  | ended {id : TaskId} :
      after.roster = before.roster → before.worker.task? = some id →
      after.worker.task? = none → after.queue.toList ⊆ before.queue.toList →
      Effect now before after [.ended id]

variable {before after : Scheduler ω} {now : Int}

theorem Effect.still (roster : after.roster = before.roster)
    (task : after.worker.task? = before.worker.task?) (queue : after.queue = before.queue) :
    Effect now before after [] := by
  refine .quiet roster task ?_
  rw [queue]
  exact List.Subset.refl _

theorem effect_submit {due : Int} {work : ω} {id : TaskId}
    (accepted : before.submit? due work = some (id, after)) :
    Effect now before after [.accepted id due] := by
  obtain ⟨_, rfl, ready, interrupt, journal, rfl⟩ := eq_of_submit? accepted
  exact .accepted rfl rfl (Heap.toList_insert_perm before.queue _).subset

theorem effect_cancel (before : Scheduler ω) (id : TaskId) :
    Effect now before (before.cancel id).2 [.cancelAnswered id (before.cancel id).1] := by
  rw [fst_cancel]
  refine .cancelAnswered id (roster_cancel before id) ?_ ?_
  · rw [worker_cancel]
  · rw [queue_cancel]
    exact List.Subset.refl _

theorem Effect.of_subset {middle : Scheduler ω} {occurred : List Occurrence}
    (effect : Effect now middle after occurred) (roster : middle.roster = before.roster)
    (task : middle.worker.task? = before.worker.task?)
    (queue : middle.queue.toList ⊆ before.queue.toList) : Effect now before after occurred := by
  cases effect with
  | quiet kept same fewer =>
      exact .quiet (kept.trans roster) (same.trans task) (List.Subset.trans fewer queue)
  | @accepted due work kept same fewer =>
      rw [roster] at kept fewer ⊢
      exact .accepted kept (same.trans task)
        (List.Subset.trans fewer (List.cons_subset_cons _ queue))
  | cancelAnswered id kept same fewer =>
      rw [roster] at kept ⊢
      exact .cancelAnswered id kept (same.trans task) (List.Subset.trans fewer queue)
  | began held pending due kept resting running fewer =>
      rw [roster] at kept pending
      exact .began (queue held) pending due kept (task.symm.trans resting) running
        (List.Subset.trans fewer queue)
  | abandoned distinct pending fates resting past vacant =>
      rw [roster] at pending fates
      exact .abandoned distinct pending fates (task.symm.trans resting) past vacant
  | ended kept running past fewer =>
      exact .ended (kept.trans roster) (task.symm.trans running) past
        (List.Subset.trans fewer queue)

theorem Effect.pending_of_began {occurred : List Occurrence}
    (effect : Effect now before after occurred) {id : TaskId} {time : Int}
    (began : .began id time ∈ occurred) :
    before.roster.fate? id = some .pending ∧ after.roster.fate? id = some .fired ∧ time = now := by
  cases effect with
  | quiet roster task queue => cases began
  | accepted roster task queue => simp at began
  | cancelAnswered other roster task queue => simp at began
  | began held pending due roster resting running queue =>
      obtain ⟨rfl, rfl⟩ : id = _ ∧ time = now := by simpa using began
      refine ⟨pending, ?_, rfl⟩
      rw [roster]
      exact Roster.fate?_resolve_self pending _
  | abandoned distinct pending fates resting past vacant => simp at began
  | ended roster running past queue => simp at began

/-- A choice of the worker begins one of the queued tasks, or none. -/
theorem Chooses.effect (chosen : Chooses now before after) (looking : before.worker = .looking) :
    Effect now before after
      (match after.worker with
        | .busy id _ => [.began id now]
        | _ => []) := by
  induction chosen with
  | @exit scheduler vacant stopped =>
      have resting : scheduler.worker.task? = none := congrArg Worker.task? looking
      exact .still rfl resting.symm rfl
  | @idle scheduler vacant stopped =>
      have resting : scheduler.worker.task? = none := congrArg Worker.task? looking
      exact .still rfl resting.symm rfl
  | @sleep scheduler head rest popped pending early =>
      have resting : scheduler.worker.task? = none := congrArg Worker.task? looking
      exact .still rfl resting.symm rfl
  | begin popped pending due =>
      refine .began (Stored.head_mem popped) pending due rfl (congrArg Worker.task? looking) rfl ?_
      exact fun entry held => Stored.mem_of_pop? popped held
  | discard popped resolved _ inductionHypothesis =>
      apply (inductionHypothesis (by simpa using looking)).of_subset
      · exact roster_discard ..
      · rw [worker_discard]
      · rw [queue_discard]
        exact fun entry held => Stored.mem_of_pop? popped held

theorem effect_abandon (sound : before.Sound) (looking : before.worker = .looking) :
    Effect now before before.abandon
      (((before.queue.toList.map Entry.id).filter before.roster.isPending).map .abandoned) := by
  have pending (id : TaskId) :
      id ∈ (before.queue.toList.map Entry.id).filter before.roster.isPending ↔
        before.roster.fate? id = some .pending := by
    rw [List.mem_filter, Roster.isPending_iff]
    constructor
    · exact fun both => both.2
    · intro pending
      obtain ⟨entry, held, same⟩ := sound.stored.queued id pending
      exact ⟨List.mem_map.2 ⟨entry, held, same⟩, pending⟩
  refine .abandoned ?_ pending ?_ (congrArg Worker.task? looking) rfl rfl
  · exact sound.stored.distinct.filter _
  · intro id
    simp only [List.mem_filter, Roster.isPending_iff]
    exact Roster.fate?_cancelAll _ _ _

theorem effect_look (sound : before.Sound) (looking : before.worker = .looking) :
    Effect now before (before.look now) (before.outlook now) := by
  unfold look outlook
  split
  · exact effect_abandon sound looking
  · exact (chooses_choose before now).effect looking

theorem Wakes.effect (wakes : Wakes before after) : Effect now before after [] := by
  refine .still wakes.roster ?_ wakes.queue
  rw [wakes.worker]
  rcases wakes.dormant with worker | worker | ⟨due, worker⟩ <;> rw [worker] <;> rfl

/-- Whatever a step changes, it has one of the six effects on the tasks. -/
theorem Step.effect {occurred : List Occurrence} (step : before.Step now occurred after)
    (sound : before.Sound) : Effect now before after occurred := by
  cases step with
  | submit accepted => exact effect_submit accepted
  | cancel id => exact effect_cancel before id
  | disown id => exact .still rfl rfl rfl
  | halt => exact .still rfl rfl rfl
  | stopInside _ =>
      unfold Scheduler.stopInside
      split <;> exact .still rfl rfl rfl
  | close _ =>
      unfold Scheduler.close
      split <;> exact .still rfl rfl rfl
  | join => exact .still rfl rfl rfl
  | look looking => exact effect_look sound looking
  | wake woke => exact (wakes_of_wake? woke).effect
  | proceed rest running => exact .still rfl (congrArg Worker.task? running).symm rfl
  | fail message running =>
      unfold Scheduler.fail
      dsimp only
      split <;> exact .still rfl rfl rfl
  | finish running =>
      refine .ended (roster_signalDrained _) (congrArg Worker.task? running) ?_ ?_
      · rw [Scheduler.finish, worker_signalDrained]
        rfl
      · rw [Scheduler.finish, queue_signalDrained]
        exact List.Subset.refl _

end Scheduler

end Agenda
