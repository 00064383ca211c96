import Agenda.Proofs.Plan.Course

/-!
# A settled system has had its run

When a system has settled, no task is left that is due, so that what has begun since is what a run
of the plan begins.
-/

namespace Agenda

universe u

variable {V : Type u}

namespace Scheduler

variable {scheduler : Scheduler (Work V)} {now : Int}

/-- After the stop signal nothing is left in the queue of a worker that has come to rest. -/
theorem Sound.vacant_of_halted (sound : scheduler.Sound) (halted : scheduler.halted = true)
    (awake : scheduler.worker ≠ .looking) (still : scheduler.wake? now = none)
    (free : scheduler.worker.isBusy = false) : scheduler.queue.toList = [] :=
  toList_eq_nil_iff.2 (sound.exited (exited_of_halted awake still free halted)).1

end Scheduler

/-- A system that has settled, and has done what a plan says. -/
structure Plan.Rests (label : Label) (plan : Plan) (system : System V)
    (scheduler : Scheduler (Work V)) : Prop extends plan.Follows label system scheduler where
  shown : ∀ id, scheduler.roster.fate? id = plan.fates id

/-- The events show a round: its items begin in an order in which they are due. -/
def Round.Shows (label : Label) (round : Round) (events : List (Event V)) : Prop :=
  ∃ order : List Item, order.Perm round.items ∧
    (order.Pairwise fun first second => first.due ≤ second.due) ∧
    events = order.map (Item.event label round.now)

namespace System.Hosts

variable {label : Label} {system : System V} {scheduler : Scheduler (Work V)}

theorem free_of_settled (hosts : system.Hosts label scheduler) (simple : scheduler.Simple label)
    (settled : system.IsSettled) : scheduler.worker.isBusy = false := by
  rw [← Bool.not_eq_true, Worker.isBusy_iff]
  rintro ⟨id, work, busy⟩
  obtain ⟨handle, rfl⟩ := simple.bears.busy busy
  have still := settled.moveWorker?_eq_none ⟨0⟩
  rw [System.moveWorker?, hosts.scheduler?, if_pos rfl, Option.bind_some] at still
  simp only [busy, hosts.callOf?, System.moveTask?] at still
  cases still

end System.Hosts

namespace Course

variable {label : Label} {plan : Plan} {start system : System V}
  {scheduler : Scheduler (Work V)} {order : List Item}

theorem lt_due_of_settled (course : Course label plan start system scheduler order)
    (settled : system.IsSettled) : ∀ item ∈ scheduler.outstanding, start.now < item.due := by
  intro item left
  obtain ⟨_, entry, held, _, rfl⟩ := Scheduler.mem_outstanding.1 left
  have free := course.hosts.free_of_settled course.simple settled
  obtain ⟨awake, still⟩ :=
    System.still_of_moveWorker? course.hosts.found (settled.moveWorker?_eq_none ⟨0⟩) free
  have later := Scheduler.not_overdue (course.simple.sound.parked awake still free) held
  rw [course.now] at later
  exact later

theorem fateInView?_of_settled (course : Course label plan start system scheduler order)
    (settled : system.IsSettled) (id : TaskId) :
    scheduler.fateInView? id = scheduler.roster.fate? id := by
  have free := course.hosts.free_of_settled course.simple settled
  obtain ⟨awake, still⟩ :=
    System.still_of_moveWorker? course.hosts.found (settled.moveWorker?_eq_none ⟨0⟩) free
  apply if_neg
  rintro ⟨halted, pending⟩
  obtain ⟨entry, held, _⟩ := course.simple.sound.stored.queued id pending
  rw [course.simple.sound.vacant_of_halted halted awake still free] at held
  cases held

/-- What has begun when a system has settled is what was due. -/
theorem perm_ripe (course : Course label plan start system scheduler order)
    (settled : system.IsSettled) (now : plan.now = start.now) :
    order.Perm plan.ripe ∧
      (plan.pending.filter fun item => plan.now < item.due).Perm scheduler.outstanding := by
  have later := course.lt_due_of_settled settled
  have reached := course.reached
  rw [← now] at later reached
  constructor
  · have begun : order.filter (fun item => item.due ≤ plan.now) = order :=
      List.filter_eq_self.2 (by simpa using reached)
    have none : scheduler.outstanding.filter (fun item => item.due ≤ plan.now) = [] :=
      List.filter_eq_nil_iff.2 (by simpa using later)
    have divided := course.divided.filter fun item => item.due ≤ plan.now
    rw [List.filter_append, begun, none, List.append_nil] at divided
    exact divided.symm
  · have none : order.filter (fun item => plan.now < item.due) = [] :=
      List.filter_eq_nil_iff.2 (by simpa using reached)
    have left : scheduler.outstanding.filter (fun item => plan.now < item.due)
        = scheduler.outstanding := List.filter_eq_self.2 (by simpa using later)
    have divided := course.divided.filter fun item => plan.now < item.due
    rw [List.filter_append, none, left, List.nil_append] at divided
    exact divided

theorem rests (course : Course label plan start system scheduler order)
    (settled : system.IsSettled) (now : plan.now = start.now)
    (handles : ∀ handle, start.handles[handle]? = (plan.handles handle).map (Handle.mk ⟨0⟩)) :
    plan.run.2.Rests label system scheduler ∧ order.Perm plan.ripe := by
  obtain ⟨ripe, left⟩ := course.perm_ripe settled now
  have fates (id : TaskId) : plan.run.2.fates id = scheduler.fateInView? id := by
    rw [course.fates, ripe.any_eq]
    rfl
  refine ⟨⟨⟨course.hosts, course.simple, ⟨left, fates, course.count, course.stopped,
    course.settings⟩, now.trans course.now.symm, ?_⟩, ?_⟩, ripe⟩
  · rw [course.handles]
    exact handles
  · intro id
    rw [fates, course.fateInView?_of_settled settled]

end Course

namespace Plan

variable {label : Label} {plan : Plan} {system : System V} {scheduler : Scheduler (Work V)}

theorem Follows.course (follows : plan.Follows label system scheduler) :
    Course label plan system system scheduler [] where
  hosts := follows.hosts
  simple := follows.simple
  now := rfl
  handles := rfl
  settings := follows.mirrors.settings
  stopped := follows.mirrors.stopped
  count := follows.mirrors.count
  divided := follows.mirrors.pending
  reached := nofun
  sorted := .nil
  ahead := nofun
  fates id := (follows.mirrors.fates id).symm
  events := (List.append_nil _).symm
  returned := rfl

theorem grouped_events (order : List Item) (now : Int) :
    Session.grouped (order.map (Item.event (V := V) label now))
      = order.map (Item.event label now) := by
  apply List.mergeSort_of_pairwise
  rw [List.pairwise_map]
  apply List.pairwise_of_forall
  intro first second
  simp [Session.labelLE, Item.event, Event.scheduler]

theorem Follows.settle (follows : plan.Follows label system scheduler) :
    ∃ after, plan.run.2.Rests label (Session.settle system).2 after ∧
      plan.run.1.Shows label (Session.settle system).1 ∧
      (Session.settle system).2.returned = system.returned := by
  have settled : ∃ after order, Course label plan system system.settle after order := by
    refine System.settle_keeps (motive := fun moved =>
      ∃ after order, Course label plan system moved after order) ?_ ?_ ⟨_, _, follows.course⟩
    · rintro before moved id ⟨after, order, course⟩ move
      exact course.moveWorker move
    · rintro before moved position ⟨after, order, course⟩ move
      rw [course.hosts.moveCall?] at move
      cases move
  obtain ⟨after, order, course⟩ := settled
  obtain ⟨rests, ripe⟩ := course.rests system.isSettled_settle follows.now follows.handles
  refine ⟨after, rests, ⟨order, ripe, course.sorted, ?_⟩, course.returned⟩
  have since : Session.eventsSince system system.settle
      = order.map (Item.event label system.now) := by
    rw [Session.eventsSince, course.events, ← Array.length_toList, List.drop_left]
  have now : plan.run.1.now = system.now := follows.now
  rw [Session.settle, since, now]
  exact grouped_events order system.now

end Plan

end Agenda
