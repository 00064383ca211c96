import Agenda.Proofs.Plan.Rounds
import Agenda.Proofs.System.Hosting
import Agenda.Proofs.System.Settled
import Agenda.Proofs.System.Parking

/-!
# Settling is a round of the plan

A system with one scheduler, whose tasks do nothing but show that they ran, is compared with a
plan.  While the system settles, the worker begins the tasks that are due, one by one; when it has
settled, it has begun all of them.
-/

namespace Agenda

universe u

variable {V : Type u}

namespace Scheduler

/-- A scheduler under the label `label` that runs simple tasks only, and stops by the stop signal
only. -/
structure Simple (label : Label) (scheduler : Scheduler (Work V)) : Prop where
  sound : scheduler.Sound
  halted : scheduler.stopped = true → scheduler.halted = true
  bears : scheduler.Bears fun work => ∃ handle, work = .task label handle .done

structure Mirrors (plan : Plan) (scheduler : Scheduler (Work V)) : Prop where
  pending : plan.pending.Perm scheduler.outstanding
  fates : ∀ id, plan.fates id = scheduler.fateInView? id
  count : plan.count = scheduler.roster.count
  stopped : plan.stopped = scheduler.halted
  settings : plan.settings = scheduler.settings

end Scheduler

structure Plan.Follows (label : Label) (plan : Plan) (system : System V)
    (scheduler : Scheduler (Work V)) : Prop where
  hosts : system.Hosts label scheduler
  simple : scheduler.Simple label
  mirrors : scheduler.Mirrors plan
  now : plan.now = system.now
  handles : ∀ handle, system.handles[handle]? = (plan.handles handle).map (Handle.mk ⟨0⟩)

def Item.event (label : Label) (now : Int) (item : Item) : Event V :=
  .began label item.handle (Clock.toMillis now)

/-- What has happened in a system since `start`, when it began to settle as the plan says: some
tasks have begun, in the order `order`, and the others are left. -/
structure Course (label : Label) (plan : Plan) (start system : System V)
    (scheduler : Scheduler (Work V)) (order : List Item) : Prop where
  hosts : system.Hosts label scheduler
  simple : scheduler.Simple label
  now : system.now = start.now
  handles : system.handles = start.handles
  settings : plan.settings = scheduler.settings
  stopped : plan.stopped = scheduler.halted
  count : plan.count = scheduler.roster.count
  divided : plan.pending.Perm (order ++ scheduler.outstanding)
  reached : ∀ item ∈ order, item.due ≤ start.now
  sorted : order.Pairwise fun first second => first.due ≤ second.due
  ahead : ∀ item ∈ order, ∀ other ∈ scheduler.outstanding, item.due ≤ other.due
  fates : ∀ id, scheduler.fateInView? id =
    if order.any fun item => item.id = id then some .fired else plan.fates id
  events : system.events.toList = start.events.toList ++ order.map (Item.event label start.now)
  returned : system.returned = start.returned

namespace System.Hosts

variable {label : Label} {system : System V} {scheduler : Scheduler (Work V)}

/-- The worker's next move, when its task does nothing more. -/
theorem moveWorker? (hosts : system.Hosts label scheduler) (simple : scheduler.Simple label)
    {id : SchedulerId} {moved : System V} (move : system.moveWorker? id = some moved) :
    scheduler.worker = .looking ∧ moved = system.moveLooking ⟨0⟩ scheduler ∨
      (∃ woken, scheduler.Wakes woken ∧ moved = system.putScheduler ⟨0⟩ woken) ∨
      scheduler.worker.isBusy = true ∧ moved = system.putScheduler ⟨0⟩ scheduler.finish := by
  rw [System.moveWorker?, hosts.scheduler?] at move
  split at move
  · rename_i own
    subst own
    rw [Option.bind_some] at move
    cases place : scheduler.worker with
    | looking =>
        simp only [place] at move
        cases move
        exact .inl ⟨rfl, rfl⟩
    | busy id work =>
        obtain ⟨handle, rfl⟩ := simple.bears.busy place
        simp only [place, hosts.callOf?, System.moveTask?] at move
        cases move
        exact .inr (.inr ⟨rfl, rfl⟩)
    | _ =>
        simp only [place] at move
        obtain ⟨woken, woke, same⟩ := Option.map_eq_some_iff.1 move
        exact .inr (.inl ⟨woken, Scheduler.wakes_of_wake? woke, same.symm⟩)
  · cases move

end System.Hosts

namespace Scheduler

variable {label : Label} {before after : Scheduler (Work V)} {now : Int}

theorem Simple.stopped_of_continues (simple : before.Simple label)
    (continues : Continues before after) (stopped : after.stopped = true) :
    after.halted = true := by
  rcases continues.stopped stopped with already | halted
  · rw [continues.halted]
    exact simple.halted already
  · exact halted

theorem Simple.look (simple : before.Simple label) (looking : before.worker = .looking)
    (now : Int) : (before.look now).Simple label :=
  ⟨simple.sound.look looking now, simple.stopped_of_continues (continues_look before now),
    simple.bears.look looking now⟩

theorem Simple.wake (simple : before.Simple label) (wakes : Wakes before after) :
    after.Simple label :=
  ⟨simple.sound.wake wakes, simple.stopped_of_continues wakes.continues, simple.bears.wake wakes⟩

theorem Simple.finish (simple : before.Simple label) : before.finish.Simple label :=
  ⟨simple.sound.finish, simple.stopped_of_continues (continues_finish before),
    simple.bears.finish⟩

theorem advance_look (sound : before.Sound) (looking : before.worker = .looking) (now : Int) :
    ∃ item, Advance now before (before.look now) item ∧
      (match (before.look now).worker with
        | .busy _ work => ∃ begun : Item, item = some begun ∧ begun.handle = work.handle
        | _ => item = none) := by
  unfold Scheduler.look
  split
  · rename_i halted
    exact ⟨none, advance_abandon sound halted, rfl⟩
  · rename_i running
    rw [Bool.not_eq_true] at running
    exact (chooses_choose before now).advance sound looking running

theorem advance_finish (scheduler : Scheduler (Work V)) :
    Advance now scheduler scheduler.finish none :=
  .of_eq (queue_signalDrained _) (roster_signalDrained _) (halted_signalDrained _)

end Scheduler

namespace Course

variable {label : Label} {plan : Plan} {start system moved : System V}
  {scheduler after : Scheduler (Work V)} {order : List Item}

/-- One more move goes on with the course. -/
theorem advance (course : Course label plan start system scheduler order) {item : Option Item}
    (advance : Scheduler.Advance system.now scheduler after item) (simple : after.Simple label)
    (continues : Scheduler.Continues scheduler after) (hosts : moved.Hosts label after)
    (now : moved.now = system.now) (handles : moved.handles = system.handles)
    (events : moved.events.toList
      = system.events.toList ++ item.toList.map (Item.event label system.now))
    (returned : moved.returned = system.returned) :
    Course label plan start moved after (order ++ item.toList) := by
  rw [course.now] at advance events
  have settings := course.settings.trans continues.settings.symm
  have stopped := course.stopped.trans continues.halted.symm
  have count := course.count.trans continues.count.symm
  have shown : moved.events.toList = start.events.toList
      ++ (order ++ item.toList).map (Item.event label start.now) := by
    rw [events, course.events, List.map_append, List.append_assoc]
  cases advance with
  | quiet same kept =>
      rw [Option.toList_none, List.append_nil] at shown ⊢
      refine ⟨hosts, simple, now.trans course.now, handles.trans course.handles, settings,
        stopped, count, course.divided.trans (same.symm.append_left order), course.reached,
        course.sorted, ?_, ?_, shown, returned.trans course.returned⟩
      · intro item begun other left
        exact course.ahead item begun other (same.mem_iff.1 left)
      · intro id
        rw [kept, course.fates]
  | @begin item due taken later changed =>
      rw [Option.toList_some] at shown ⊢
      refine ⟨hosts, simple, now.trans course.now, handles.trans course.handles, settings,
        stopped, count, ?_, ?_, ?_, ?_, ?_, shown, returned.trans course.returned⟩
      · rw [List.append_assoc]
        exact course.divided.trans (taken.append_left order)
      · intro other begun
        rcases List.mem_append.1 begun with earlier | new
        · exact course.reached other earlier
        · rw [List.mem_singleton.1 new]
          exact due
      · refine List.pairwise_append.2 ⟨course.sorted, List.pairwise_singleton _ _, ?_⟩
        intro first begun second new
        rw [List.mem_singleton.1 new]
        exact course.ahead first begun item (taken.mem_iff.2 List.mem_cons_self)
      · intro first begun other left
        rcases List.mem_append.1 begun with earlier | new
        · exact course.ahead first earlier other (taken.mem_iff.2 (List.mem_cons_of_mem _ left))
        · rw [List.mem_singleton.1 new]
          exact later other left
      · intro id
        rw [changed, course.fates, List.any_append]
        by_cases same : id = item.id
        · simp [same]
        · simp [same, Ne.symm same]

theorem looking (course : Course label plan start system scheduler order)
    (looking : scheduler.worker = .looking) :
    ∃ order, Course label plan start (system.moveLooking ⟨0⟩ scheduler)
      (scheduler.look system.now) order := by
  have hosts := course.hosts.putScheduler (scheduler.look system.now)
  have simple := course.simple.look looking system.now
  have continues := Scheduler.continues_look scheduler system.now
  obtain ⟨item, advance, begun⟩ := Scheduler.advance_look course.simple.sound looking system.now
  by_cases running : (scheduler.look system.now).worker.isBusy = true
  · obtain ⟨id, work, busy⟩ := Worker.isBusy_iff.1 running
    obtain ⟨handle, rfl⟩ := simple.bears.busy busy
    simp only [busy] at begun
    obtain ⟨first, rfl, own⟩ := begun
    rw [System.moveLooking_of_task busy]
    refine ⟨_, course.advance advance simple continues ⟨hosts.only, hosts.label, hosts.calls⟩
      rfl rfl ?_ rfl⟩
    rw [Option.toList_some, List.map_singleton, Item.event, own]
    exact Array.toList_push
  · rw [System.moveLooking_of_rest (by simpa using running)]
    have none : item = none := by
      cases place : (scheduler.look system.now).worker with
      | busy id work => simp [place, Worker.isBusy] at running
      | _ => simpa only [place] using begun
    subst none
    exact ⟨_, course.advance advance simple continues hosts rfl rfl (List.append_nil _).symm rfl⟩

theorem moveWorker (course : Course label plan start system scheduler order)
    {id : SchedulerId} (move : system.moveWorker? id = some moved) :
    ∃ after order, Course label plan start moved after order := by
  rcases course.hosts.moveWorker? course.simple move with
    ⟨looking, rfl⟩ | ⟨woken, wakes, rfl⟩ | ⟨_, rfl⟩
  · exact ⟨_, course.looking looking⟩
  · have quiet : Scheduler.Advance system.now scheduler woken none :=
      .of_eq wakes.queue wakes.roster wakes.halted
    exact ⟨woken, _, course.advance quiet (course.simple.wake wakes) wakes.continues
      (course.hosts.putScheduler woken) rfl rfl (List.append_nil _).symm rfl⟩
  · exact ⟨_, _, course.advance (Scheduler.advance_finish scheduler) course.simple.finish
      (Scheduler.continues_finish scheduler) (course.hosts.putScheduler _) rfl rfl
      (List.append_nil _).symm rfl⟩

end Course

end Agenda
