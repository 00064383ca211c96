import Agenda.Proofs.System.Change

/-!
# What no worker does

A call changes labels, queues and caches, but no worker begins, goes on with or ends a task in it,
and only the return of a call to a task is made known.
-/

namespace Agenda

universe u

variable {V : Type u}

/-- The task in the worker's hands, with what is left of it to do. -/
def Worker.hand? {ω : Type u} : Worker ω → Option (TaskId × ω)
  | .busy id work => some (id, work)
  | _ => none

theorem Worker.hand?_eq_some_iff {ω : Type u} {worker : Worker ω} {id : TaskId} {work : ω} :
    worker.hand? = some (id, work) ↔ worker = .busy id work := by
  constructor
  · intro held
    cases worker with
    | busy _ _ =>
        cases held
        rfl
    | _ => cases held
  · rintro rfl
    rfl

namespace System

def hand? (system : System V) (id : SchedulerId) : Option (TaskId × Work V) :=
  (system.scheduler? id).bind fun scheduler => scheduler.worker.hand?

/-- No worker does anything, nothing is made known, and no call begins or ends. -/
structure Quiet (before after : System V) : Prop where
  hands : ∀ id, after.hand? id = before.hand? id
  events : after.events = before.events
  calls : after.calls = before.calls

variable {system before after : System V} {id : SchedulerId} {host : Scheduler (Work V)}

theorem hand?_of_found (found : system.scheduler? id = some host) :
    system.hand? id = host.worker.hand? := by
  rw [hand?, found, Option.bind_some]

theorem hand?_eq_some_iff {task : TaskId} {work : Work V} :
    system.hand? id = some (task, work) ↔
      ∃ host, system.scheduler? id = some host ∧ host.worker = .busy task work := by
  rw [hand?, Option.bind_eq_some_iff]
  simp only [Worker.hand?_eq_some_iff]

theorem hand?_congr (schedulers : after.schedulers = before.schedulers) (id : SchedulerId) :
    after.hand? id = before.hand? id := by
  rw [hand?, scheduler?, schedulers]
  rfl

theorem hand?_putScheduler_self (found : system.scheduler? id = some host)
    (new : Scheduler (Work V)) : (system.putScheduler id new).hand? id = new.worker.hand? :=
  hand?_of_found (scheduler?_putScheduler_self found new)

theorem hand?_putScheduler_of_ne (system : System V) {other : SchedulerId} (different : other ≠ id)
    (new : Scheduler (Work V)) : (system.putScheduler id new).hand? other = system.hand? other := by
  rw [hand?, scheduler?_putScheduler_of_ne system different]
  rfl

namespace Quiet

theorem refl (system : System V) : Quiet system system := ⟨fun _ => rfl, rfl, rfl⟩

theorem trans {first second third : System V} (before : Quiet first second)
    (after : Quiet second third) : Quiet first third where
  hands id := (after.hands id).trans (before.hands id)
  events := after.events.trans before.events
  calls := after.calls.trans before.calls

theorem of_eq (schedulers : after.schedulers = before.schedulers)
    (events : after.events = before.events) (calls : after.calls = before.calls) :
    Quiet before after :=
  ⟨hand?_congr schedulers, events, calls⟩

theorem put (found : system.scheduler? id = some host) {new : Scheduler (Work V)}
    (same : new.worker = host.worker) : Quiet system (system.putScheduler id new) where
  hands other := by
    by_cases own : other = id
    · subst own
      rw [hand?_putScheduler_self found, hand?_of_found found, same]
    · exact hand?_putScheduler_of_ne system own new
  events := rfl
  calls := rfl

theorem each {schedulers : Array (Scheduler (Work V))}
    (change : SchedulerId → Scheduler (Work V) → Scheduler (Work V))
    (same : ∀ id host, (change id host).worker = host.worker)
    (changed : ∀ id, ({ system with schedulers } : System V).scheduler? id =
      (system.scheduler? id).map (change id)) : Quiet system { system with schedulers } where
  hands id := by
    rw [hand?, hand?, changed]
    cases system.scheduler? id with
    | none => rfl
    | some host => exact congrArg Worker.hand? (same id host)
  events := rfl
  calls := rfl

theorem sweep (system : System V) : Quiet system system.sweep := by
  have kept : Quiet system system.sweepCaches := .of_eq rfl rfl rfl
  refine kept.trans (.each (fun id scheduler =>
    if system.sweepCaches.keepsScheduler id then scheduler else scheduler.halt) ?_ ?_)
  · intro id host
    split <;> rfl
  · intro id
    simp [scheduler?]

theorem cancelToken (system : System V) (label : Label) :
    Quiet system (system.cancelToken label) := by
  have halted : Quiet system { system with
      schedulers := system.schedulers.map fun scheduler =>
        if scheduler.settings.token = .named label then scheduler.halt else scheduler } := by
    refine .each (fun _ scheduler =>
      if scheduler.settings.token = .named label then scheduler.halt else scheduler) ?_ ?_
    · intro id host
      split <;> rfl
    · intro id
      simp [scheduler?]
  exact halted.trans (.of_eq rfl rfl rfl)

theorem createScheduler (system : System V) (settings : Settings) :
    Quiet system (system.createScheduler settings).2 where
  hands id := by
    simp only [hand?, scheduler?, System.createScheduler, Array.getElem?_push]
    split
    · rename_i new
      rw [new, Array.getElem?_eq_none (Nat.le_refl _)]
      rfl
    · rfl
  events := rfl
  calls := rfl

theorem submit? {filled : System V} {due : Int} {work : Work V} {task : TaskId}
    (accepted : system.submit? id due work = some (task, filled)) : Quiet system filled := by
  obtain ⟨scheduler, found, accepted⟩ := Option.bind_eq_some_iff.1 accepted
  obtain ⟨_, taken, same⟩ := Option.map_eq_some_iff.1 accepted
  cases same
  obtain ⟨_, _, _, _, _, same⟩ := Scheduler.eq_of_submit? taken
  refine .put found ?_
  rw [same]
  rfl

theorem cancelTask (system : System V) (id : SchedulerId) (task : TaskId) :
    Quiet system (system.cancelTask id task).2 := by
  unfold System.cancelTask
  split
  · exact .refl system
  · rename_i scheduler found
    exact .put found (Scheduler.worker_cancel scheduler task)

theorem book {locked : System V} {cacheId : CacheId} {cache : Cache V} {key : String}
    {access : Access V} {booking : Booking V}
    (booked : system.book cacheId cache key access = .ok (booking, locked)) :
    Quiet system locked := by
  obtain ⟨_, _, _, rfl⟩ := eq_of_book booked
  exact .of_eq rfl rfl rfl

theorem replace (system : System V) (booking : Booking V) (cache : Cache V) (value : V)
    (deletion : TaskId) (deadline : Int) :
    Quiet system (system.replace booking cache value deletion deadline).2 := by
  unfold System.replace
  dsimp only
  split
  · exact .of_eq rfl rfl rfl
  · refine .trans ?_ (cancelTask _ _ _)
    exact .of_eq rfl rfl rfl

theorem fulfil (system : System V) (booking : Booking V) (cache : Cache V) (deletion : TaskId)
    (deadline : Int) : Quiet system (system.fulfil booking cache deletion deadline).2 := by
  unfold System.fulfil
  split
  · split
    · exact .refl system
    · exact (cancelTask _ _ _).trans (.of_eq rfl rfl rfl)
  · exact replace _ _ _ _ _ _
  · exact replace _ _ _ _ _ _

theorem resolve (system : System V) (booking : Booking V) :
    Quiet system (system.resolve booking).2 := by
  unfold System.resolve
  split
  · exact .refl system
  · exact .refl system
  · split
    · exact .refl system
    · split
      · unfold decline
        split
        · exact .of_eq rfl rfl rfl
        · exact .refl system
      · rename_i accepted
        exact (submit? accepted).trans (fulfil _ _ _ _ _)

theorem confirm (system : System V) (booking : Booking V) :
    Quiet system (system.confirm booking).2 := by
  refine (resolve system booking).trans (.trans ?_ (sweep _))
  exact .of_eq rfl rfl rfl

theorem delete (system : System V) (cacheId : CacheId) (cache : Cache V) (key : String) :
    Quiet system (system.delete cacheId cache key).2 := by
  unfold System.delete
  split
  · exact .refl system
  · exact (cancelTask _ _ _).trans (.of_eq rfl rfl rfl)

theorem submit (system : System V) (scheduler handle : Label) (due : Due) (script : Script V) :
    Quiet system (system.submit scheduler handle due script).2 := by
  unfold System.submit
  split
  · exact .refl system
  · split
    · exact .refl system
    · split
      · exact .refl system
      · rename_i accepted
        exact (submit? accepted).trans (.of_eq rfl rfl rfl)

theorem cancel (system : System V) (scheduler handle : Label) :
    Quiet system (system.cancel scheduler handle).2 := by
  unfold System.cancel
  split
  · exact .refl system
  · exact .refl system
  · rename_i located _
    split
    · exact cancelTask _ _ _
    · exact .put (scheduler?_of_schedulerAt? located) rfl

theorem labelScheduler (system : System V) (label : Label) (id : SchedulerId) :
    Quiet system (system.labelScheduler label id) := by
  refine .trans ?_ (sweep _)
  exact .of_eq rfl rfl rfl

theorem labelNewCache (system : System V) (label : Label) (id : SchedulerId) :
    Quiet system (system.labelNewCache label id) := by
  refine .trans ?_ (sweep _)
  exact .of_eq rfl rfl rfl

theorem createCacheOn (system : System V) (label scheduler : Label) :
    Quiet system (system.createCacheOn label scheduler).2 := by
  unfold System.createCacheOn
  split
  · exact .refl system
  · exact labelNewCache _ _ _

theorem schedulerOf (system : System V) (cache scheduler : Label) :
    Quiet system (system.schedulerOf cache scheduler).2 := by
  unfold System.schedulerOf
  split
  · exact .refl system
  · exact labelScheduler _ _ _

theorem access? {label : Label} {key : String} {access : Access V} {reply : Reply V}
    (answered : system.access? label key access = some (reply, after)) : Quiet system after := by
  unfold System.access? at answered
  split at answered
  · cases answered
    exact .refl system
  · split at answered
    · split at answered
      · cases answered
        exact .refl system
      · rename_i booked
        cases answered
        exact (book booked).trans (confirm _ _)
    · cases answered

theorem delete? {label : Label} {key : String} {reply : Reply V}
    (answered : system.delete? label key = some (reply, after)) : Quiet system after := by
  unfold System.delete? at answered
  split at answered
  · cases answered
    exact .refl system
  · split at answered
    · rw [← snd_eq_of_some answered]
      exact delete _ _ _ _
    · cases answered

theorem answer? {request : Request V} {reply : Reply V}
    (answered : system.answer? request = some (reply, after)) : Quiet system after := by
  cases request with
  | create label settings =>
      cases answered
      exact (createScheduler system settings).trans (labelScheduler _ _ _)
  | cancel scheduler handle =>
      rw [← snd_eq_of_some answered]
      exact cancel _ _ _
  | cancelToken token =>
      cases answered
      exact cancelToken _ _
  | openGate gate =>
      cases answered
      exact .of_eq rfl rfl rfl
  | createCacheOn label scheduler =>
      rw [← snd_eq_of_some answered]
      exact createCacheOn _ _ _
  | createCacheAlone label settings =>
      cases answered
      exact (createScheduler system settings).trans (labelNewCache _ _ _)
  | schedulerOf cache scheduler =>
      rw [← snd_eq_of_some answered]
      exact schedulerOf _ _ _
  | access label key access => exact access? answered
  | delete label key => exact delete? answered
  | consult label query =>
      obtain ⟨_, _, equal⟩ := Option.map_eq_some_iff.1 answered
      cases equal
      exact .refl system
  | _ =>
      cases answered
      exact .refl system

end Quiet

end System

end Agenda
