import Agenda.Scheduler.Intake
import Agenda.Scheduler.Worker
import Agenda.System.Script

/-!
A system: schedulers and caches under one clock, with the calls that are under way.

Nothing happens by itself.  The clock stands still until it is moved, and every change of the
system is one of a few small moves: of a worker, of a call under way, or of a caller.
-/

namespace Agenda

universe u

inductive Event (V : Type u) where
  /-- The task `handle` began when the clock showed `millis`. -/
  | began (scheduler handle : Label) (millis : Int)
  /-- A step of the task `handle` had this answer. -/
  | answered (scheduler handle : Label) (reply : Reply V)
  /-- A failure hook was called. -/
  | failed (scheduler : Label) (id : TaskId) (message : String)
  deriving Repr

def Event.scheduler {V : Type u} : Event V → Label
  | .began scheduler _ _ => scheduler
  | .answered scheduler _ _ => scheduler
  | .failed scheduler _ _ => scheduler

structure Handle where
  scheduler : SchedulerId
  id : TaskId
  deriving DecidableEq, Repr

/-- An access to a cache that has read the clock, and holds the lock until it goes on. -/
structure Booking (V : Type u) where
  cache : CacheId
  key : String
  access : Access V
  ttl : Delay
  generation : Nat
  /-- The end of the lease, if the clock can represent it. -/
  deadline : Option Int
  deriving DecidableEq, Repr

inductive Caller where
  /-- A thread of its own, under a label. -/
  | helper (label : Label)
  /-- The worker of a scheduler, in the middle of the task `handle`. -/
  | worker (id : SchedulerId) (scheduler handle : Label)
  deriving DecidableEq, Repr

inductive Stage where
  /-- About to see whether the scheduler is drained. -/
  | checking
  /-- Parked when this many drains had been signalled, until there are more. -/
  | parked (drains : Nat)
  /-- Waiting for the worker to exit. -/
  | joining
  deriving DecidableEq, Repr

structure Call where
  caller : Caller
  scheduler : SchedulerId
  /-- Whether the call keeps the scheduler from being halted. -/
  owner : Bool
  stage : Stage
  deriving DecidableEq, Repr

structure System (V : Type u) where
  now : Int := 0
  schedulers : Array (Scheduler (Work V)) := #[]
  caches : Array (Cache V) := #[]
  schedulerLabels : Std.TreeMap Label SchedulerId := ∅
  cacheLabels : Std.TreeMap Label CacheId := ∅
  handles : Std.TreeMap Label Handle := ∅
  cancelledTokens : List Label := []
  openGates : List Label := []
  bookings : List (Booking V) := []
  calls : List Call := []
  events : Array (Event V) := #[]
  /-- The labels of the calls that have returned. -/
  returned : Array Label := #[]

namespace System

variable {V : Type u}

def scheduler? (system : System V) (id : SchedulerId) : Option (Scheduler (Work V)) :=
  system.schedulers[id.index]?

def cache? (system : System V) (id : CacheId) : Option (Cache V) :=
  system.caches[id.index]?

def schedulerAt? (system : System V) (label : Label) :
    Option (SchedulerId × Scheduler (Work V)) :=
  (system.schedulerLabels[label]?).bind fun id => (system.scheduler? id).map (id, ·)

theorem scheduler?_of_schedulerAt? {system : System V} {label : Label} {id : SchedulerId}
    {scheduler : Scheduler (Work V)} (found : system.schedulerAt? label = some (id, scheduler)) :
    system.scheduler? id = some scheduler := by
  obtain ⟨_, _, found⟩ := Option.bind_eq_some_iff.1 found
  obtain ⟨_, found, same⟩ := Option.map_eq_some_iff.1 found
  cases same
  exact found

def cacheAt? (system : System V) (label : Label) : Option (CacheId × Cache V) :=
  (system.cacheLabels[label]?).bind fun id => (system.cache? id).map (id, ·)

def putScheduler (system : System V) (id : SchedulerId) (scheduler : Scheduler (Work V)) :
    System V :=
  { system with schedulers := system.schedulers.setIfInBounds id.index scheduler }

theorem scheduler?_putScheduler_self {system : System V} {id : SchedulerId}
    {old : Scheduler (Work V)} (found : system.scheduler? id = some old)
    (new : Scheduler (Work V)) : (system.putScheduler id new).scheduler? id = some new := by
  obtain ⟨inside, _⟩ := Array.getElem?_eq_some_iff.1 found
  exact Array.getElem?_setIfInBounds_self_of_lt inside

theorem scheduler?_putScheduler_of_ne (system : System V) {id other : SchedulerId}
    (different : other ≠ id) (scheduler : Scheduler (Work V)) :
    (system.putScheduler id scheduler).scheduler? other = system.scheduler? other := by
  have apart : id.index ≠ other.index := by
    intro same
    cases id
    cases other
    cases same
    exact different rfl
  exact Array.getElem?_setIfInBounds_ne apart

theorem putScheduler_putScheduler (system : System V) (id : SchedulerId)
    (first second : Scheduler (Work V)) :
    (system.putScheduler id first).putScheduler id second = system.putScheduler id second := by
  simp [putScheduler, Array.setIfInBounds_setIfInBounds]

def putCache (system : System V) (id : CacheId) (cache : Cache V) : System V :=
  { system with caches := system.caches.setIfInBounds id.index cache }

theorem cache?_putCache_self {system : System V} {id : CacheId} {old : Cache V}
    (found : system.cache? id = some old) (new : Cache V) :
    (system.putCache id new).cache? id = some new := by
  obtain ⟨inside, _⟩ := Array.getElem?_eq_some_iff.1 found
  exact Array.getElem?_setIfInBounds_self_of_lt inside

theorem cache?_putCache_of_ne (system : System V) {id other : CacheId} (different : other ≠ id)
    (cache : Cache V) : (system.putCache id cache).cache? other = system.cache? other := by
  have apart : id.index ≠ other.index := by
    intro same
    cases id
    cases other
    cases same
    exact different rfl
  exact Array.getElem?_setIfInBounds_ne apart

def report (system : System V) (event : Event V) : System V :=
  { system with events := system.events.push event }

def isCancelled (system : System V) : Token → Bool
  | .own => false
  | .named label => system.cancelledTokens.contains label

def cancelToken (system : System V) (label : Label) : System V :=
  { system with
    cancelledTokens := label :: system.cancelledTokens
    schedulers := system.schedulers.map fun scheduler =>
      if scheduler.settings.token = .named label then scheduler.halt else scheduler }

def openGate (system : System V) (label : Label) : System V :=
  { system with openGates := label :: system.openGates }

def createScheduler (system : System V) (settings : Settings) : SchedulerId × System V :=
  (⟨system.schedulers.size⟩,
    { system with
      schedulers := system.schedulers.push
        (Scheduler.start settings (system.isCancelled settings.token)) })

def createCache (system : System V) (scheduler : SchedulerId) : CacheId × System V :=
  (⟨system.caches.size⟩, { system with caches := system.caches.push { scheduler } })

def submit? (system : System V) (id : SchedulerId) (due : Int) (work : Work V) :
    Option (TaskId × System V) :=
  (system.scheduler? id).bind fun scheduler =>
    (scheduler.submit? due work).map fun (task, filled) => (task, system.putScheduler id filled)

def cancelTask (system : System V) (id : SchedulerId) (task : TaskId) : Bool × System V :=
  match system.scheduler? id with
  | none => (false, system)
  | some scheduler =>
      let (cancelled, changed) := scheduler.cancel task
      (cancelled, system.putScheduler id changed)

theorem submit?_of_found {system : System V} {id : SchedulerId} {scheduler : Scheduler (Work V)}
    (found : system.scheduler? id = some scheduler) (due : Int) (work : Work V) :
    system.submit? id due work = (scheduler.submit? due work).map fun (task, filled) =>
      (task, system.putScheduler id filled) := by
  rw [submit?, found, Option.bind_some]

theorem cancelTask_of_found {system : System V} {id : SchedulerId}
    {scheduler : Scheduler (Work V)} (found : system.scheduler? id = some scheduler)
    (task : TaskId) : system.cancelTask id task =
      ((scheduler.cancel task).1, system.putScheduler id (scheduler.cancel task).2) := by
  rw [cancelTask, found]

end System

end Agenda
