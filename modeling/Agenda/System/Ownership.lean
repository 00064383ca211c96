import Agenda.System.Basic

/-!
Who keeps what alive.

A cache is kept by its label, by an access that holds its lock, and by a deletion in progress.
A scheduler is kept by its labels, by the caches on it, and by a shutdown under way.  When the
last of these is gone the cache is dropped, and the scheduler is halted.  Queued tasks keep
nothing.
-/

namespace Agenda.System

universe u

variable {V : Type u}

def isDeleting (system : System V) (id : CacheId) : Bool :=
  system.schedulers.any fun scheduler =>
    match scheduler.worker with
    | .busy _ (.deletion cache _ _) => cache = id
    | _ => false

def keepsCache (system : System V) (id : CacheId) : Bool :=
  system.cacheLabels.values.contains id
    || system.bookings.any (fun booking => booking.cache = id)
    || system.isDeleting id

def keepsScheduler (system : System V) (id : SchedulerId) : Bool :=
  system.schedulerLabels.values.contains id
    || system.caches.any (fun cache => !cache.dropped && cache.scheduler = id)
    || system.calls.any (fun call => call.owner && call.scheduler = id)

/-- Drops the caches that nobody refers to. -/
def sweepCaches (system : System V) : System V :=
  { system with
    caches := system.caches.mapIdx fun index cache =>
      if system.keepsCache ⟨index⟩ then cache else cache.drop }

/-- Halts the schedulers that nobody refers to. -/
def sweepSchedulers (system : System V) : System V :=
  { system with
    schedulers := system.schedulers.mapIdx fun index scheduler =>
      if system.keepsScheduler ⟨index⟩ then scheduler else scheduler.halt }

def sweep (system : System V) : System V := system.sweepCaches.sweepSchedulers

end Agenda.System
