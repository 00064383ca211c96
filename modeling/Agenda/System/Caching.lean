import Agenda.System.Ownership

/-!
Calls on caches.

An access that schedules a deletion has two parts.  `book` takes the lock, hands out a
generation and reads the clock; `confirm` submits the deletion, changes the entry and lets go of
the lock.  Time may pass between the two.  While an access holds the lock, a second read of the
same key, every write, and, if it is a write itself, every look at the cache have to wait.

`confirm` submits the new deletion, cancels the old one and stores the entry in one step, and
`delete` takes the entry out and cancels its deletion in one step, though the scheduler's lock may
be let go of in between.  An old deletion that begins meanwhile is too late to be cancelled, as is
one that began before the step, and like that one it removes nothing: it waits for the cache's lock,
and then finds another generation or no entry.  A stop signal that is obeyed meanwhile cancels both
deletions and leaves the entry, as it does when it is obeyed before or after the step.
-/

namespace Agenda

universe u

variable {V : Type u}

/-- How long an accessed entry is to live: as long as before for a read, none for a read of an
absent key, and no answer for an addition under a key that is present. -/
def Cache.ttl? (cache : Cache V) (key : String) : Access V → Except CacheError (Option Delay)
  | .read => .ok ((cache.lease? key).map Lease.ttl)
  | .add _ ttl => if cache.contains key then .error (.duplicateKey key) else .ok (some ttl)
  | .set _ ttl => .ok (some ttl)

namespace System

def isUnlocked (system : System V) (id : CacheId) : Bool :=
  !system.bookings.any fun booking => booking.cache = id

def isReadable (system : System V) (id : CacheId) : Bool :=
  !system.bookings.any fun booking => booking.cache = id && !booking.access.isRead

def isAccessible (system : System V) (id : CacheId) (key : String) : Access V → Bool
  | .read =>
      system.isReadable id
        && !system.bookings.any fun booking => booking.cache = id && booking.key = key
  | _ => system.isUnlocked id

/-- The first part of an access to a cache.  It ends there with an answer if the key is absent
for a read or present for an addition, and otherwise it reads the clock. -/
def book (system : System V) (id : CacheId) (cache : Cache V) (key : String)
    (access : Access V) : Except (Reply V) (Booking V × System V) :=
  match cache.ttl? key access with
  | .error error => .error (.failed error)
  | .ok none => .error (.found none)
  | .ok (some ttl) =>
      let advanced := cache.advance
      let booking : Booking V :=
        { cache := id, key, access, ttl, generation := advanced.generation,
          deadline := ttl.after? system.now }
      .ok (booking,
        { system.putCache id advanced with bookings := booking :: system.bookings })

def unlock (system : System V) (booking : Booking V) : System V :=
  { system with
    bookings := system.bookings.filter fun other =>
      !(other.cache = booking.cache && other.generation = booking.generation) }

/-- The end of a read, whose later deletion is the task `deletion`. -/
def extend (system : System V) (booking : Booking V) (cache : Cache V) (lease : Lease V)
    (deletion : TaskId) (deadline : Int) : System V :=
  let (inTime, system) := system.cancelTask cache.scheduler lease.deletion
  let noted := if inTime then cache else cache.note (.outlived booking.key)
  system.putCache booking.cache
    (noted.store booking.key
      { lease with deletion, deadline, generation := booking.generation })

/-- The end of a write, whose deletion is the task `deletion`.  It gives the value that was there
before, the deletion of which is cancelled. -/
def replace (system : System V) (booking : Booking V) (cache : Cache V) (value : V)
    (deletion : TaskId) (deadline : Int) : Option V × System V :=
  let stored := system.putCache booking.cache
    (cache.store booking.key
      { value, deletion, deadline, ttl := booking.ttl, generation := booking.generation })
  match cache.lease? booking.key with
  | none => (none, stored)
  | some old => (some old.value, (stored.cancelTask cache.scheduler old.deletion).2)

def fulfil (system : System V) (booking : Booking V) (cache : Cache V) (deletion : TaskId)
    (deadline : Int) : Reply V × System V :=
  match booking.access with
  | .read =>
      match cache.lease? booking.key with
      | none => (.found none, system)
      | some lease =>
          (.found (some lease.value), system.extend booking cache lease deletion deadline)
  | .add value _ => (.ok, (system.replace booking cache value deletion deadline).2)
  | .set value _ =>
      let (previous, system) := system.replace booking cache value deletion deadline
      (.found previous, system)

/-- The second part of an access whose deletion was refused: nothing is stored, and a read
answers all the same. -/
def decline (system : System V) (booking : Booking V) (cache : Cache V)
    (error : SchedulerError) : Reply V × System V :=
  match booking.access with
  | .read =>
      (.found ((cache.lease? booking.key).map Lease.value),
        system.putCache booking.cache (cache.note (.unextended booking.key error)))
  | _ => (.failed (.unscheduled error), system)

def resolve (system : System V) (booking : Booking V) : Reply V × System V :=
  match booking.deadline, system.cache? booking.cache with
  | none, _ => (.overflow, system)
  | some _, none => (.noCache, system)
  | some deadline, some cache =>
      match system.scheduler? cache.scheduler with
      | none => (.noScheduler, system)
      | some scheduler =>
          match system.submit? cache.scheduler deadline
              (.deletion booking.cache booking.key booking.generation) with
          | none => system.decline booking cache scheduler.refusal
          | some (deletion, system) => system.fulfil booking cache deletion deadline

def confirm (system : System V) (booking : Booking V) : Reply V × System V :=
  let (reply, resolved) := system.resolve booking
  (reply, (resolved.unlock booking).sweep)

def delete (system : System V) (id : CacheId) (cache : Cache V) (key : String) :
    Reply V × System V :=
  match cache.lease? key with
  | none => (.found none, system)
  | some lease =>
      let (inTime, system) := system.cancelTask cache.scheduler lease.deletion
      let removed := cache.remove key
      (.found (some lease.value),
        system.putCache id (if inTime then removed else removed.note (.overdue key)))

def consult (system : System V) (cache : Cache V) : CacheQuery → Reply V
  | .contains key => .flag (cache.contains key)
  | .size => .count cache.size
  | .isEmpty => .flag cache.isEmpty
  | .keys => .names cache.keys
  | .debug =>
      match system.scheduler? cache.scheduler with
      | none => .noScheduler
      | some scheduler => .text (cache.debugText scheduler.debugText)
  | .listing =>
      match system.scheduler? cache.scheduler with
      | none => .noScheduler
      | some scheduler => .listing cache.headline cache.keys scheduler.debugText

end System

end Agenda
