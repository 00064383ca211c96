import Agenda.Clock
import Agenda.Scheduler.Basic
import Std.Data.TreeMap

/-!
A cache: values by key, each under a lease that ends when its deletion runs.

A deletion is a task of the cache's scheduler.  It carries the generation of the lease it was
scheduled for, and removes an entry only while that is still the entry's generation: a deletion
that has begun cannot be cancelled any more, but it can be outdated.

Generations are counted without a bound.  A counter of 64 bits does the same as long as a cache
hands out fewer than 2 ^ 64 of them.
-/

namespace Agenda

universe u

structure CacheId where
  index : Nat
  deriving DecidableEq, Repr

structure Lease (V : Type u) where
  value : V
  /-- How long the entry lives after it was stored or read. -/
  ttl : Delay
  deletion : TaskId
  generation : Nat
  deadline : Int
  deriving Repr

inductive CacheNotice where
  /-- A read came after the deletion had begun, and the entry lives on. -/
  | outlived (key : String)
  /-- A read could not schedule a later deletion. -/
  | unextended (key : String) (cause : SchedulerError)
  /-- An entry was deleted whose deletion was not pending. -/
  | overdue (key : String)
  | expired (key : String)
  deriving DecidableEq, Repr

def CacheNotice.line (name : String) : CacheNotice → LogLine
  | .outlived key =>
      ⟨.warn, "Expiration of '" ++ key ++ "' in '" ++ name
        ++ "' already fired, keeping entry under a new deadline"⟩
  | .unextended key cause =>
      ⟨.warn, "Failed to extend expiration of '" ++ key ++ "', keeping original deadline: "
        ++ cause.message⟩
  | .overdue key => ⟨.debug, "Expiration of deleted key '" ++ key ++ "' was not pending"⟩
  | .expired key => ⟨.debug, "Key '" ++ key ++ "' expired in '" ++ name ++ "'"⟩

structure Cache (V : Type u) where
  scheduler : SchedulerId
  leases : Std.TreeMap String (Lease V) := ∅
  /-- The last generation handed out. -/
  generation : Nat := 0
  /-- Nobody refers to the cache any more. -/
  dropped : Bool := false
  journal : Array CacheNotice := #[]

namespace Cache

variable {V : Type u}

def note (cache : Cache V) (notice : CacheNotice) : Cache V :=
  { cache with journal := cache.journal.push notice }

def lease? (cache : Cache V) (key : String) : Option (Lease V) := cache.leases[key]?

def contains (cache : Cache V) (key : String) : Bool := cache.leases.contains key

def size (cache : Cache V) : Nat := cache.leases.size

def isEmpty (cache : Cache V) : Bool := cache.leases.isEmpty

def keys (cache : Cache V) : List String := cache.leases.keys

def advance (cache : Cache V) : Cache V := { cache with generation := cache.generation + 1 }

def store (cache : Cache V) (key : String) (lease : Lease V) : Cache V :=
  { cache with leases := cache.leases.insert key lease }

def remove (cache : Cache V) (key : String) : Cache V :=
  { cache with leases := cache.leases.erase key }

@[simp]
theorem lease?_note (cache : Cache V) (notice : CacheNotice) (key : String) :
    (cache.note notice).lease? key = cache.lease? key := rfl

theorem lease?_store (cache : Cache V) (key other : String) (lease : Lease V) :
    (cache.store key lease).lease? other
      = if other = key then some lease else cache.lease? other := by
  rw [lease?, store, Std.TreeMap.getElem?_insert]
  by_cases same : other = key
  · simp [same]
  · simp [same, Ne.symm same, lease?]

theorem lease?_remove (cache : Cache V) (key other : String) :
    (cache.remove key).lease? other = if other = key then none else cache.lease? other := by
  rw [lease?, remove, Std.TreeMap.getElem?_erase]
  by_cases same : other = key
  · simp [same]
  · simp [same, Ne.symm same, lease?]

/-- What the deletion for `generation` does: it removes the entry if it is not outdated. -/
def expire (cache : Cache V) (key : String) (generation : Nat) : Cache V :=
  if (cache.lease? key).any fun lease => lease.generation = generation then
    (cache.remove key).note (.expired key)
  else
    cache

@[simp]
theorem scheduler_expire (cache : Cache V) (key : String) (generation : Nat) :
    (cache.expire key generation).scheduler = cache.scheduler := by
  unfold expire
  split <;> rfl

@[simp]
theorem dropped_expire (cache : Cache V) (key : String) (generation : Nat) :
    (cache.expire key generation).dropped = cache.dropped := by
  unfold expire
  split <;> rfl

@[simp]
theorem generation_expire (cache : Cache V) (key : String) (generation : Nat) :
    (cache.expire key generation).generation = cache.generation := by
  unfold expire
  split <;> rfl

theorem lease?_expire (cache : Cache V) (key other : String) (generation : Nat) :
    (cache.expire key generation).lease? other =
      if other = key then (cache.lease? key).filter fun lease => lease.generation ≠ generation
      else cache.lease? other := by
  by_cases same : other = key
  · subst same
    rw [if_pos rfl, expire]
    cases found : cache.lease? other with
    | none => simp [found]
    | some lease =>
        by_cases current : lease.generation = generation
        · simp [current, lease?_remove, Option.filter_some]
        · simp [current, found, Option.filter_some]
  · rw [if_neg same, expire]
    split
    · rw [lease?_note, lease?_remove, if_neg same]
    · rfl

def drop (cache : Cache V) : Cache V := { cache with dropped := true }

def debugText (cache : Cache V) (scheduler : String) : String :=
  Text.record "TtlCache" [("len", toString cache.size), ("manager", scheduler)]

def headline (cache : Cache V) : String :=
  "total " ++ toString cache.size ++ " cache items"

end Cache

end Agenda
