import Agenda.Cache.Basic
import Agenda.Cache.Error

/-!
What can be asked of a system of schedulers and caches, and what it answers.

Schedulers, caches, tasks, tokens and gates are referred to by labels.
-/

namespace Agenda

universe u

/-- A name by which callers refer to a part of the system. -/
abbrev Label := String

inductive SchedulerQuery where
  | size
  | isEmpty
  | isStopped
  | name
  | debug
  deriving DecidableEq, Repr

inductive CacheQuery where
  | contains (key : String)
  | size
  | isEmpty
  | keys
  | debug
  | listing
  deriving DecidableEq, Repr

/-- Why a cache entry is touched in a way that schedules a deletion. -/
inductive Access (V : Type u) where
  | read
  | add (value : V) (ttl : Delay)
  | set (value : V) (ttl : Delay)
  deriving DecidableEq, Repr

def Access.isRead {V : Type u} : Access V → Bool
  | .read => true
  | _ => false

/-- A call that returns as soon as it gets hold of what it needs. -/
inductive Request (V : Type u) where
  | create (scheduler : Label) (settings : Settings)
  | inspect (scheduler : Label) (query : SchedulerQuery)
  | cancel (scheduler handle : Label)
  | fateOf (handle : Label)
  | cancelToken (token : Label)
  | isCancelled (token : Label)
  | openGate (gate : Label)
  /-- A cache on a scheduler that has a label. -/
  | createCacheOn (cache scheduler : Label)
  /-- A cache on a scheduler of its own, which is known to nobody else. -/
  | createCacheAlone (cache : Label) (settings : Settings)
  /-- Gives a label to the scheduler of a cache. -/
  | schedulerOf (cache scheduler : Label)
  | access (cache : Label) (key : String) (access : Access V)
  | delete (cache : Label) (key : String)
  | consult (cache : Label) (query : CacheQuery)
  deriving Repr

/-- A call that may have to wait. -/
inductive Parting where
  /-- Waits until the scheduler is drained, and stops it. -/
  | shutdown (scheduler : Label)
  /-- Gives up a scheduler.  If nobody else refers to it, it is halted. -/
  | release (scheduler : Label)
  | releaseCache (cache : Label)
  deriving DecidableEq, Repr

inductive Reply (V : Type u) where
  | ok
  /-- The call goes on by itself. -/
  | started
  | accepted (id : TaskId)
  | flag (flag : Bool)
  | count (count : Nat)
  | text (text : String)
  | found (value : Option V)
  | names (names : List String)
  | fate (id : TaskId) (fate : Fate)
  | listing (first : String) (keys : List String) (last : String)
  | clock (millis : Int)
  | refused (error : SchedulerError)
  | failed (error : CacheError)
  /-- The call panicked, because a delay ends beyond the last instant of the clock. -/
  | overflow
  | noHandle
  | noScheduler
  | noCache
  deriving Repr

end Agenda
