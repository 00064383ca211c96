import Agenda.Proofs.System.Locking
import Agenda.Proofs.System.Owning
import Agenda.Session.Run

/-!
# What a failed attempt leaves behind

To submit a task and to write an entry are attempts: they may fail.  A failed attempt changes nothing,
but that a write may have taken a generation that nobody will use.
-/

namespace Agenda

universe u

variable {V : Type u}

def Reply.isError : Reply V → Bool
  | .refused _ => true
  | .failed _ => true
  | .overflow => true
  | _ => false

/-- A call that is answered with an error if it fails. -/
inductive Attempt (V : Type u) where
  | submit (scheduler handle : Label) (due : Due) (script : Script V)
  | add (cache : Label) (key : String) (value : V) (ttl : Delay)
  | set (cache : Label) (key : String) (value : V) (ttl : Delay)
  deriving Repr

namespace Attempt

def deed : Attempt V → Session.Deed V
  | .submit scheduler handle due script => .submit scheduler handle due script
  | .add cache key value ttl => .request (.access cache key (.add value ttl))
  | .set cache key value ttl => .request (.access cache key (.set value ttl))

def step : Attempt V → Script V → Script V
  | .submit scheduler handle due script, rest => .submit scheduler handle due script rest
  | .add cache key value ttl, rest => .request (.access cache key (.add value ttl)) rest
  | .set cache key value ttl, rest => .request (.access cache key (.set value ttl)) rest

def answer? (system : System V) : Attempt V → Option (Reply V × System V)
  | .submit scheduler handle due script => some (system.submit scheduler handle due script)
  | .add cache key value ttl => system.access? cache key (.add value ttl)
  | .set cache key value ttl => system.access? cache key (.set value ttl)

end Attempt

namespace System

variable {system locked after : System V} {id : CacheId} {cache : Cache V} {key : String}
  {access : Access V} {reply : Reply V}

/-- A generation of a cache is handed out for nothing, if anything happens at all. -/
inductive Wastes (system : System V) : System V → Prop where
  | nothing : Wastes system system
  | generation {id : CacheId} {cache : Cache V} :
      system.cache? id = some cache → Wastes system (system.putCache id cache.advance)

theorem submit_of_isError {scheduler handle : Label} {due : Due} {script : Script V}
    (failed : (system.submit scheduler handle due script).1.isError = true) :
    (system.submit scheduler handle due script).2 = system := by
  unfold submit at failed ⊢
  split at failed
  · rfl
  · split at failed
    · rfl
    · split at failed
      · rfl
      · cases failed

theorem resolve_of_isError {booking : Booking V} (writes : booking.access.isRead = false)
    (failed : (system.resolve booking).1.isError = true) :
    (system.resolve booking).2 = system := by
  unfold resolve at failed ⊢
  split at failed
  · rfl
  · cases failed
  · split at failed
    · cases failed
    · split at failed
      · unfold decline at failed ⊢
        cases asked : booking.access with
        | read =>
            rw [asked] at writes
            cases writes
        | _ => rfl
      · unfold fulfil at failed
        cases asked : booking.access with
        | read =>
            rw [asked] at writes
            cases writes
        | _ =>
            rw [asked] at failed
            cases failed

/-- A write that has taken the lock and fails lets go of the lock, and of nothing else. -/
theorem Reachable.confirm_of_isError (reachable : Reachable system)
    (found : system.cache? id = some cache) (writes : access.isRead = false) {booking : Booking V}
    (booked : system.book id cache key access = .ok (booking, locked))
    (failed : (locked.confirm booking).1.isError = true) :
    (locked.confirm booking).2 = system.putCache id cache.advance := by
  obtain ⟨ttl, _, own, held⟩ := eq_of_book booked
  have asks : booking.access.isRead = false := by rw [own, writes]
  have resolved : (locked.resolve booking).2 = locked := resolve_of_isError asks failed
  have apart : ∀ other ∈ system.bookings, other.cache = booking.cache →
      other.generation ≠ booking.generation := by
    intro other listed same
    rw [own] at same ⊢
    have given := (reachable.numbered.caches found).booked other (mem_holders_iff.2 ⟨listed, same⟩)
    exact Nat.ne_of_lt (Nat.lt_succ_of_le given.2)
  have unlocked : locked.unlock booking = system.putCache id cache.advance := by
    have released := bookings_unlock_of_cons (congrArg System.bookings held) apart
    calc locked.unlock booking
        = { locked with bookings := (locked.unlock booking).bookings } := rfl
      _ = { locked with bookings := system.bookings } := by rw [released]
      _ = system.putCache id cache.advance := by rw [held]; rfl
  have ends : (locked.confirm booking).2 = ((locked.resolve booking).2.unlock booking).sweep := rfl
  rw [ends, resolved, unlocked]
  exact (reachable.owned.putCache found cache.advance rfl rfl).sweep_eq

theorem Reachable.access?_of_isError (reachable : Reachable system) {label : Label}
    (writes : access.isRead = false)
    (answered : system.access? label key access = some (reply, after))
    (failed : reply.isError = true) : Wastes system after := by
  unfold access? at answered
  split at answered
  · cases answered
    exact .nothing
  · rename_i located
    split at answered
    · split at answered
      · cases answered
        exact .nothing
      · rename_i booked
        have found := cache?_of_cacheAt? located
        have replied := congrArg Prod.fst (Option.some.inj answered)
        rw [← snd_eq_of_some answered, reachable.confirm_of_isError found writes booked
          ((congrArg Reply.isError replied).trans failed)]
        exact .generation found
    · cases answered

/-- Whatever a failed attempt was, all entries, all tasks and all locks are what they were. -/
theorem Reachable.wastes (reachable : Reachable system) {attempt : Attempt V}
    (answered : attempt.answer? system = some (reply, after)) (failed : reply.isError = true) :
    Wastes system after := by
  cases attempt with
  | submit scheduler handle due script =>
      have replied := congrArg Prod.fst (Option.some.inj answered)
      rw [← snd_eq_of_some answered,
        submit_of_isError ((congrArg Reply.isError replied).trans failed)]
      exact .nothing
  | add label key value ttl => exact reachable.access?_of_isError rfl answered failed
  | set label key value ttl => exact reachable.access?_of_isError rfl answered failed

end System

end Agenda
