import Agenda.System.Caching

/-!
# What accesses do

An access begins by reading the clock.  It ends in one of two ways: its deletion is refused and the
entries stay what they are, or the entry is stored and the deletion of the one before is cancelled.
An entry that is taken out leaves the others alone, too.
-/

namespace Agenda

universe u

variable {V : Type u}

/-- The value that an access leaves behind, and what it answers to the value before. -/
def Booking.value? (booking : Booking V) (old : Option (Lease V)) : Option V :=
  match booking.access with
  | .read => old.map Lease.value
  | .add value _ => some value
  | .set value _ => some value

def Booking.answer (booking : Booking V) (old : Option (Lease V)) : Reply V :=
  match booking.access with
  | .add _ _ => .ok
  | _ => .found (old.map Lease.value)

/-- The same entries and the same number of generations. -/
structure Cache.Resembles (before after : Cache V) : Prop where
  scheduler : after.scheduler = before.scheduler
  dropped : after.dropped = before.dropped
  generation : after.generation = before.generation
  lease? : ∀ key, after.lease? key = before.lease? key

structure Cache.Gains (key : String) (lease : Lease V) (before after : Cache V) : Prop where
  scheduler : after.scheduler = before.scheduler
  dropped : after.dropped = before.dropped
  generation : after.generation = before.generation
  lease? : ∀ other, after.lease? other = if other = key then some lease else before.lease? other

structure Cache.Loses (key : String) (before after : Cache V) : Prop where
  scheduler : after.scheduler = before.scheduler
  dropped : after.dropped = before.dropped
  generation : after.generation = before.generation
  lease? : ∀ other, after.lease? other = if other = key then none else before.lease? other

/-- Cancels the deletion of the entry that was there before. -/
def Scheduler.relieve (scheduler : Scheduler (Work V)) :
    Option (Lease V) → Scheduler (Work V)
  | none => scheduler
  | some old => (scheduler.cancel old.deletion).2

namespace System

variable {system : System V} {id : CacheId} {cache : Cache V} {key : String} {booking : Booking V}

theorem putCache_self (found : system.cache? id = some cache) :
    system.putCache id cache = system := by
  obtain ⟨inside, same⟩ := Array.getElem?_eq_some_iff.1 found
  rw [putCache, Array.setIfInBounds, dif_pos inside, ← same, Array.set_getElem_self]

theorem putScheduler_self {host : SchedulerId} {scheduler : Scheduler (Work V)}
    (found : system.scheduler? host = some scheduler) :
    system.putScheduler host scheduler = system := by
  obtain ⟨inside, same⟩ := Array.getElem?_eq_some_iff.1 found
  rw [putScheduler, Array.setIfInBounds, dif_pos inside, ← same, Array.set_getElem_self]

theorem isAccessible_of_free (free : system.bookings = []) (id : CacheId) (key : String)
    (access : Access V) : system.isAccessible id key access = true := by
  cases access <;> simp [isAccessible, isReadable, isUnlocked, free]

/-- An access that has taken the lock bears the next generation and has read the clock. -/
theorem eq_of_book {locked : System V} {access : Access V}
    (booked : system.book id cache key access = .ok (booking, locked)) :
    ∃ ttl, cache.ttl? key access = .ok (some ttl) ∧
      booking = ⟨id, key, access, ttl, cache.generation + 1, ttl.after? system.now⟩ ∧
      locked = { system.putCache id cache.advance with
        bookings := booking :: system.bookings } := by
  unfold book at booked
  split at booked
  · cases booked
  · cases booked
  · rename_i ttl lasting
    cases booked
    exact ⟨ttl, lasting, rfl, rfl⟩

/-- Only schedulers and caches differ, and there are as many schedulers as before. -/
def Frames (before after : System V) : Prop :=
  ∃ schedulers caches, schedulers.size = before.schedulers.size ∧
    after = { before with schedulers, caches }

namespace Frames

variable {before middle after : System V}

theorem now (frames : Frames before after) : after.now = before.now := by
  obtain ⟨_, _, _, rfl⟩ := frames
  rfl

theorem calls (frames : Frames before after) : after.calls = before.calls := by
  obtain ⟨_, _, _, rfl⟩ := frames
  rfl

theorem tokens (frames : Frames before after) :
    after.cancelledTokens = before.cancelledTokens := by
  obtain ⟨_, _, _, rfl⟩ := frames
  rfl

theorem size (frames : Frames before after) :
    after.schedulers.size = before.schedulers.size := by
  obtain ⟨_, _, size, rfl⟩ := frames
  exact size

theorem refl (system : System V) : Frames system system := ⟨_, _, rfl, rfl⟩

theorem trans (first : Frames before middle) (second : Frames middle after) :
    Frames before after := by
  obtain ⟨_, _, size, rfl⟩ := first
  obtain ⟨_, _, same, rfl⟩ := second
  exact ⟨_, _, same.trans size, rfl⟩

theorem put (system : System V) (id : SchedulerId) (scheduler : Scheduler (Work V)) :
    Frames system (system.putScheduler id scheduler) :=
  ⟨_, _, Array.size_setIfInBounds, rfl⟩

end Frames

theorem cancelTask_eq (system : System V) (host : SchedulerId) (task : TaskId) :
    ∃ schedulers, (system.cancelTask host task).2 = { system with schedulers } := by
  unfold cancelTask
  split
  · exact ⟨_, rfl⟩
  · exact ⟨_, rfl⟩

theorem frames_cancelTask (system : System V) (host : SchedulerId) (task : TaskId) :
    Frames system (system.cancelTask host task).2 := by
  unfold cancelTask
  split
  · exact .refl system
  · exact .put system host _

theorem frames_replace (system : System V) (booking : Booking V) (cache : Cache V) (value : V)
    (deletion : TaskId) (deadline : Int) :
    Frames system (system.replace booking cache value deletion deadline).2 := by
  unfold replace
  dsimp only
  split
  · exact ⟨_, _, rfl, rfl⟩
  · refine .trans ?_ (frames_cancelTask _ _ _)
    exact ⟨_, _, rfl, rfl⟩

theorem frames_fulfil (system : System V) (booking : Booking V) (cache : Cache V)
    (deletion : TaskId) (deadline : Int) :
    Frames system (system.fulfil booking cache deletion deadline).2 := by
  unfold fulfil
  split
  · split
    · exact .refl system
    · exact (frames_cancelTask _ _ _).trans ⟨_, _, rfl, rfl⟩
  · exact frames_replace _ _ _ _ _ _
  · exact frames_replace _ _ _ _ _ _

theorem frames_resolve (system : System V) (booking : Booking V) :
    Frames system (system.resolve booking).2 := by
  unfold resolve
  split
  · exact .refl system
  · exact .refl system
  · split
    · exact .refl system
    · split
      · unfold decline
        split <;> exact ⟨_, _, rfl, rfl⟩
      · rename_i accepted
        obtain ⟨_, _, accepted⟩ := Option.bind_eq_some_iff.1 accepted
        obtain ⟨_, _, same⟩ := Option.map_eq_some_iff.1 accepted
        cases same
        exact .trans (.put _ _ _) (frames_fulfil _ _ _ _ _)

theorem frames_delete (system : System V) (id : CacheId) (cache : Cache V) (key : String) :
    Frames system (system.delete id cache key).2 := by
  unfold delete
  split
  · exact .refl system
  · exact (frames_cancelTask _ _ _).trans ⟨_, _, rfl, rfl⟩

inductive Confirms (system : System V) (booking : Booking V) (cache : Cache V) :
    Reply V × System V → Prop where
  /-- The deletion was refused, or its due time is beyond the clock. -/
  | declined {reply : Reply V} {noted : Cache V} :
      cache.Resembles noted →
      (booking.deadline = none ∨ ∀ host, system.scheduler? cache.scheduler = some host →
        host.isStopped = true) →
      Confirms system booking cache (reply, system.putCache booking.cache noted)
  | fulfilled {host filled : Scheduler (Work V)} {task : TaskId} {deadline : Int} {value : V}
      {stored : Cache V} :
      booking.deadline = some deadline →
      system.scheduler? cache.scheduler = some host →
      host.submit? deadline (.deletion booking.cache booking.key booking.generation)
        = some (task, filled) →
      booking.value? (cache.lease? booking.key) = some value →
      cache.Gains booking.key ⟨value, booking.ttl, task, booking.generation, deadline⟩ stored →
      Confirms system booking cache (booking.answer (cache.lease? booking.key),
        (system.putCache booking.cache stored).putScheduler cache.scheduler
          (filled.relieve (cache.lease? booking.key)))

theorem gains_store (cache : Cache V) (key : String) (lease : Lease V) :
    cache.Gains key lease (cache.store key lease) :=
  ⟨rfl, rfl, rfl, fun other => cache.lease?_store key other lease⟩

theorem replace_eq_relieve {host : Scheduler (Work V)}
    (found : system.scheduler? cache.scheduler = some host) (booking : Booking V) (value : V)
    (task : TaskId) (deadline : Int) :
    system.replace booking cache value task deadline =
      ((cache.lease? booking.key).map Lease.value,
        (system.putCache booking.cache (cache.store booking.key
          ⟨value, booking.ttl, task, booking.generation, deadline⟩)).putScheduler cache.scheduler
            (host.relieve (cache.lease? booking.key))) := by
  unfold replace
  cases cache.lease? booking.key with
  | none =>
      have same : (system.putCache booking.cache (cache.store booking.key
          ⟨value, booking.ttl, task, booking.generation, deadline⟩)).scheduler? cache.scheduler
            = some host := found
      simp only [Option.map_none, Scheduler.relieve, putScheduler_self same]
  | some old =>
      have same : (system.putCache booking.cache (cache.store booking.key
          ⟨value, booking.ttl, task, booking.generation, deadline⟩)).scheduler? cache.scheduler
            = some host := found
      simp only [cancelTask_of_found same]
      rfl

theorem extend_eq_relieve {host : Scheduler (Work V)}
    (found : system.scheduler? cache.scheduler = some host) (booking : Booking V) (old : Lease V)
    (task : TaskId) (deadline : Int) : ∃ stored,
      cache.Gains booking.key ⟨old.value, old.ttl, task, booking.generation, deadline⟩ stored ∧
      system.extend booking cache old task deadline =
        (system.putCache booking.cache stored).putScheduler cache.scheduler
          (host.relieve (some old)) := by
  simp only [extend, cancelTask_of_found found]
  split
  · exact ⟨_, gains_store cache _ _, rfl⟩
  · refine ⟨_, ?_, rfl⟩
    exact ⟨rfl, rfl, rfl, fun other => Cache.lease?_store _ _ other _⟩

theorem confirms_fulfil {host filled : Scheduler (Work V)} {task : TaskId} {deadline : Int}
    (reached : booking.deadline = some deadline)
    (found : system.scheduler? cache.scheduler = some host)
    (accepted : host.submit? deadline (.deletion booking.cache booking.key booking.generation)
      = some (task, filled))
    (reads : booking.access.isRead = true →
      ∃ old, cache.lease? booking.key = some old ∧ old.ttl = booking.ttl) :
    Confirms system booking cache
      ((system.putScheduler cache.scheduler filled).fulfil booking cache task deadline) := by
  have target := scheduler?_putScheduler_self found filled
  have settled (stored : Cache V) : ((system.putScheduler cache.scheduler filled).putCache
      booking.cache stored).putScheduler cache.scheduler (filled.relieve (cache.lease? booking.key))
        = (system.putCache booking.cache stored).putScheduler cache.scheduler
          (filled.relieve (cache.lease? booking.key)) :=
    putScheduler_putScheduler (system.putCache booking.cache stored) cache.scheduler filled _
  unfold fulfil
  cases asked : booking.access with
  | read =>
      obtain ⟨old, present, ttl⟩ := reads (by rw [asked]; rfl)
      obtain ⟨stored, gains, extended⟩ := extend_eq_relieve target booking old task deadline
      rw [ttl] at gains
      have value : booking.value? (cache.lease? booking.key) = some old.value := by
        rw [Booking.value?, asked, present]
        rfl
      have fulfilled := Confirms.fulfilled reached found accepted value gains
      have answer : booking.answer (some old) = .found (some old.value) := by
        rw [Booking.answer, asked]
        rfl
      simp only [present, extended, ← answer]
      rwa [← settled stored, present] at fulfilled
  | add value ttl =>
      have same : booking.value? (cache.lease? booking.key) = some value := by
        rw [Booking.value?, asked]
      have fulfilled := Confirms.fulfilled reached found accepted same (gains_store cache _ _)
      have answer : booking.answer (cache.lease? booking.key) = .ok := by
        rw [Booking.answer, asked]
      simp only [replace_eq_relieve target, ← answer]
      rwa [← settled] at fulfilled
  | set value ttl =>
      have same : booking.value? (cache.lease? booking.key) = some value := by
        rw [Booking.value?, asked]
      have fulfilled := Confirms.fulfilled reached found accepted same (gains_store cache _ _)
      have answer : booking.answer (cache.lease? booking.key)
          = .found ((cache.lease? booking.key).map Lease.value) := by
        rw [Booking.answer, asked]
      simp only [replace_eq_relieve target, ← answer]
      rwa [← settled] at fulfilled

theorem confirms_resolve (found : system.cache? booking.cache = some cache)
    (reads : booking.access.isRead = true →
      ∃ old, cache.lease? booking.key = some old ∧ old.ttl = booking.ttl) :
    Confirms system booking cache (system.resolve booking) := by
  have vain {reply : Reply V}
      (refused : booking.deadline = none ∨ ∀ host, system.scheduler? cache.scheduler = some host →
        host.isStopped = true) : Confirms system booking cache (reply, system) := by
    have declined : Confirms system booking cache (reply, system.putCache booking.cache cache) :=
      .declined ⟨rfl, rfl, rfl, fun _ => rfl⟩ refused
    rwa [putCache_self found] at declined
  unfold resolve
  rw [found]
  cases reached : booking.deadline with
  | none => exact vain (.inl reached)
  | some deadline =>
      dsimp only
      cases hosted : system.scheduler? cache.scheduler with
      | none =>
          refine vain (.inr fun host same => ?_)
          cases hosted.symm.trans same
      | some host =>
          dsimp only
          rw [submit?_of_found hosted]
          cases answered : host.submit? deadline
              (.deletion booking.cache booking.key booking.generation) with
          | some taken =>
              obtain ⟨task, filled⟩ := taken
              exact confirms_fulfil reached hosted answered reads
          | none =>
              have stopped : host.isStopped = true := by
                unfold Scheduler.submit? at answered
                split at answered
                · rename_i stopped
                  exact stopped
                · cases answered
              have refused : booking.deadline = none ∨ ∀ host,
                  system.scheduler? cache.scheduler = some host → host.isStopped = true := by
                refine .inr fun other same => ?_
                cases hosted.symm.trans same
                exact stopped
              rw [Option.map_none]
              dsimp only
              unfold decline
              split
              · exact .declined ⟨rfl, rfl, rfl, fun _ => rfl⟩ refused
              · exact vain refused

theorem delete_eq_loses (system : System V) (id : CacheId) {old : Lease V}
    (present : cache.lease? key = some old) :
    ∃ removed, Cache.Loses key cache removed ∧ system.delete id cache key =
      (.found (some old.value),
        (system.cancelTask cache.scheduler old.deletion).2.putCache id removed) := by
  simp only [delete, present]
  split
  · refine ⟨_, ?_, rfl⟩
    exact ⟨rfl, rfl, rfl, cache.lease?_remove key⟩
  · refine ⟨_, ?_, rfl⟩
    exact ⟨rfl, rfl, rfl, cache.lease?_remove key⟩

theorem delete_of_none (absent : cache.lease? key = none) :
    system.delete id cache key = (.found none, system) := by
  simp only [delete, absent]

theorem resolve_of_none (absent : system.cache? booking.cache = none) :
    (system.resolve booking).2 = system := by
  unfold resolve
  rw [absent]
  cases booking.deadline <;> rfl

/-- Whatever the answer, only the entry of the key and the scheduler can change. -/
theorem Confirms.changed {result : Reply V × System V}
    (confirms : Confirms system booking cache result) : ∃ changed,
      changed.scheduler = cache.scheduler ∧ changed.generation = cache.generation ∧
      (∀ key, changed.lease? key = cache.lease? key ∨
        key = booking.key ∧ ∃ lease, changed.lease? key = some lease ∧
          lease.generation = booking.generation ∧ booking.deadline = some lease.deadline ∧
          lease.ttl = booking.ttl) ∧
      ∃ schedulers, result.2 = { system.putCache booking.cache changed with schedulers } := by
  cases confirms with
  | @declined reply noted resembles _ =>
      exact ⟨noted, resembles.scheduler, resembles.generation,
        fun key => .inl (resembles.lease? key), _, rfl⟩
  | @fulfilled host filled task deadline value stored reached _ _ _ gains =>
      refine ⟨stored, gains.scheduler, gains.generation, fun key => ?_, _, rfl⟩
      rw [gains.lease?]
      split
      · rename_i own
        exact .inr ⟨own, _, rfl, rfl, reached, rfl⟩
      · exact .inl rfl

end System

end Agenda
