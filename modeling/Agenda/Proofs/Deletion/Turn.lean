import Agenda.Proofs.System.Change

/-!
# What a change does to a cache

Of all that can change a system, a cache sees four turns: an access takes its lock, an access ends
and lets go of it, an entry is removed, or nothing happens to the entries.
-/

namespace Agenda

universe u

variable {V : Type u}

/-- An access reads the clock and joins those that hold the lock. -/
structure Cache.Books (now : Int) (cache : Cache V) (holders : List (Booking V))
    (booking : Booking V) : Prop where
  generation : booking.generation = cache.generation + 1
  deadline : booking.deadline = booking.ttl.after? now
  reads : booking.access.isRead = true →
    ∃ old, cache.lease? booking.key = some old ∧ old.ttl = booking.ttl
  shares : ∀ other ∈ holders, other.access.isRead = true ∧ booking.access.isRead = true ∧
    other.key ≠ booking.key

/-- What a change does to the entries of a cache, while these accesses hold its lock. -/
inductive Cache.Turn (now : Int) (cache : Cache V) (holders : List (Booking V)) :
    Cache V → List (Booking V) → Prop where
  | quiet {changed : Cache V} :
      (∀ key, changed.lease? key = cache.lease? key) → changed.generation = cache.generation →
      Turn now cache holders changed holders
  | book {booking : Booking V} :
      cache.Books now holders booking → Turn now cache holders cache.advance (booking :: holders)
  | confirm {booking : Booking V} {changed : Cache V} :
      booking ∈ holders → changed.generation = cache.generation →
      (∀ key, changed.lease? key = cache.lease? key ∨
        key = booking.key ∧ ∃ lease, changed.lease? key = some lease ∧
          lease.generation = booking.generation ∧ booking.deadline = some lease.deadline ∧
          lease.ttl = booking.ttl) →
      Turn now cache holders changed
        (holders.filter fun other => other.generation ≠ booking.generation)
  | remove (key : String) {changed : Cache V} :
      holders = [] → changed.generation = cache.generation →
      (∀ other, changed.lease? other = cache.lease? other ∨
        other = key ∧ changed.lease? other = none) → Turn now cache holders changed holders

namespace System

def holders (system : System V) (id : CacheId) : List (Booking V) :=
  system.bookings.filter fun booking => booking.cache = id

variable {system : System V} {id : CacheId} {cache : Cache V} {key : String} {booking : Booking V}

theorem mem_holders_iff :
    booking ∈ system.holders id ↔ booking ∈ system.bookings ∧ booking.cache = id := by
  simp [holders]

theorem holders_of_isUnlocked (unlocked : system.isUnlocked id = true) :
    system.holders id = [] := by
  simpa [isUnlocked, holders] using unlocked

theorem shares_of_isAccessible {access : Access V}
    (accessible : system.isAccessible id key access = true) :
    ∀ booking ∈ system.holders id, booking.access.isRead = true ∧ access.isRead = true ∧
      booking.key ≠ key := by
  intro booking held
  obtain ⟨held, own⟩ := mem_holders_iff.1 held
  cases access with
  | read =>
      simp only [isAccessible, isReadable, Bool.and_eq_true, Bool.not_eq_true', List.any_eq_false,
        decide_eq_true_eq, not_and, Bool.not_eq_false] at accessible
      exact ⟨accessible.1 booking held own, rfl, accessible.2 booking held own⟩
  | add value ttl =>
      have none := holders_of_isUnlocked accessible
      have listed := mem_holders_iff.2 ⟨held, own⟩
      rw [none] at listed
      cases listed
  | set value ttl =>
      have none := holders_of_isUnlocked accessible
      have listed := mem_holders_iff.2 ⟨held, own⟩
      rw [none] at listed
      cases listed

theorem cache?_createCache (found : system.cache? id = some cache) (host : SchedulerId) :
    (system.createCache host).2.cache? id = some cache := by
  obtain ⟨inside, _⟩ := Array.getElem?_eq_some_iff.1 found
  simp only [cache?, createCache, Array.getElem?_push]
  rw [if_neg (by omega)]
  exact found

/-- A new cache is empty. -/
theorem eq_of_createCache {host : SchedulerId} (absent : system.cache? id = none)
    (found : (system.createCache host).2.cache? id = some cache) :
    cache = { scheduler := host } := by
  simp only [cache?, createCache, Array.getElem?_push] at found absent
  split at found
  · cases found
    rfl
  · cases absent.symm.trans found

theorem cache?_putCache_of_none {other : CacheId} (absent : system.cache? id = none)
    (changed : Cache V) : (system.putCache other changed).cache? id = none := by
  rw [cache?, Array.getElem?_eq_none_iff] at absent ⊢
  exact Nat.le_trans (Nat.le_of_eq Array.size_setIfInBounds) absent

theorem holders_unlock_self (system : System V) (booking : Booking V) :
    (system.unlock booking).holders booking.cache =
      (system.holders booking.cache).filter fun other =>
        other.generation ≠ booking.generation := by
  simp only [holders, unlock, List.filter_filter]
  apply List.filter_congr
  intro other _
  by_cases same : other.cache = booking.cache <;> simp [same]

theorem holders_unlock_of_ne (different : id ≠ booking.cache) :
    (system.unlock booking).holders id = system.holders id := by
  simp only [holders, unlock, List.filter_filter]
  apply List.filter_congr
  intro other _
  by_cases same : other.cache = id
  · simp [same, different]
  · simp [same]

/-- A cache is found again with its entries, and its lock is held as before. -/
structure Still (id : CacheId) (cache : Cache V) (before after : System V) : Prop where
  found : ∃ changed, after.cache? id = some changed ∧ changed.scheduler = cache.scheduler ∧
    (∀ key, changed.lease? key = cache.lease? key) ∧ changed.generation = cache.generation
  holders : after.holders id = before.holders id

theorem Still.of_eq {after : System V} (found : system.cache? id = some cache)
    (caches : after.caches = system.caches) (bookings : after.bookings = system.bookings) :
    Still id cache system after := by
  refine ⟨⟨cache, ?_, rfl, fun _ => rfl, rfl⟩, ?_⟩
  · rw [cache?, caches]
    exact found
  · rw [System.holders, bookings, System.holders]

end System

/-- The turn that a cache takes in a change, if every read that holds its lock has an entry. -/
def System.Turns (id : CacheId) (cache : Cache V) (before after : System V) : Prop :=
  ∃ changed, after.cache? id = some changed ∧ changed.scheduler = cache.scheduler ∧
    cache.Turn before.now (before.holders id) changed (after.holders id)

namespace System

variable {system before after : System V} {id : CacheId} {cache : Cache V} {key : String}
  {booking : Booking V}

/-- A read that holds a lock has found an entry. -/
def ReadsPresent (system : System V) : Prop :=
  ∀ {id cache}, system.cache? id = some cache → ∀ booking ∈ system.holders id,
    booking.access.isRead = true →
      ∃ old, cache.lease? booking.key = some old ∧ old.ttl = booking.ttl

theorem Still.turns (still : Still id cache before after) : Turns id cache before after := by
  obtain ⟨⟨changed, found, scheduler, leases, generation⟩, holders⟩ := still
  refine ⟨changed, found, scheduler, ?_⟩
  rw [holders]
  exact .quiet leases generation

theorem books_of_book {locked : System V} {access : Access V}
    (accessible : system.isAccessible id key access = true)
    (booked : system.book id cache key access = .ok (booking, locked)) :
    cache.Books system.now (system.holders id) booking ∧ booking.cache = id ∧ locked =
      { system.putCache id cache.advance with bookings := booking :: system.bookings } := by
  obtain ⟨ttl, lasting, rfl, rfl⟩ := eq_of_book booked
  refine ⟨⟨rfl, rfl, ?_, shares_of_isAccessible accessible⟩, rfl, rfl⟩
  intro read
  cases access with
  | read =>
      obtain ⟨old, present, same⟩ := Option.map_eq_some_iff.1 (Except.ok.inj lasting)
      exact ⟨old, present, same⟩
  | add value ttl => cases read
  | set value ttl => cases read

theorem turns_book {locked : System V} {target : CacheId} {other : Cache V} {access : Access V}
    (found : system.cache? id = some cache) (targeted : system.cache? target = some other)
    (accessible : system.isAccessible target key access = true)
    (booked : system.book target other key access = .ok (booking, locked)) :
    Turns id cache system locked := by
  obtain ⟨books, own, rfl⟩ := books_of_book accessible booked
  by_cases same : id = target
  · subst same
    cases found.symm.trans targeted
    refine ⟨cache.advance, cache?_putCache_self found _, rfl, ?_⟩
    have held : { system.putCache id cache.advance with
        bookings := booking :: system.bookings }.holders id = booking :: system.holders id := by
      simp [holders, own]
    rw [held]
    exact .book books
  · refine Still.turns ⟨⟨cache, ?_, rfl, fun _ => rfl, rfl⟩, ?_⟩
    · exact (cache?_putCache_of_ne system same _).trans found
    · simp [holders, own, Ne.symm same]

theorem turns_confirm (found : system.cache? id = some cache) (present : system.ReadsPresent)
    (held : booking ∈ system.bookings) :
    Turns id cache system ((system.resolve booking).2.unlock booking) := by
  cases targeted : system.cache? booking.cache with
  | none =>
      have different : id ≠ booking.cache := by
        rintro rfl
        cases targeted.symm.trans found
      rw [resolve_of_none targeted]
      exact Still.turns ⟨⟨cache, found, rfl, fun _ => rfl, rfl⟩, holders_unlock_of_ne different⟩
  | some target =>
      have reads := present targeted booking (mem_holders_iff.2 ⟨held, rfl⟩)
      have confirms := confirms_resolve targeted reads
      obtain ⟨changed, scheduler, generation, leases, schedulers, resolved⟩ := confirms.changed
      rw [resolved]
      by_cases same : id = booking.cache
      · subst same
        cases found.symm.trans targeted
        refine ⟨changed, cache?_putCache_self found _, scheduler, ?_⟩
        have holders := holders_unlock_self
          { system.putCache booking.cache changed with schedulers } booking
        rw [holders]
        exact .confirm (mem_holders_iff.2 ⟨held, rfl⟩) generation leases
      · refine Still.turns ⟨⟨cache, ?_, rfl, fun _ => rfl, rfl⟩, holders_unlock_of_ne same⟩
        exact (cache?_putCache_of_ne system same changed).trans found

theorem turns_delete {target : CacheId} {other : Cache V} (found : system.cache? id = some cache)
    (targeted : system.cache? target = some other) (unlocked : system.isUnlocked target = true) :
    Turns id cache system (system.delete target other key).2 := by
  cases present : other.lease? key with
  | none =>
      rw [delete_of_none present]
      exact (Still.of_eq found rfl rfl).turns
  | some old =>
      obtain ⟨removed, loses, deleted⟩ := delete_eq_loses system target present
      obtain ⟨schedulers, cancelled⟩ := cancelTask_eq system other.scheduler old.deletion
      rw [deleted, cancelled]
      by_cases same : id = target
      · subst same
        cases found.symm.trans targeted
        refine ⟨removed, cache?_putCache_self found _, loses.scheduler, ?_⟩
        have vacant := holders_of_isUnlocked unlocked
        refine .remove key vacant loses.generation fun name => ?_
        rw [loses.lease?]
        split
        · rename_i own
          exact .inr ⟨own, rfl⟩
        · exact .inl rfl
      · refine Still.turns ⟨⟨cache, ?_, rfl, fun _ => rfl, rfl⟩, rfl⟩
        exact (cache?_putCache_of_ne _ same _).trans found

theorem turns_expire {target : CacheId} {other : Cache V} {generation : Nat}
    {host : SchedulerId} {scheduler : Scheduler (Work V)}
    (found : system.cache? id = some cache) (targeted : system.cache? target = some other)
    (unlocked : system.isUnlocked target = true) :
    Turns id cache system
      ((system.putCache target (other.expire key generation)).finishTask host scheduler) := by
  by_cases same : id = target
  · subst same
    cases found.symm.trans targeted
    refine ⟨_, cache?_putCache_self found _, cache.scheduler_expire .., ?_⟩
    refine .remove key (holders_of_isUnlocked unlocked) (cache.generation_expire ..) ?_
    intro name
    rw [Cache.lease?_expire]
    split
    · rename_i own
      rw [own]
      cases cache.lease? key with
      | none => exact .inl rfl
      | some lease =>
          rw [Option.filter_some]
          split
          · exact .inl rfl
          · exact .inr ⟨rfl, rfl⟩
    · exact .inl rfl
  · refine Still.turns ⟨⟨cache, ?_, rfl, fun _ => rfl, rfl⟩, rfl⟩
    exact (cache?_putCache_of_ne system same _).trans found

/-- Every cache takes one of the four turns in a change. -/
theorem Change.turns (change : Change before after) (found : before.cache? id = some cache)
    (present : before.ReadsPresent) : Turns id cache before after := by
  cases change with
  | aside aside => exact (Still.of_eq found aside.caches aside.bookings).turns
  | halt _ _ _ => exact (Still.of_eq found rfl rfl).turns
  | drop change drops changed =>
      refine Still.turns ⟨⟨change id cache, ?_, ?_⟩, rfl⟩
      · rw [changed, found, Option.map_some]
      · rcases drops id cache with same | dropped
        · rw [same]
          exact ⟨rfl, fun _ => rfl, rfl⟩
        · rw [dropped]
          exact ⟨rfl, fun _ => rfl, rfl⟩
  | create _ => exact (Still.of_eq found rfl rfl).turns
  | createCache _ =>
      exact Still.turns ⟨⟨cache, cache?_createCache found _, rfl, fun _ => rfl, rfl⟩, rfl⟩
  | put _ _ => exact (Still.of_eq found rfl rfl).turns
  | hold _ _ => exact (Still.of_eq found rfl rfl).turns
  | book targeted accessible booked => exact turns_book found targeted accessible booked
  | confirm held => exact turns_confirm found present held
  | delete key targeted unlocked => exact turns_delete found targeted unlocked
  | expire _ _ targeted _ unlocked => exact turns_expire found targeted unlocked
  | call _ _ => exact (Still.of_eq found rfl rfl).turns
  | stage _ _ _ _ => exact (Still.of_eq found rfl rfl).turns

theorem Change.now (change : Change before after) : after.now = before.now := by
  cases change with
  | aside aside => exact aside.now
  | book _ _ booked =>
      obtain ⟨_, _, _, rfl⟩ := eq_of_book booked
      rfl
  | confirm _ => exact (frames_resolve before _).now
  | delete key _ _ => exact (frames_delete before _ _ key).now
  | _ => rfl

/-- A cache that there was not before is empty, and nobody holds its lock. -/
structure Unborn (id : CacheId) (before after : System V) : Prop where
  holders : after.holders id ⊆ before.holders id
  empty : ∀ {cache}, after.cache? id = some cache →
    (∀ key, cache.lease? key = none) ∧ cache.generation = 0

theorem Unborn.of_none (absent : after.cache? id = none)
    (holders : after.holders id ⊆ before.holders id) : Unborn id before after := by
  refine ⟨holders, fun found => ?_⟩
  cases absent.symm.trans found

theorem Unborn.of_eq (absent : before.cache? id = none) (caches : after.caches = before.caches)
    (bookings : after.bookings = before.bookings) : Unborn id before after := by
  refine .of_none ?_ ?_
  · rw [cache?, caches]
    exact absent
  · rw [System.holders, bookings]
    exact List.Subset.refl _

theorem holders_unlock_subset (system : System V) (booking : Booking V) (id : CacheId) :
    (system.unlock booking).holders id ⊆ system.holders id := by
  intro other held
  obtain ⟨held, own⟩ := mem_holders_iff.1 held
  exact mem_holders_iff.2 ⟨(List.mem_filter.1 held).1, own⟩

theorem Change.unborn (change : Change before after) (absent : before.cache? id = none)
    (present : before.ReadsPresent) : Unborn id before after := by
  cases change with
  | aside aside => exact .of_eq absent aside.caches aside.bookings
  | drop change _ changed =>
      refine .of_none ?_ (List.Subset.refl _)
      rw [changed, absent]
      rfl
  | createCache _ =>
      refine ⟨List.Subset.refl _, fun found => ?_⟩
      rw [eq_of_createCache absent found]
      exact ⟨fun _ => rfl, rfl⟩
  | @book locked target cache key access booking targeted accessible booked =>
      obtain ⟨_, own, rfl⟩ := books_of_book accessible booked
      refine .of_none (cache?_putCache_of_none absent _) ?_
      have different : booking.cache ≠ id := by
        rintro same
        rw [← own, same, absent] at targeted
        cases targeted
      simp [System.holders, different]
  | @confirm booking held =>
      cases targeted : before.cache? booking.cache with
      | none =>
          rw [resolve_of_none targeted]
          exact .of_none absent (holders_unlock_subset ..)
      | some target =>
          have reads := present targeted booking (mem_holders_iff.2 ⟨held, rfl⟩)
          obtain ⟨changed, _, _, _, _, resolved⟩ := (confirms_resolve targeted reads).changed
          rw [resolved]
          exact .of_none (cache?_putCache_of_none absent changed) (holders_unlock_subset ..)
  | @delete target other key targeted _ =>
      cases present : other.lease? key with
      | none =>
          rw [delete_of_none present]
          exact .of_eq absent rfl rfl
      | some old =>
          obtain ⟨removed, _, deleted⟩ := delete_eq_loses before target present
          obtain ⟨_, cancelled⟩ := cancelTask_eq before other.scheduler old.deletion
          rw [deleted, cancelled]
          exact .of_none (cache?_putCache_of_none absent removed) (List.Subset.refl _)
  | expire _ _ _ _ _ =>
      exact .of_none (cache?_putCache_of_none absent _) (List.Subset.refl _)
  | _ => exact .of_eq absent rfl rfl

end System

end Agenda
