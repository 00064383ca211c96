import Agenda.Proofs.Deletion.Emptying
import Agenda.Proofs.System.Independence

/-!
# Calls on a cache with a stopped scheduler

A scheduler that was stopped takes no deletion.  A read answers all the same, unless the deadline
that it would set is beyond the clock.  A write fails, and neither changes an entry or its deletion.
A delete takes its entry out for good.
-/

namespace Agenda

universe u

variable {V : Type u}

/-- What a read answers that has found `value` and cannot renew it, by the deadline it asked for. -/
def Reply.unrenewed (value : V) : Option Int → Reply V
  | some _ => .found (some value)
  | none => .overflow

def Cache.reading (cache : Cache V) (key : String) (now : Int) : Reply V :=
  match cache.lease? key with
  | none => .found none
  | some lease => .unrenewed lease.value (lease.ttl.after? now)

namespace System

variable {system before middle after asked answered locked : System V} {operation : Operation V}
  {place : CacheId} {id : SchedulerId} {cache : Cache V} {host : Scheduler (Work V)} {key : String}
  {label : Label} {booking : Booking V} {reply : Reply V} {access : Access V}

/-- The entries of a cache are the same, and the scheduler `id` too, but for the place of its worker in
a task. -/
structure Steady (before after : System V) (place : CacheId) (id : SchedulerId) : Prop where
  entries : ∀ key, after.lease? place key = before.lease? place key
  host : ∀ {host}, before.scheduler? id = some host →
    ∃ worker, worker.task? = host.worker.task? ∧ after.scheduler? id = some { host with worker }

/-- The same, but that the last owner of the scheduler may have let go. -/
structure Unmoved (before after : System V) (place : CacheId) (id : SchedulerId) : Prop where
  entries : ∀ key, after.lease? place key = before.lease? place key
  host : ∀ {host}, before.scheduler? id = some host →
    ∃ worker halted, worker.task? = host.worker.task? ∧
      after.scheduler? id = some { host with worker, halted } ∧
        (halted = host.halted ∨ after.keepsScheduler id = false)

theorem Steady.refl (system : System V) : Steady system system place id :=
  ⟨fun _ => rfl, fun found => ⟨_, rfl, found⟩⟩

theorem Steady.unmoved (steady : Steady before middle place id) (unmoved : Unmoved middle after place id) :
    Unmoved before after place id := by
  refine ⟨fun key => (unmoved.entries key).trans (steady.entries key), fun found => ?_⟩
  obtain ⟨worker, same, seen⟩ := steady.host found
  obtain ⟨further, halted, still, again, cause⟩ := unmoved.host seen
  exact ⟨further, halted, still.trans same, again, cause⟩

theorem Steady.toUnmoved (steady : Steady before after place id) : Unmoved before after place id := by
  refine ⟨steady.entries, fun found => ?_⟩
  obtain ⟨worker, same, seen⟩ := steady.host found
  exact ⟨worker, _, same, seen, .inl rfl⟩

theorem Steady.sweep (steady : Steady before middle place id) : Unmoved before middle.sweep place id := by
  refine ⟨fun key => (lease?_sweep middle place key).trans (steady.entries key), fun found => ?_⟩
  obtain ⟨worker, same, seen⟩ := steady.host found
  have swept := scheduler?_sweep seen
  split at swept
  · exact ⟨worker, _, same, swept, .inl rfl⟩
  · rename_i alone
    exact ⟨worker, true, same, swept, .inr (Bool.not_eq_true _ ▸ alone)⟩

theorem steady_book (found : system.cache? place = some cache)
    (booked : system.book place cache key access = .ok (booking, locked)) :
    Steady system locked place id := by
  obtain ⟨_, _, _, rfl⟩ := eq_of_book booked
  refine ⟨fun key => ?_, fun found => ⟨_, rfl, found⟩⟩
  exact (lease?_putCache found cache.advance place key).trans
    ((if_pos rfl).trans (lease?_of_found found key).symm)

/-- An access stores nothing and schedules nothing. -/
theorem Numbered.unmoved_confirm (numbered : system.Numbered) (held : booking ∈ system.bookings)
    (found : system.cache? booking.cache = some cache)
    (hosted : system.scheduler? cache.scheduler = some host) (stopped : host.isStopped = true) :
    Unmoved system (system.confirm booking).2 booking.cache cache.scheduler := by
  have reads := numbered.readsPresent found booking (mem_holders_iff.2 ⟨held, rfl⟩)
  have confirms := confirms_resolve found reads
  rw [confirm]
  generalize system.resolve booking = result at confirms
  cases confirms with
  | @declined reply noted resembles _ =>
      have steady : Steady system ((system.putCache booking.cache noted).unlock booking) booking.cache
          cache.scheduler := by
        refine ⟨fun key => ?_, fun found => ⟨_, rfl, found⟩⟩
        exact (lease?_putCache found noted booking.cache key).trans ((if_pos rfl).trans
          ((resembles.lease? key).trans (lease?_of_found found key).symm))
      exact steady.sweep
  | fulfilled _ again accepted =>
      cases hosted.symm.trans again
      rw [Scheduler.submit?_of_isStopped stopped] at accepted
      cases accepted

/-- A read answers what it has found, though it cannot renew it. -/
theorem fst_resolve_of_read (hosted : system.scheduler? id = some host)
    (stopped : host.isStopped = true) (asks : Asks system asked)
    (found : asked.cache? booking.cache = some cache) (own : cache.scheduler = id)
    (read : booking.access.isRead = true) (reached : booking.deadline ≠ none) :
    (asked.resolve booking).1 = .found ((cache.lease? booking.key).map Lease.value) := by
  obtain ⟨deadline, reached⟩ := Option.ne_none_iff_exists'.1 reached
  obtain ⟨worker, seen⟩ := asks.scheduler? hosted
  rw [(refuses_of_isStopped hosted stopped).accesses asks reached found own seen, decline]
  cases kind : booking.access with
  | read => rfl
  | add value ttl =>
      rw [kind] at read
      cases read
  | set value ttl =>
      rw [kind] at read
      cases read

theorem fst_resolve_of_stored {lease : Lease V} (hosted : system.scheduler? id = some host)
    (stopped : host.isStopped = true) (asks : Asks system asked)
    (found : asked.cache? booking.cache = some cache) (own : cache.scheduler = id)
    (read : booking.access.isRead = true) (stored : cache.lease? booking.key = some lease) :
    (asked.resolve booking).1 = .unrenewed lease.value booking.deadline := by
  cases reached : booking.deadline with
  | none =>
      rw [resolve, reached]
      rfl
  | some deadline =>
      have reaches := Option.ne_none_iff_exists'.2 ⟨deadline, reached⟩
      rw [fst_resolve_of_read hosted stopped asks found own read reaches, stored]
      rfl

theorem Numbered.unmoved_access (numbered : asked.Numbered)
    (located : asked.cacheAt? label = some (place, cache))
    (hosted : asked.scheduler? cache.scheduler = some host) (stopped : host.isStopped = true)
    (answer : asked.access? label key access = some (reply, answered)) :
    Unmoved asked answered place cache.scheduler := by
  have found := cache?_of_cacheAt? located
  rcases book_of_access? located answer with ⟨_, rfl⟩ | ⟨booking, locked, free, booked, _, rfl⟩
  · exact (Steady.refl _).toUnmoved
  · have following := numbered.change (.book found free booked)
    have steady : Steady asked locked place cache.scheduler := steady_book found booked
    have kept := cache?_of_book found booked
    obtain ⟨_, _, same, taken⟩ := eq_of_book booked
    have own : booking.cache = place := by rw [same]
    have held : booking ∈ locked.bookings := by
      rw [taken]
      exact List.mem_cons_self
    have hosted : locked.scheduler? cache.advance.scheduler = some host := by
      rw [taken]
      exact hosted
    have unmoved := following.unmoved_confirm held kept hosted stopped
    rw [own] at unmoved
    exact steady.unmoved unmoved

theorem reply_of_read (located : asked.cacheAt? label = some (place, cache))
    (asks : Asks system asked) (hosted : system.scheduler? cache.scheduler = some host)
    (stopped : host.isStopped = true)
    (answer : asked.access? label key .read = some (reply, answered)) :
    reply = cache.reading key asked.now := by
  have found := cache?_of_cacheAt? located
  rcases book_of_access? located answer with ⟨ended, _⟩ | ⟨booking, locked, free, booked, rfl, _⟩
  · cases present : cache.lease? key with
    | none =>
        rw [book, Cache.ttl?, present] at ended
        cases ended
        rw [Cache.reading, present]
    | some lease =>
        rw [book, Cache.ttl?, present] at ended
        cases ended
  · have further := asks.access booked
    have kept := cache?_of_book found booked
    obtain ⟨ttl, given, rfl, _⟩ := eq_of_book booked
    rw [Cache.ttl?] at given
    obtain ⟨lease, present, rfl⟩ := Option.map_eq_some_iff.1 (Except.ok.inj given)
    rw [Cache.reading, present]
    exact fst_resolve_of_stored hosted stopped further kept rfl rfl present

/-- What is left of an entry that is taken out: no other entry changes, and no deletion that was
scheduled for it removes anything. -/
structure TakesOut (before after : System V) (place : CacheId) (key : String) : Prop where
  gone : after.lease? place key = none
  others : ∀ other, other ≠ key → after.lease? place other = before.lease? place other
  outdated : ∀ generation ≤ before.handedOut place, after.IsOutdated place key generation

theorem lease?_delete {target : CacheId} (found : system.cache? target = some cache)
    (name : String) (place : CacheId) (key : String) : (system.delete target cache name).2.lease? place key =
      if place = target ∧ key = name then none else system.lease? place key := by
  cases present : cache.lease? name with
  | none =>
      rw [delete_of_none present]
      split
      · rename_i own
        rw [own.1, own.2, lease?_of_found found, present]
      · rfl
  | some old =>
      obtain ⟨removed, loses, deleted⟩ := delete_eq_loses system target present
      obtain ⟨schedulers, cancelled⟩ := cancelTask_eq system cache.scheduler old.deletion
      have there : ({ system with schedulers } : System V).cache? target = some cache := found
      rw [deleted, cancelled]
      refine (lease?_putCache there removed place key).trans ?_
      by_cases own : place = target
      · subst own
        simp [loses.lease?, lease?_of_found found]
      · simp only [own, if_false, false_and]
        rfl

theorem Numbered.takesOut (numbered : system.Numbered) (found : system.cache? place = some cache)
    (unlocked : system.isUnlocked place = true) (key : String) (events : Array (Event V)) :
    TakesOut system { (system.delete place cache key).2 with events } place key := by
  have entries (other : String) : (system.delete place cache key).2.lease? place other =
      if other = key then none else system.lease? place other := by
    simpa using lease?_delete found key place other
  refine ⟨(entries key).trans (if_pos rfl), fun other different => (entries other).trans
    (if_neg different), fun generation given => ?_⟩
  rw [handedOut_of_found found] at given
  have outgrows : System.Outgrows { (system.delete place cache key).2 with events }
      (fun _ => False) place key generation := outgrows_of_delete found unlocked given
  have following := numbered.change (.delete key found unlocked)
  exact outgrows.isOutdated ⟨following.caches, following.known⟩

theorem Puts.cacheAt? (puts : Puts system asked) (label : Label) :
    asked.cacheAt? label = system.cacheAt? label := by
  obtain ⟨_, rfl⟩ := puts.frame
  rfl

theorem Puts.cache? (puts : Puts system asked) (place : CacheId) :
    asked.cache? place = system.cache? place := by
  obtain ⟨_, rfl⟩ := puts.frame
  rfl

theorem Puts.lease? (puts : Puts system asked) (place : CacheId) (key : String) :
    asked.lease? place key = system.lease? place key := by
  rw [System.lease?, puts.cache?, System.lease?]

theorem Puts.steady (puts : Puts system asked) : Steady system asked place id :=
  ⟨puts.lease? place, puts.scheduler⟩

theorem Puts.numbered (puts : Puts system asked) (numbered : system.Numbered) : asked.Numbered := by
  obtain ⟨_, rfl⟩ := puts.frame
  exact ⟨numbered.caches, numbered.known⟩

theorem Puts.now (puts : Puts system asked) : asked.now = system.now := by
  obtain ⟨_, rfl⟩ := puts.frame
  rfl

/-- An access on a stopped scheduler changes neither an entry nor the scheduler. -/
theorem Replies.unmoved (replies : system.Replies operation (.access label key access) reply after)
    (numbered : system.Numbered) (located : system.cacheAt? label = some (place, cache))
    (hosted : system.scheduler? cache.scheduler = some host) (stopped : host.isStopped = true) :
    Unmoved system after place cache.scheduler := by
  obtain ⟨asked, answered, puts, answer, _, rfl⟩ := replies.exists_puts
  obtain ⟨worker, _, seen⟩ := puts.scheduler hosted
  have still : { host with worker }.isStopped = true := stopped
  have unmoved := puts.steady.unmoved ((puts.numbered numbered).unmoved_access
    ((puts.cacheAt? label).trans located) seen still answer)
  exact ⟨unmoved.entries, unmoved.host⟩

/-- A delete answers the value that was there, and takes the entry out for good. -/
theorem Replies.takesOut (replies : system.Replies operation (.delete label key) reply after)
    (numbered : system.Numbered) (located : system.cacheAt? label = some (place, cache)) :
    reply = .found ((cache.lease? key).map Lease.value) ∧ TakesOut system after place key := by
  obtain ⟨asked, answered, puts, answer, events, rfl⟩ := replies.exists_puts
  have there := (puts.cacheAt? label).trans located
  simp only [answer?, delete?, there] at answer
  split at answer
  · rename_i unlocked
    have gone := (puts.numbered numbered).takesOut (cache?_of_cacheAt? there) unlocked key events
    have replied : (asked.delete place cache key).1 =
        .found ((cache.lease? key).map Lease.value) := by
      unfold System.delete
      cases cache.lease? key <;> rfl
    rw [Option.some.inj answer] at gone replied
    obtain ⟨_, rfl⟩ := puts.frame
    exact ⟨replied, gone.gone, gone.others, gone.outdated⟩
  · cases answer

structure Shut (system : System V) (place : CacheId) (cache : Cache V) (host : Scheduler (Work V)) :
    Prop where
  found : system.cache? place = some cache
  hosted : system.scheduler? cache.scheduler = some host
  stopped : host.isStopped = true

/-- What calls on a cache come to when its scheduler is stopped, from outside or by a task. -/
structure Denies (system : System V) (place : CacheId) (cache : Cache V) (host : Scheduler (Work V)) :
    Prop where
  /-- A call waits for nothing but the lock. -/
  answers : ∀ {asked label}, Puts system asked → system.cacheAt? label = some (place, cache) →
    (∀ {key access}, system.isAccessible place key access = true →
      (asked.answer? (.access label key access)).isSome = true) ∧
    (∀ {key}, system.isUnlocked place = true →
      (asked.answer? (.delete label key)).isSome = true) ∧
    ∀ {key}, system.isReadable place = true →
      (asked.answer? (.consult label (.contains key))).isSome = true
  /-- A read answers the value that is there, unless the clock cannot represent the deadline that it
  would set, and changes neither an entry nor the scheduler. -/
  reads : ∀ {operation after label key reply},
    system.Replies operation (.access label key .read) reply after →
    system.cacheAt? label = some (place, cache) →
      reply = cache.reading key system.now ∧ Unmoved system after place cache.scheduler
  contains : ∀ {operation after label key reply},
    system.Replies operation (.consult label (.contains key)) reply after →
    system.cacheAt? label = some (place, cache) →
      reply = .flag (cache.lease? key).isSome ∧ Steady system after place cache.scheduler
  /-- So does a read that took the lock before, be it before the scheduler was stopped. -/
  confirms : ∀ {booking}, booking ∈ system.bookings → booking.cache = place →
    booking.access.isRead = true → ∃ lease, cache.lease? booking.key = some lease ∧
      (system.confirm booking).1 = .unrenewed lease.value booking.deadline ∧
        Unmoved system (system.confirm booking).2 place cache.scheduler
  /-- A write fails that is not turned away for its key, and changes as little. -/
  writes : ∀ {operation after label key write ttl reply},
    system.Replies operation (.access label key write) reply after →
    system.cacheAt? label = some (place, cache) → write.ttl? = some ttl →
    cache.ttl? key write ≠ .error (.duplicateKey key) →
      reply = .rejection host.name (ttl.after? system.now) ∧
        Unmoved system after place cache.scheduler
  /-- So does one that took the lock before. -/
  fails : ∀ {booking}, booking ∈ system.bookings → booking.cache = place →
    booking.access.isRead = false →
      (system.confirm booking).1 = .rejection host.name booking.deadline ∧
        Unmoved system (system.confirm booking).2 place cache.scheduler
  /-- A delete answers the value that was there, and takes the entry out for good. -/
  deletes : ∀ {operation after label key reply},
    system.Replies operation (.delete label key) reply after →
    system.cacheAt? label = some (place, cache) →
      reply = .found ((cache.lease? key).map Lease.value) ∧ TakesOut system after place key

theorem Puts.answers (puts : Puts system asked)
    (located : system.cacheAt? label = some (place, cache)) :
    (∀ {key access}, system.isAccessible place key access = true →
      (asked.answer? (.access label key access)).isSome = true) ∧
    (∀ {key}, system.isUnlocked place = true →
      (asked.answer? (.delete label key)).isSome = true) ∧
    ∀ {key}, system.isReadable place = true →
      (asked.answer? (.consult label (.contains key))).isSome = true := by
  have there := (puts.cacheAt? label).trans located
  have bookings : asked.bookings = system.bookings := by
    obtain ⟨_, rfl⟩ := puts.frame
    rfl
  refine ⟨fun {key access} free => ?_, fun {key} free => ?_, fun {key} free => ?_⟩
  · have free : asked.isAccessible place key access = true := by
      cases access <;> simpa only [isAccessible, isReadable, isUnlocked, bookings] using free
    simp only [answer?, access?, there, if_pos free]
    split <;> rfl
  · have free : asked.isUnlocked place = true := by
      simpa only [isUnlocked, bookings] using free
    simp only [answer?, delete?, there, if_pos free]
    rfl
  · have free : asked.isReadable place = true := by
      simpa only [isReadable, bookings] using free
    simp only [answer?, consult?, there, if_pos free]
    rfl

theorem Reachable.denies (reachable : Reachable system) (shut : system.Shut place cache host) :
    system.Denies place cache host := by
  obtain ⟨found, hosted, stopped⟩ := shut
  constructor
  · exact Puts.answers
  · intro operation after label key reply replies located
    refine ⟨?_, replies.unmoved reachable.numbered located hosted stopped⟩
    obtain ⟨asked, answered, puts, answer, _, _⟩ := replies.exists_puts
    rw [← puts.now]
    exact reply_of_read ((puts.cacheAt? label).trans located) puts.asks hosted stopped answer
  · intro operation after label key reply replies located
    obtain ⟨asked, answered, puts, answer, _, rfl⟩ := replies.exists_puts
    have steady : Steady system asked place cache.scheduler := puts.steady
    obtain ⟨flag, consulted, same⟩ := Option.map_eq_some_iff.1 answer
    cases same
    rw [consult?, (puts.cacheAt? label).trans located] at consulted
    dsimp only at consulted
    split at consulted <;> cases consulted
    refine ⟨?_, steady.entries, steady.host⟩
    rw [consult, Cache.contains, Std.TreeMap.contains_eq_isSome_getElem?, Cache.lease?]
  · intro booking held own read
    subst own
    have unmoved := reachable.numbered.unmoved_confirm held found hosted stopped
    have listed := mem_holders_iff.2 ⟨held, rfl⟩
    obtain ⟨lease, stored, _⟩ := (reachable.numbered.caches found).reads booking listed read
    exact ⟨lease, stored, fst_resolve_of_stored hosted stopped .call found rfl read stored, unmoved⟩
  · intro operation after label key write ttl reply replies located lasting fresh
    refine ⟨?_, replies.unmoved reachable.numbered located hosted stopped⟩
    obtain ⟨asked, answered, puts, answer, _, _⟩ := replies.exists_puts
    rw [← puts.now]
    exact reply_of_write ((puts.cacheAt? label).trans located) puts.asks hosted stopped lasting fresh
      answer
  · intro booking held own write
    subst own
    exact ⟨fst_resolve hosted stopped .call found rfl write,
      reachable.numbered.unmoved_confirm held found hosted stopped⟩
  · exact fun replies located => replies.takesOut reachable.numbered located

end System

end Agenda
