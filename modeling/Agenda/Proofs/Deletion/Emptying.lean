import Agenda.Proofs.Deletion.Outdating
import Agenda.Proofs.System.Shutdown

/-!
# A drained scheduler leaves empty caches

An entry has its deletion in the queue or in progress, so that a scheduler with nothing in either has
no entry left in the caches that are in use.  None comes back: every write is refused for want of a
deletion, and a read finds nothing to renew.
-/

namespace Agenda

universe u

variable {V : Type u}

/-- What a write answers on a stopped scheduler of this name.  A deadline beyond the clock is noticed
before the scheduler is asked. -/
def Reply.rejection (name : String) : Option Int → Reply V
  | none => .overflow
  | some _ => .failed (.unscheduled (.stopped name))

def Access.ttl? : Access V → Option Delay
  | .read => none
  | .add _ ttl => some ttl
  | .set _ ttl => some ttl

namespace Cache

theorem isEmpty_iff {cache : Cache V} :
    cache.isEmpty = true ↔ ∀ key, cache.lease? key = none := by
  simp only [isEmpty, Std.TreeMap.isEmpty_iff_forall_not_mem, lease?,
    ← Std.TreeMap.isSome_getElem?_iff_mem, Bool.not_eq_true, Option.isSome_eq_false_iff,
    Option.isNone_iff_eq_none]

/-- Entries can only have gone from the cache. -/
structure Fades (before after : Cache V) : Prop where
  scheduler : after.scheduler = before.scheduler
  dropped : before.dropped = true → after.dropped = true
  lease? : ∀ key, after.lease? key = before.lease? key ∨ after.lease? key = none

theorem Fades.refl (cache : Cache V) : Fades cache cache := ⟨rfl, id, fun _ => .inl rfl⟩

theorem Resembles.fades {before after : Cache V} (resembles : before.Resembles after) :
    Fades before after :=
  ⟨resembles.scheduler, fun gone => resembles.dropped.trans gone,
    fun key => .inl (resembles.lease? key)⟩

theorem fades_expire (cache : Cache V) (key : String) (generation : Nat) :
    Fades cache (cache.expire key generation) := by
  refine ⟨cache.scheduler_expire .., fun gone => (cache.dropped_expire ..).trans gone, ?_⟩
  intro other
  rw [cache.lease?_expire]
  split
  · rename_i own
    rw [own]
    cases cache.lease? key with
    | none => exact .inr rfl
    | some lease =>
        rw [Option.filter_some]
        split
        · exact .inl rfl
        · exact .inr rfl
  · exact .inl rfl

theorem Loses.fades {key : String} {before after : Cache V} (loses : Loses key before after) :
    Fades before after := by
  refine ⟨loses.scheduler, fun gone => loses.dropped.trans gone, fun other => ?_⟩
  rw [loses.lease?]
  split
  · exact .inr rfl
  · exact .inl rfl

end Cache

namespace System

variable {system moved before after asked : System V} {id : SchedulerId} {place : CacheId}
  {cache : Cache V} {host : Scheduler (Work V)} {key : String} {booking : Booking V}

/-- The cache is found again, with no entry that it did not have. -/
def Fades (place : CacheId) (cache : Cache V) (after : System V) : Prop :=
  ∃ changed, after.cache? place = some changed ∧ cache.Fades changed

theorem Fades.put {target : CacheId} {other changed : Cache V}
    (found : system.cache? place = some cache) (targeted : system.cache? target = some other)
    (fades : other.Fades changed) (again : after.caches = (system.putCache target changed).caches) :
    Fades place cache after := by
  have same : after.cache? place = (system.putCache target changed).cache? place := by
    rw [cache?, again, cache?]
  by_cases own : place = target
  · subst own
    cases found.symm.trans targeted
    exact ⟨changed, same.trans (cache?_putCache_self found changed), fades⟩
  · exact ⟨cache, (same.trans (cache?_putCache_of_ne system own changed)).trans found, .refl cache⟩

theorem Fades.of_eq (found : system.cache? place = some cache)
    (again : after.caches = system.caches) : Fades place cache after := by
  refine ⟨cache, ?_, .refl cache⟩
  rw [cache?, again]
  exact found

/-- An access stores nothing in a cache whose scheduler is stopped. -/
theorem fades_resolve (found : system.cache? place = some cache) (numbered : system.Numbered)
    (held : booking ∈ system.bookings)
    (stopped : booking.cache = place → ∀ host, system.scheduler? cache.scheduler = some host →
      host.isStopped = true) :
    Fades place cache ((system.resolve booking).2.unlock booking) := by
  cases targeted : system.cache? booking.cache with
  | none =>
      rw [resolve_of_none targeted]
      exact .of_eq found rfl
  | some target =>
      have reads := numbered.readsPresent targeted booking (mem_holders_iff.2 ⟨held, rfl⟩)
      have confirms := confirms_resolve targeted reads
      generalize system.resolve booking = result at confirms
      cases confirms with
      | declined resembles _ => exact .put found targeted resembles.fades rfl
      | @fulfilled host filled task deadline value stored _ hosted accepted _ gains =>
          by_cases own : booking.cache = place
          · subst own
            cases found.symm.trans targeted
            rw [Scheduler.submit?_of_isStopped (stopped rfl host hosted)] at accepted
            cases accepted
          · refine ⟨cache, ?_, .refl cache⟩
            exact (cache?_putCache_of_ne system (Ne.symm own) stored).trans found

theorem Change.fades (change : Change before after) (numbered : before.Numbered)
    (found : before.cache? place = some cache)
    (stopped : ∀ host, before.scheduler? cache.scheduler = some host → host.isStopped = true) :
    Fades place cache after := by
  cases change with
  | aside aside => exact .of_eq found aside.caches
  | drop change drops changed =>
      refine ⟨change place cache, by rw [changed, found, Option.map_some], ?_⟩
      rcases drops place cache with same | dropped
      · rw [same]
        exact .refl cache
      · rw [dropped]
        exact ⟨rfl, fun _ => rfl, fun _ => .inl rfl⟩
  | createCache _ => exact ⟨cache, cache?_createCache found _, .refl cache⟩
  | @book _ target other _ _ _ targeted accessible booked =>
      obtain ⟨_, _, rfl⟩ := books_of_book accessible booked
      have advanced : other.Fades other.advance := ⟨rfl, fun gone => gone, fun _ => .inl rfl⟩
      exact .put found targeted advanced rfl
  | confirm held => exact fades_resolve found numbered held fun _ => stopped
  | @delete target other key targeted _ =>
      cases present : other.lease? key with
      | none =>
          rw [delete_of_none present]
          exact .of_eq found rfl
      | some old =>
          obtain ⟨removed, loses, deleted⟩ := delete_eq_loses before target present
          obtain ⟨_, cancelled⟩ := cancelTask_eq before other.scheduler old.deletion
          rw [deleted, cancelled]
          exact .put found targeted loses.fades rfl
  | expire _ _ targeted _ _ => exact .put found targeted (Cache.fades_expire ..) rfl
  | _ => exact .of_eq found rfl

/-- The scheduler is stopped, and no cache on it that is in use has an entry. -/
structure Barren (system : System V) (id : SchedulerId) : Prop where
  stopped : ∃ host, system.scheduler? id = some host ∧ host.isStopped = true
  vacant : ∀ {place cache}, system.cache? place = some cache → cache.scheduler = id →
    cache.dropped = false → ∀ key, cache.lease? key = none

theorem Barren.change (barren : before.Barren id) (numbered : before.Numbered)
    (change : Change before after) : after.Barren id := by
  obtain ⟨host, hosted, stopped⟩ := barren.stopped
  constructor
  · obtain ⟨_, changed, seen, run⟩ := change.evolves.old hosted
    exact ⟨changed, seen, run.remembers.isStopped stopped⟩
  · intro place store found own kept key
    cases earlier : before.cache? place with
    | none => exact ((change.unborn earlier numbered.readsPresent).empty found).1 key
    | some cache =>
        have still : store.scheduler = cache.scheduler ∧
            (cache.scheduler = id → cache.Fades store) := by
          obtain ⟨changed, again, same, _⟩ := change.turns earlier numbered.readsPresent
          cases found.symm.trans again
          refine ⟨same, fun own => ?_⟩
          obtain ⟨_, seen, fades⟩ := change.fades numbered earlier fun other same => by
            cases hosted.symm.trans (own ▸ same)
            exact stopped
          cases found.symm.trans seen
          exact fades
        have fades := still.2 (still.1.symm.trans own)
        have used : cache.dropped = false := by
          rw [← Bool.not_eq_true]
          intro gone
          rw [fades.dropped gone] at kept
          cases kept
        rcases fades.lease? key with same | gone
        · exact same.trans (barren.vacant earlier (still.1.symm.trans own) used key)
        · exact gone

theorem Barren.leads (barren : before.Barren id) (numbered : before.Numbered)
    (leads : Leads before after) : after.Barren id :=
  (leads.keepsNumbered numbered Barren.change (fun kept => ⟨kept.stopped, kept.vacant⟩) barren).2

/-- Nothing is queued on the scheduler and none of its tasks runs, so no deletion is to come. -/
theorem Linked.barren (linked : system.Linked) (hosted : system.scheduler? id = some host)
    (running : host.halted = false) (stopped : host.isStopped = true)
    (vacant : host.queue.toList = []) (free : host.worker.isBusy = false) : system.Barren id := by
  refine ⟨⟨host, hosted, stopped⟩, ?_⟩
  rintro place cache found rfl kept key
  obtain ⟨other, same, links⟩ := linked.links found
  cases hosted.symm.trans same
  cases present : cache.lease? key with
  | none => rfl
  | some lease =>
      cases links.awaited kept running present with
      | queued held _ =>
          rw [vacant] at held
          cases held
      | running busy _ =>
          rw [busy] at free
          cases free

theorem fst_resolve (hosted : system.scheduler? id = some host) (stopped : host.isStopped = true)
    (asks : Asks system asked) (found : asked.cache? booking.cache = some cache)
    (own : cache.scheduler = id) (write : booking.access.isRead = false) :
    (asked.resolve booking).1 = .rejection host.name booking.deadline := by
  cases reached : booking.deadline with
  | none =>
      rw [resolve, reached]
      rfl
  | some deadline =>
      obtain ⟨worker, seen⟩ := asks.scheduler? hosted
      rw [(refuses_of_isStopped hosted stopped).accesses asks reached found own seen, decline]
      cases asked : booking.access with
      | read =>
          rw [asked] at write
          cases write
      | add value ttl => rfl
      | set value ttl => rfl

section Accesses

variable {answered locked : System V} {label : Label} {reply : Reply V} {access : Access V}

/-- An access ends before it takes the lock, or it takes the lock and goes on at once. -/
theorem book_of_access? (located : asked.cacheAt? label = some (place, cache))
    (answer : asked.access? label key access = some (reply, answered)) :
    (asked.book place cache key access = .error reply ∧ answered = asked) ∨
      ∃ booking locked, asked.isAccessible place key access = true ∧
        asked.book place cache key access = .ok (booking, locked) ∧
        reply = (locked.resolve booking).1 ∧ answered = (locked.confirm booking).2 := by
  rw [access?, located] at answer
  dsimp only at answer
  split at answer
  · rename_i accessible
    split at answer
    · rename_i ended
      cases answer
      exact .inl ⟨ended, rfl⟩
    · rename_i booking locked booked
      cases answer
      exact .inr ⟨booking, locked, accessible, booked, rfl, rfl⟩
  · cases answer

theorem cache?_of_book (found : system.cache? place = some cache)
    (booked : system.book place cache key access = .ok (booking, locked)) :
    locked.cache? booking.cache = some cache.advance := by
  obtain ⟨_, _, same, taken⟩ := eq_of_book booked
  rw [taken, same]
  exact cache?_putCache_self found cache.advance

theorem reply_of_write (located : asked.cacheAt? label = some (place, cache))
    (asks : Asks system asked) (hosted : system.scheduler? cache.scheduler = some host)
    (stopped : host.isStopped = true) {ttl : Delay} (lasting : access.ttl? = some ttl)
    (fresh : cache.ttl? key access ≠ .error (.duplicateKey key))
    (answer : asked.access? label key access = some (reply, answered)) :
    reply = .rejection host.name (ttl.after? asked.now) := by
  have given : cache.ttl? key access = .ok (some ttl) := by
    cases access with
    | read => cases lasting
    | add value span =>
        cases lasting
        unfold Cache.ttl? at fresh ⊢
        dsimp only at fresh ⊢
        split at fresh
        · exact absurd rfl fresh
        · rename_i absent
          rw [if_neg absent]
    | set value span =>
        cases lasting
        rfl
  have writes : access.isRead = false := by
    cases access with
    | read => cases lasting
    | add _ _ => rfl
    | set _ _ => rfl
  rcases book_of_access? located answer with ⟨ended, _⟩ | ⟨booking, locked, free, booked, rfl, _⟩
  · rw [book, given] at ended
    cases ended
  · have further := asks.access booked
    have kept := cache?_of_book (cache?_of_cacheAt? located) booked
    obtain ⟨span, same, rfl, _⟩ := eq_of_book booked
    cases given.symm.trans same
    exact fst_resolve hosted stopped further kept rfl writes

end Accesses

theorem access?_of_vacant (hosted : system.scheduler? id = some host)
    (stopped : host.isStopped = true) (asks : Asks system asked) {label : Label}
    (found : asked.cacheAt? label = some (place, cache)) (own : cache.scheduler = id)
    (vacant : ∀ key, cache.lease? key = none) {write : Access V} {ttl : Delay}
    (lasting : write.ttl? = some ttl) (accessible : asked.isAccessible place key write = true) :
    ∃ after, asked.access? label key write
      = some (.rejection host.name (ttl.after? asked.now), after) := by
  subst own
  have free : cache.contains key = false := by
    rw [Cache.contains, Std.TreeMap.contains_eq_isSome_getElem?]
    exact congrArg Option.isSome (vacant key)
  have fresh : cache.ttl? key write ≠ .error (.duplicateKey key) := by
    intro duplicate
    cases write with
    | read => cases lasting
    | add value span =>
        rw [Cache.ttl?, free] at duplicate
        cases duplicate
    | set value span => cases duplicate
  obtain ⟨⟨reply, after⟩, answer⟩ :
      ∃ answered, asked.access? label key write = some answered := by
    rw [access?, found]
    dsimp only
    rw [if_pos accessible]
    split <;> exact ⟨_, rfl⟩
  rw [reply_of_write found asks hosted stopped lasting fresh answer] at answer
  exact ⟨after, answer⟩

/-- What is left of the caches on the scheduler `id`, which has this name. -/
structure Emptied (system : System V) (id : SchedulerId) (name : String) : Prop where
  /-- Now and for ever no cache that is in use has an entry. -/
  empty : ∀ {later place cache}, Leads system later → later.cache? place = some cache →
    cache.scheduler = id → cache.dropped = false → cache.isEmpty = true
  /-- A write fails that finds the lock free, be it from outside or in the middle of a task. -/
  rejects : ∀ {later asked label place cache key write ttl}, Leads system later →
    Asks later asked → asked.caches = later.caches →
    asked.cacheAt? label = some (place, cache) → cache.scheduler = id → cache.dropped = false →
    write.ttl? = some ttl → asked.isAccessible place key write = true →
      ∃ after, asked.access? label key write
        = some (.rejection name (ttl.after? asked.now), after)
  /-- So does a write that took the lock before, however long ago. -/
  confirms : ∀ {later booking cache}, Leads system later →
    later.cache? booking.cache = some cache → cache.scheduler = id →
    booking.access.isRead = false →
      (later.confirm booking).1 = .rejection name booking.deadline

theorem Barren.emptied (barren : system.Barren id) (numbered : system.Numbered)
    (hosted : system.scheduler? id = some host) : system.Emptied id host.name := by
  have lasts {later : System V} (leads : Leads system later) : later.Barren id ∧
      ∃ last, later.scheduler? id = some last ∧ last.isStopped = true ∧ last.name = host.name := by
    have still := barren.leads numbered leads
    obtain ⟨_, last, seen, run⟩ := leads.evolves.old hosted
    obtain ⟨other, same, stopped⟩ := still.stopped
    cases seen.symm.trans same
    exact ⟨still, last, seen, stopped, congrArg Settings.name run.settings⟩
  constructor
  · intro later place cache leads found own kept
    exact Cache.isEmpty_iff.2 ((lasts leads).1.vacant found own kept)
  · intro later asked label place cache key write ttl leads asks same found own kept lasting free
    obtain ⟨still, last, seen, stopped, name⟩ := lasts leads
    have present : later.cache? place = some cache := by
      have found := cache?_of_cacheAt? found
      rwa [cache?, same] at found
    rw [← name]
    exact access?_of_vacant seen stopped asks found own (still.vacant present own kept) lasting free
  · intro later booking cache leads found own write
    obtain ⟨_, last, seen, stopped, name⟩ := lasts leads
    rw [← name]
    exact fst_resolve seen stopped .call found own write

/-- A returning shutdown gives the stop signal only if it was the last to refer to the scheduler. -/
theorem Returns.kept_or_alone {position : Nat} {call : Call}
    (returns : system.Returns moved position call)
    (hosted : system.scheduler? call.scheduler = some host) (running : host.halted = false) :
    (∃ changed, moved.scheduler? call.scheduler = some changed ∧ changed.halted = false) ∨
      moved.keepsScheduler call.scheduler = false := by
  obtain ⟨found, _, move, ended⟩ := returns
  have ends {system : System V} {closed : Scheduler (Work V)}
      (hosted : system.scheduler? call.scheduler = some closed) (running : closed.halted = false) :
      (∃ changed, (system.endCall position call).scheduler? call.scheduler = some changed ∧
        changed.halted = false) ∨
        (system.endCall position call).keepsScheduler call.scheduler = false := by
    cases kept : (system.endCall position call).keepsScheduler call.scheduler with
    | false => exact .inr rfl
    | true =>
        refine .inl ⟨closed, ?_, running⟩
        rw [scheduler?_endCall hosted, if_pos kept]
  obtain ⟨_, same, onTarget⟩ := Option.bind_eq_some_iff.1 move
  cases found.symm.trans same
  obtain ⟨_, same, taken⟩ := Option.bind_eq_some_iff.1 onTarget
  cases hosted.symm.trans same
  split at taken
  · split at taken
    · dsimp only at taken
      split at taken <;> cases taken
      · refine ends (scheduler?_putScheduler_self hosted host.close) ?_
        unfold Scheduler.close
        split <;> exact running
      · exact absurd ended (calls_setStage_ne found .joining)
    · cases taken
      exact absurd ended (calls_setStage_ne found _)
  · split at taken <;> cases taken
    exact absurd ended (calls_setStage_ne found .checking)
  · split at taken <;> cases taken
    exact ends hosted running

theorem dropped_of_alone (alone : system.keepsScheduler id = false)
    (found : system.cache? place = some cache) (own : cache.scheduler = id) :
    cache.dropped = true := by
  have listed : cache ∈ system.caches := Array.mem_of_getElem? found
  simp only [keepsScheduler, Bool.or_eq_false_iff, Array.any_eq_false'] at alone
  simpa [own] using alone.1.2 cache listed

theorem Returns.barren {position : Nat} {call : Call} (returns : system.Returns moved position call)
    (reachable : Reachable system) (hosted : system.scheduler? call.scheduler = some host)
    (running : host.halted = false) : moved.Barren call.scheduler := by
  obtain ⟨_, changed, _, seen, closes⟩ := returns.closes reachable
  have after : Reachable moved := reachable.step (.call returns.move)
  rcases returns.kept_or_alone hosted running with ⟨_, again, still⟩ | alone
  · cases seen.symm.trans again
    exact after.linked.barren seen still closes.closed.isStopped closes.closed.queue
      closes.closed.free
  · refine ⟨⟨changed, seen, closes.closed.isStopped⟩, ?_⟩
    intro place cache found own kept
    rw [dropped_of_alone alone found own] at kept
    cases kept

/-- The cache is in use, and its scheduler has no stop signal. -/
def Serving (system : System V) (place : CacheId) : Prop :=
  ∃ cache host, system.cache? place = some cache ∧ cache.dropped = false ∧
    system.scheduler? cache.scheduler = some host ∧ host.halted = false

/-- What a read leaves behind that has renewed its entry, `after` which no shutdown of the
scheduler `id` returns before the entry is gone. -/
structure Delays (after : System V) (id : SchedulerId) (place : CacheId) (key : String)
    (deadline : Int) : Prop where
  entry : ∃ lease, after.lease? place key = some lease ∧ lease.deadline = deadline ∧
    ∀ {later}, Leads after later → later.lease? place key = some lease → later.Serving place →
      (∀ {moved position call}, later.Returns moved position call → call.scheduler ≠ id) ∧
        ∀ {moved host}, later.Deletes moved host place key lease.generation →
          deadline ≤ later.now

theorem Reachable.not_returns (reachable : Reachable system) {lease : Lease V}
    (present : system.lease? place key = some lease) (serving : system.Serving place)
    {position : Nat} {call : Call} (found : system.cache? place = some cache)
    (returns : system.Returns moved position call) : call.scheduler ≠ cache.scheduler := by
  intro own
  obtain ⟨_, host, same, kept, hosted, running⟩ := serving
  cases found.symm.trans same
  rw [← own] at hosted
  obtain ⟨_, changed, again, _, closes⟩ := returns.closes reachable
  cases hosted.symm.trans again
  obtain ⟨_, seen, links⟩ := reachable.linked.links found
  rw [← own] at seen
  cases hosted.symm.trans seen
  rw [lease?_of_found found] at present
  cases links.awaited kept running present with
  | queued held _ =>
      rw [closes.vacant] at held
      cases held
  | running busy _ =>
      have free := closes.free
      rw [busy] at free
      cases free

structure Empties (system : System V) : Prop where
  /-- The worker has exited, whoever has shut the scheduler down. -/
  exited : ∀ {id host}, system.scheduler? id = some host → host.worker = .exited →
    host.halted = false → system.Emptied id host.name
  /-- A shutdown returns. -/
  returns : ∀ {moved position call host}, system.Returns moved position call →
    system.scheduler? call.scheduler = some host → host.halted = false →
      moved.Emptied call.scheduler host.name
  /-- A read comes to its end, whether or not shutdowns wait. -/
  delays : ∀ {booking cache host deadline}, booking ∈ system.bookings →
    system.cache? booking.cache = some cache → system.scheduler? cache.scheduler = some host →
    host.isStopped = false → booking.deadline = some deadline →
      (system.confirm booking).2.Delays cache.scheduler booking.cache booking.key deadline

theorem Reachable.delays (reachable : Reachable system) (held : booking ∈ system.bookings)
    (found : system.cache? booking.cache = some cache)
    (hosted : system.scheduler? cache.scheduler = some host) (running : host.isStopped = false)
    {deadline : Int} (reached : booking.deadline = some deadline) :
    (system.confirm booking).2.Delays cache.scheduler booking.cache booking.key deadline := by
  have renews := reachable.numbered.renews held found hosted running reached
  obtain ⟨lease, stored, _, _, due, _⟩ := renews.entry
  have after : Reachable (system.confirm booking).2 := reachable.step (.confirm held)
  have numbered := reachable.numbered
  have given := ((numbered.caches found).booked booking (mem_holders_iff.2 ⟨held, rfl⟩)).2
  have holds : system.Holds cache booking := ⟨cache, found, rfl, given, fun _ _ _ => rfl⟩
  refine ⟨lease, stored, due, fun {later} leads present serving => ?_⟩
  have onward : Leads system later := (Relation.ReflTransGen.single (.confirm held)).trans leads
  have reached := after.leads leads
  constructor
  · intro moved position call returns
    obtain ⟨_, store, again, own, _⟩ := holds.leads numbered onward
    rw [← own]
    exact reached.not_returns present serving again returns
  · intro moved place deletes
    rw [← due]
    exact reached.linked.due deletes present rfl

/-- A scheduler that drains without a stop signal leaves empty caches, whatever is done to them while
it drains and later. -/
theorem Reachable.empties (reachable : Reachable system) : system.Empties := by
  refine ⟨?_, ?_, ?_⟩
  · intro id host hosted exited running
    obtain ⟨vacant, stopped⟩ := (reachable.sound hosted).exited exited
    have barren := reachable.linked.barren hosted running
      (by rw [Scheduler.isStopped, stopped, Bool.or_true]) (Scheduler.toList_eq_nil_iff.2 vacant)
      (by rw [exited]; rfl)
    exact barren.emptied reachable.numbered hosted
  · intro moved position call host returns hosted running
    have barren := returns.barren reachable hosted running
    have after : Reachable moved := reachable.step (.call returns.move)
    obtain ⟨_, changed, seen, run⟩ := (Step.call returns.move).evolves.old hosted
    have name : changed.name = host.name := congrArg Settings.name run.settings
    rw [← name]
    exact barren.emptied after.numbered seen
  · exact fun held found hosted running reached =>
      reachable.delays held found hosted running reached

/-- A read at 20 moves the deadline from 50 to 70 while a shutdown waits, which returns at 70. -/
theorem emptied_after_late_read :
    ∃ (system : System Nat) (host : Scheduler (Work Nat)), Reachable system ∧ system.Empties ∧
      system.scheduler? ⟨0⟩ = some host ∧ host.worker = .exited ∧ host.halted = false ∧
      system.handedOut ⟨0⟩ = 2 ∧ system.returned = #["closer"] ∧
      system.Emptied ⟨0⟩ host.name := by
  have empty : Reachable ({} : System Nat) := .start
  have created := empty.step (.deed _ (.request (.create "main" {})))
  have stocked := created.step (.deed _ (.request (.createCacheOn "store" "main")))
  have filled := stocked.step (.deed _ (.request (.access "store" "key" (.add 7 (.span 50)))))
  have called := filled.step (.deed _ (.part (.shutdown "main") "closer"))
  generalize given : (Session.perform (Session.perform (Session.perform (Session.perform
    ({} : System Nat) (.request (.create "main" {}))).2
    (.request (.createCacheOn "store" "main"))).2
    (.request (.access "store" "key" (.add 7 (.span 50))))).2
    (.part (.shutdown "main") "closer")).2 = start at called
  have early : decide (start.settle.now ≤ 20) = true := by
    rw [← given]
    cbv
  have waiting := (called.leads (leads_settle start)).step (.pass (of_decide_eq_true early))
  have read := waiting.step (.deed _ (.request (.access "store" "key" .read)))
  generalize extended : (Session.perform ({ start.settle with now := 20 } : System Nat)
    (.request (.access "store" "key" .read))).2 = renewed at read
  have late : decide (renewed.settle.now ≤ 70) = true := by
    rw [← extended, ← given]
    cbv
  have reachable := ((read.leads (leads_settle renewed)).step
    (.pass (of_decide_eq_true late))).leads (leads_settle _)
  have course : (({ renewed.settle with now := 70 } : System Nat).settle.scheduler? ⟨0⟩).any
      (fun host => host.worker.isExited && !host.halted) = true ∧
      ({ renewed.settle with now := 70 } : System Nat).settle.handedOut ⟨0⟩ = 2 ∧
      ({ renewed.settle with now := 70 } : System Nat).settle.returned = #["closer"] := by
    rw [← extended, ← given]
    refine ⟨?_, ?_, ?_⟩ <;> cbv
  obtain ⟨ends, generations, returned⟩ := course
  obtain ⟨host, hosted, shown⟩ := (Option.any_eq_true _ _).1 ends
  rw [Bool.and_eq_true, Bool.not_eq_true'] at shown
  have exited := Worker.isExited_iff.1 shown.1
  have empties := Reachable.empties reachable
  exact ⟨_, host, reachable, empties, hosted, exited, shown.2, generations, returned,
    empties.exited hosted exited shown.2⟩

/-- A write whose deadline is beyond the clock does not come so far as to be refused. -/
theorem endless_write_overflows :
    ∃ (system after : System Nat) (host : Scheduler (Work Nat)) (cache : Cache Nat),
      Reachable system ∧ system.scheduler? ⟨0⟩ = some host ∧ host.worker = .exited ∧
        host.halted = false ∧ system.cacheAt? "store" = some (⟨0⟩, cache) ∧
        cache.scheduler = ⟨0⟩ ∧ cache.dropped = false ∧
        system.access? "store" "key" (.add 7 .endless) = some (.overflow, after) := by
  have empty : Reachable ({} : System Nat) := .start
  have created := empty.step (.deed _ (.request (.create "main" {})))
  have stocked := created.step (.deed _ (.request (.createCacheOn "store" "main")))
  have called := stocked.step (.deed _ (.part (.shutdown "main") "closer"))
  generalize given : (Session.perform (Session.perform (Session.perform ({} : System Nat)
    (.request (.create "main" {}))).2 (.request (.createCacheOn "store" "main"))).2
    (.part (.shutdown "main") "closer")).2 = start at called
  have course : (start.settle.scheduler? ⟨0⟩).any
        (fun host => host.worker.isExited && !host.halted) = true ∧
      (start.settle.cacheAt? "store").any (fun store => decide (store.1 = ⟨0⟩) &&
        (decide (store.2.scheduler = ⟨0⟩) && !store.2.dropped)) = true ∧
      (start.settle.access? "store" "key" (.add 7 .endless)).map Prod.fst = some .overflow := by
    rw [← given]
    refine ⟨?_, ?_, ?_⟩ <;> cbv
  obtain ⟨ends, stores, answers⟩ := course
  obtain ⟨host, hosted, exits⟩ := (Option.any_eq_true _ _).1 ends
  rw [Bool.and_eq_true, Bool.not_eq_true'] at exits
  obtain ⟨⟨place, cache⟩, located, shown⟩ := (Option.any_eq_true _ _).1 stores
  rw [Bool.and_eq_true, Bool.and_eq_true, decide_eq_true_eq, decide_eq_true_eq,
    Bool.not_eq_true'] at shown
  obtain ⟨rfl, own, kept⟩ := shown
  obtain ⟨⟨reply, after⟩, answered, rfl⟩ := Option.map_eq_some_iff.1 answers
  exact ⟨_, after, host, cache, called.leads (leads_settle start), hosted,
    Worker.isExited_iff.1 exits.1, exits.2, located, own, kept, answered⟩

end System

end Agenda
