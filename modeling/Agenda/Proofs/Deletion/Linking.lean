import Agenda.Proofs.Deletion.Links
import Agenda.Proofs.System.Reach

/-!
# All caches of a system and their schedulers

In every reachable system the entries of every cache and the deletions on its scheduler belong
together.
-/

namespace Agenda

universe u

variable {V : Type u}

namespace Scheduler

structure IsTask (scheduler : Scheduler (Work V)) (id : TaskId) : Prop where
  known : scheduler.roster.fate? id ≠ none
  work : ∀ entry ∈ scheduler.queue.toList, entry.id = id → entry.work.cache? = none

namespace IsTask

variable {before after : Scheduler (Work V)} {id : TaskId} {now : Int} {past : Work V → Prop}

theorem passes (task : before.IsTask id)
    (passes : Passes now (fun work => work.cache? ≠ none) past before after) : after.IsTask id := by
  refine ⟨passes.accepted task.known, ?_⟩
  intro entry held same
  rcases passes.queue held with old | ⟨other, _⟩
  · exact task.work entry old same
  · exact not_not.1 other

theorem submit (task : before.IsTask id) {due : Int} {work : Work V} {number : TaskId}
    (accepted : before.submit? due work = some (number, after)) : after.IsTask id := by
  obtain ⟨_, rfl, ready, interrupt, journal, rfl⟩ := eq_of_submit? accepted
  obtain ⟨fate, known⟩ := Option.ne_none_iff_exists'.1 task.known
  refine ⟨?_, ?_⟩
  · exact ne_of_eq_of_ne (Roster.fate?_accept_of_some known) nofun
  · intro entry held same
    rcases Heap.mem_insert_iff.1 held with rfl | old
    · exact absurd same.symm (Roster.ne_nextId_of_some known)
    · exact task.work entry old same

theorem cancel (task : before.IsTask id) (other : TaskId) : (before.cancel other).2.IsTask id := by
  refine ⟨?_, ?_⟩
  · rw [roster_cancel]
    exact Roster.known_of_count_le (Nat.le_of_eq (Roster.count_resolve ..).symm) task.known
  · rw [queue_cancel]
    exact task.work

theorem finish (task : before.IsTask id) : before.finish.IsTask id := by
  rw [Scheduler.finish]
  refine ⟨?_, ?_⟩
  · rw [roster_signalDrained]
    exact task.known
  · rw [queue_signalDrained]
    exact task.work

end IsTask

theorem Sound.relieve {filled : Scheduler (Work V)} (sound : filled.Sound)
    (old : Option (Lease V)) : (filled.relieve old).Sound := by
  cases old with
  | none => exact sound
  | some old => exact sound.cancel old.deletion

end Scheduler

namespace System

def Serves (system : System V) (host : SchedulerId) (work : Work V) : Prop :=
  ∀ id, work.cache? = some id → ∃ cache, system.cache? id = some cache ∧ cache.scheduler = host

def Vain (system : System V) (work : Work V) : Prop :=
  ∀ {id cache}, work.cache? = some id → system.cache? id = some cache → cache.dropped = true

/-- What holds of the caches of a system and the schedulers that they are on. -/
structure Linked (system : System V) : Prop where
  numbered : system.Numbered
  sound : ∀ {id scheduler}, system.scheduler? id = some scheduler → scheduler.Sound
  serves : ∀ {id scheduler}, system.scheduler? id = some scheduler →
    scheduler.Bears (system.Serves id)
  links : ∀ {id cache}, system.cache? id = some cache →
    ∃ host, system.scheduler? cache.scheduler = some host ∧
      host.Links system.now id cache (system.holders id)
  tasks : ∀ {label : Label} {handle : Handle}, system.handles[label]? = some handle →
    ∃ scheduler, system.scheduler? handle.scheduler = some scheduler ∧ scheduler.IsTask handle.id

variable {before after system : System V}

namespace Linked

theorem start : Linked ({} : System V) := by
  refine ⟨.start, ?_, ?_, ?_, ?_⟩
  · intro id scheduler found
    simp [scheduler?] at found
  · intro id scheduler found
    simp [scheduler?] at found
  · intro id cache found
    simp [cache?] at found
  · intro label handle found
    simp at found

theorem goOn (linked : before.Linked) (now : before.now ≤ after.now)
    (caches : after.caches = before.caches) (bookings : after.bookings = before.bookings)
    (handles : after.handles = before.handles)
    (old : ∀ {id scheduler}, before.scheduler? id = some scheduler →
      ∃ changed, after.scheduler? id = some changed ∧ changed.Sound ∧
        Scheduler.Passes before.now (fun work => work.cache? ≠ none) before.Vain scheduler changed)
    (new : ∀ {id scheduler}, before.scheduler? id = none → after.scheduler? id = some scheduler →
      scheduler.Sound ∧ scheduler.Bears fun work => work.cache? = none) : after.Linked := by
  have found (id : CacheId) : after.cache? id = before.cache? id := by rw [cache?, caches, cache?]
  have holders (id : CacheId) : after.holders id = before.holders id := by
    rw [System.holders, bookings, System.holders]
  refine ⟨⟨?_, ?_⟩, ?_, ?_, ?_, ?_⟩
  · intro id cache seen
    rw [found] at seen
    rw [holders]
    exact linked.numbered.caches seen
  · intro booking held
    rw [bookings] at held
    rw [found]
    exact linked.numbered.known booking held
  · intro id scheduler seen
    cases earlier : before.scheduler? id with
    | none => exact (new earlier seen).1
    | some scheduler =>
        obtain ⟨changed, again, sound, _⟩ := old earlier
        cases seen.symm.trans again
        exact sound
  · intro id scheduler seen
    cases earlier : before.scheduler? id with
    | none =>
        refine (new earlier seen).2.imp fun none target own => ?_
        cases none.symm.trans own
    | some first =>
        obtain ⟨changed, again, _, passes⟩ := old earlier
        cases seen.symm.trans again
        have serves : scheduler.Bears (before.Serves id) := by
          refine passes.bears (linked.serves earlier) fun other target own => ?_
          exact absurd (by rw [own]; exact Option.some_ne_none _) other
        refine serves.imp fun serves target own => ?_
        rw [found]
        exact serves target own
  · intro id cache seen
    rw [found] at seen
    rw [holders]
    obtain ⟨host, hosted, links⟩ := linked.links seen
    obtain ⟨changed, again, _, passes⟩ := old hosted
    refine ⟨changed, again, Scheduler.Links.later ?_ now⟩
    refine links.passes (linked.sound hosted) (linked.numbered.caches seen) passes ?_ ?_
    · intro work own
      rw [own]
      exact Option.some_ne_none _
    · exact fun own vain => vain own seen
  · intro label handle seen
    rw [handles] at seen
    obtain ⟨scheduler, held, task⟩ := linked.tasks seen
    obtain ⟨changed, again, _, passes⟩ := old held
    exact ⟨changed, again, task.passes passes⟩

theorem reshelve (linked : before.Linked) (change : Change before after)
    (now : after.now = before.now) (schedulers : after.schedulers = before.schedulers)
    (handles : after.handles = before.handles)
    (old : ∀ {id cache}, before.cache? id = some cache →
      ∃ changed, after.cache? id = some changed ∧ changed.scheduler = cache.scheduler ∧
        ∀ {host : Scheduler (Work V)}, host.Links before.now id cache (before.holders id) →
          host.Links before.now id changed (after.holders id))
    (new : ∀ {id cache}, before.cache? id = none → after.cache? id = some cache →
      ∃ host, before.scheduler? cache.scheduler = some host ∧
        host.Links before.now id cache (after.holders id)) : after.Linked := by
  have found (id : SchedulerId) : after.scheduler? id = before.scheduler? id := by
    rw [scheduler?, schedulers, scheduler?]
  refine ⟨linked.numbered.change change, ?_, ?_, ?_, ?_⟩
  · intro id scheduler seen
    rw [found] at seen
    exact linked.sound seen
  · intro id scheduler seen
    rw [found] at seen
    have serves {work : Work V} (serves : before.Serves id work) : after.Serves id work := by
      intro target own
      obtain ⟨cache, held, same⟩ := serves target own
      obtain ⟨changed, again, kept, _⟩ := old held
      exact ⟨changed, again, kept.trans same⟩
    exact (linked.serves seen).imp serves
  · intro id cache seen
    rw [now, found]
    cases earlier : before.cache? id with
    | none => exact new earlier seen
    | some first =>
        obtain ⟨changed, again, kept, goOn⟩ := old earlier
        cases seen.symm.trans again
        obtain ⟨host, hosted, links⟩ := linked.links earlier
        rw [kept]
        exact ⟨host, hosted, goOn links⟩
  · intro label handle seen
    rw [handles] at seen
    rw [found]
    exact linked.tasks seen

theorem exchange (linked : before.Linked) (change : Change before after) {id : CacheId}
    {cache changed : Cache V} {host new : Scheduler (Work V)} (now : after.now = before.now)
    (handles : after.handles = before.handles) (found : before.cache? id = some cache)
    (hosted : before.scheduler? cache.scheduler = some host)
    (again : after.cache? id = some changed) (kept : changed.scheduler = cache.scheduler)
    (otherCaches : ∀ {other}, other ≠ id → after.cache? other = before.cache? other ∧
      after.holders other = before.holders other)
    (settled : after.scheduler? cache.scheduler = some new)
    (otherSchedulers : ∀ {other}, other ≠ cache.scheduler →
      after.scheduler? other = before.scheduler? other)
    (sound : new.Sound) (serves : new.Bears (before.Serves cache.scheduler))
    (links : new.Links before.now id changed (after.holders id))
    (others : ∀ {other third}, other ≠ id → before.cache? other = some third →
      host.Links before.now other third (before.holders other) →
        new.Links before.now other third (before.holders other))
    (tasks : ∀ {task}, host.IsTask task → new.IsTask task) : after.Linked := by
  have carries {place : SchedulerId} {work : Work V} (serves : before.Serves place work) :
      after.Serves place work := by
    intro target own
    obtain ⟨third, held, same⟩ := serves target own
    by_cases same' : target = id
    · subst same'
      cases found.symm.trans held
      exact ⟨changed, again, kept.trans same⟩
    · refine ⟨third, ?_, same⟩
      rw [(otherCaches same').1]
      exact held
  refine ⟨linked.numbered.change change, ?_, ?_, ?_, ?_⟩
  · intro place scheduler seen
    by_cases same : place = cache.scheduler
    · subst same
      cases settled.symm.trans seen
      exact sound
    · rw [otherSchedulers same] at seen
      exact linked.sound seen
  · intro place scheduler seen
    by_cases same : place = cache.scheduler
    · subst same
      cases settled.symm.trans seen
      exact serves.imp carries
    · rw [otherSchedulers same] at seen
      exact (linked.serves seen).imp carries
  · intro other third seen
    rw [now]
    by_cases same : other = id
    · subst same
      cases again.symm.trans seen
      rw [kept]
      exact ⟨new, settled, links⟩
    · obtain ⟨unchanged, held⟩ := otherCaches same
      rw [unchanged] at seen
      rw [held]
      obtain ⟨place, placed, linkage⟩ := linked.links seen
      by_cases shared : third.scheduler = cache.scheduler
      · rw [shared] at placed ⊢
        cases hosted.symm.trans placed
        exact ⟨new, settled, others same seen linkage⟩
      · refine ⟨place, ?_, linkage⟩
        rw [otherSchedulers shared]
        exact placed
  · intro label handle seen
    rw [handles] at seen
    obtain ⟨scheduler, held, task⟩ := linked.tasks seen
    by_cases same : handle.scheduler = cache.scheduler
    · rw [same] at held ⊢
      cases hosted.symm.trans held
      exact ⟨new, settled, tasks task⟩
    · refine ⟨scheduler, ?_, task⟩
      rw [otherSchedulers same]
      exact held

theorem put (linked : system.Linked) {id : SchedulerId} {first last : Scheduler (Work V)}
    (found : system.scheduler? id = some first) (sound : last.Sound)
    (passes : Scheduler.Passes system.now (fun work => work.cache? ≠ none) system.Vain first last) :
    (system.putScheduler id last).Linked := by
  refine linked.goOn (Int.le_refl _) rfl rfl rfl ?_ ?_
  · intro other scheduler seen
    by_cases same : other = id
    · subst same
      cases found.symm.trans seen
      exact ⟨last, scheduler?_putScheduler_self found last, sound, passes⟩
    · refine ⟨scheduler, ?_, linked.sound seen, .refl scheduler⟩
      rw [scheduler?_putScheduler_of_ne system same]
      exact seen
  · intro other scheduler absent seen
    by_cases same : other = id
    · subst same
      cases found.symm.trans absent
    · rw [scheduler?_putScheduler_of_ne system same, absent] at seen
      cases seen

theorem of_eq (linked : before.Linked) (now : before.now ≤ after.now)
    (schedulers : after.schedulers = before.schedulers) (caches : after.caches = before.caches)
    (bookings : after.bookings = before.bookings) (handles : after.handles = before.handles) :
    after.Linked := by
  have found (id : SchedulerId) : after.scheduler? id = before.scheduler? id := by
    rw [scheduler?, schedulers, scheduler?]
  refine linked.goOn now caches bookings handles ?_ ?_
  · intro id scheduler seen
    refine ⟨scheduler, ?_, linked.sound seen, .refl scheduler⟩
    rw [found]
    exact seen
  · intro id scheduler absent seen
    rw [found, absent] at seen
    cases seen

end Linked

/-- Whatever is done to a scheduler other than for a cache leaves the deletions alone. -/
theorem Affair.passes {id : SchedulerId} {first last : Scheduler (Work V)}
    (affair : Affair system id first last) (linked : system.Linked)
    (found : system.scheduler? id = some first) :
    Scheduler.Passes system.now (fun work => work.cache? ≠ none) system.Vain first last := by
  cases affair with
  | mark step queue roster worker =>
      exact .of_eq queue (fun task => congrArg (Roster.fate? · task) roster) worker
        step.remembers.halted
  | look looking => exact (linked.sound found).passes_look looking system.now
  | wake woke => exact (Scheduler.wakes_of_wake? woke).passes
  | proceed rest busy => exact Scheduler.passes_proceed busy (fun own => own rfl) fun own => own rfl
  | finish busy vain => exact Scheduler.passes_finish busy fun _ => vain
  | submit accepted => exact Scheduler.passes_submit accepted fun own => own rfl
  | cancel kept own =>
      subst own
      obtain ⟨scheduler, again, task⟩ := linked.tasks kept
      cases found.symm.trans again
      exact Scheduler.passes_cancel fun entry held same own => own (task.work entry held same)

namespace Linked

theorem affair (linked : system.Linked) {id : SchedulerId} {first last : Scheduler (Work V)}
    (found : system.scheduler? id = some first) (affair : Affair system id first last) :
    (system.putScheduler id last).Linked := by
  obtain ⟨_, step⟩ := affair.step
  exact linked.put found ((linked.sound found).step step) (affair.passes linked found)

theorem halt (linked : system.Linked) {schedulers : Array (Scheduler (Work V))}
    {change : SchedulerId → Scheduler (Work V) → Scheduler (Work V)}
    (halts : ∀ id scheduler, change id scheduler = scheduler ∨
      change id scheduler = scheduler.halt)
    (changed : ∀ id, ({ system with schedulers } : System V).scheduler? id
      = (system.scheduler? id).map (change id)) : Linked { system with schedulers } := by
  refine linked.goOn (Int.le_refl _) rfl rfl rfl ?_ ?_
  · intro id scheduler found
    refine ⟨change id scheduler, by rw [changed, found, Option.map_some], ?_⟩
    rcases halts id scheduler with same | halted
    · rw [same]
      exact ⟨linked.sound found, .refl scheduler⟩
    · rw [halted]
      exact ⟨(linked.sound found).halt, Scheduler.passes_halt scheduler⟩
  · intro id scheduler absent found
    rw [changed, absent] at found
    cases found

theorem create (linked : system.Linked) (settings : Settings) :
    (system.createScheduler settings).2.Linked := by
  refine linked.goOn (Int.le_refl _) rfl rfl rfl ?_ ?_
  · intro id scheduler found
    refine ⟨scheduler, ?_, linked.sound found, .refl scheduler⟩
    obtain ⟨inside, _⟩ := Array.getElem?_eq_some_iff.1 found
    simp only [scheduler?, createScheduler, Array.getElem?_push] at *
    rw [if_neg (by omega)]
    exact found
  · intro id scheduler absent found
    simp only [scheduler?, createScheduler, Array.getElem?_push] at *
    split at found
    · cases found
      refine ⟨Scheduler.sound_start settings _, fun entry held => ?_, fun busy => ?_⟩
      · cases held
      · cases busy
    · rw [absent] at found
      cases found

theorem drop (linked : system.Linked) {caches : Array (Cache V)}
    {change : CacheId → Cache V → Cache V}
    (drops : ∀ id cache, change id cache = cache ∨ change id cache = cache.drop)
    (changed : ∀ id, ({ system with caches } : System V).cache? id
      = (system.cache? id).map (change id)) : Linked { system with caches } := by
  refine linked.reshelve (.drop change drops changed) rfl rfl rfl ?_ ?_
  · intro id cache found
    refine ⟨change id cache, by rw [changed, found, Option.map_some], ?_⟩
    rcases drops id cache with same | dropped
    · rw [same]
      exact ⟨rfl, fun links => links⟩
    · rw [dropped]
      refine ⟨rfl, fun links => links.resembles ?_ ?_ ?_ ?_⟩
      · exact fun _ => rfl
      · exact fun _ => rfl
      · exact Nat.le_refl _
      · exact fun _ => .inl
  · intro id cache absent found
    rw [changed, absent] at found
    cases found

theorem createCache (linked : system.Linked) {host : SchedulerId} {scheduler : Scheduler (Work V)}
    (hosted : system.scheduler? host = some scheduler) : (system.createCache host).2.Linked := by
  refine linked.reshelve (.createCache hosted) rfl rfl rfl ?_ ?_
  · intro id cache found
    exact ⟨cache, cache?_createCache found host, rfl, fun links => links⟩
  · intro id cache absent found
    rw [eq_of_createCache absent found]
    refine ⟨scheduler, hosted, .of_empty (fun _ => rfl) ?_⟩
    have serves := linked.serves hosted
    have other {work : Work V} (served : system.Serves host work) : work.cache? ≠ some id := by
      intro own
      obtain ⟨_, known, _⟩ := served id own
      cases absent.symm.trans known
    exact serves.imp other

theorem hold (linked : system.Linked) (label : Label) {handle : Handle}
    (enqueued : system.Enqueued handle) :
    Linked { system with handles := system.handles.insert label handle } := by
  refine ⟨⟨linked.numbered.caches, linked.numbered.known⟩, linked.sound, linked.serves,
    linked.links, ?_⟩
  intro other held found
  rw [Std.TreeMap.getElem?_insert] at found
  split at found
  · cases found
    obtain ⟨scheduler, entry, hosted, queued, same, work⟩ := enqueued
    have stored := (linked.sound hosted).stored
    refine ⟨scheduler, hosted, ?_, ?_⟩
    · rw [← same]
      exact stored.known queued
    · intro further also equal
      rw [(linked.sound hosted).eq_of_id_eq also queued (equal.trans same.symm)]
      exact work
  · exact linked.tasks found

theorem book (linked : system.Linked) {locked : System V} {id : CacheId} {cache : Cache V}
    {key : String} {access : Access V} {booking : Booking V}
    (found : system.cache? id = some cache) (accessible : system.isAccessible id key access = true)
    (booked : system.book id cache key access = .ok (booking, locked)) : locked.Linked := by
  have change : Change system locked := .book found accessible booked
  obtain ⟨books, own, rfl⟩ := books_of_book accessible booked
  refine linked.reshelve change rfl rfl rfl ?_ ?_
  · intro other third seen
    by_cases same : other = id
    · subst same
      cases found.symm.trans seen
      refine ⟨cache.advance, cache?_putCache_self found _, rfl, fun links => ?_⟩
      refine links.resembles ?_ ?_ ?_ ?_
      · exact fun _ => rfl
      · exact fun gone => gone
      · exact Nat.le_succ _
      · intro holder held
        have listed : holder ∈ booking :: system.holders other := by simpa [holders, own] using held
        rcases List.mem_cons.1 listed with rfl | old
        · rw [books.generation]
          exact .inr (Nat.lt_succ_self _)
        · exact .inl old
    · refine ⟨third, ?_, rfl, fun links => ?_⟩
      · exact (cache?_putCache_of_ne system same _).trans seen
      · have held : { system.putCache id cache.advance with
            bookings := booking :: system.bookings }.holders other = system.holders other := by
          simp [holders, own, Ne.symm same]
        rw [held]
        exact links
  · intro other third absent seen
    cases (cache?_putCache_of_none absent _).symm.trans seen

variable {booking : Booking V} {cache : Cache V}

/-- An access that lets go of the lock without having changed an entry. -/
theorem declined (linked : system.Linked) (found : system.cache? booking.cache = some cache)
    {noted : Cache V} (resembles : cache.Resembles noted)
    (change : Change system ((system.putCache booking.cache noted).unlock booking)) :
    ((system.putCache booking.cache noted).unlock booking).Linked := by
  refine linked.reshelve change rfl rfl rfl ?_ ?_
  · intro other third seen
    by_cases same : other = booking.cache
    · subst same
      cases found.symm.trans seen
      refine ⟨noted, cache?_putCache_self found _, resembles.scheduler, fun links => ?_⟩
      refine links.resembles resembles.lease? ?_ (Nat.le_of_eq resembles.generation.symm) ?_
      · exact fun gone => resembles.dropped.trans gone
      · exact fun holder listed => .inl (holders_unlock_subset _ booking _ listed)
    · refine ⟨third, (cache?_putCache_of_ne system same _).trans seen, rfl, fun links => ?_⟩
      rw [holders_unlock_of_ne same]
      exact links
  · intro other third absent seen
    cases (cache?_putCache_of_none absent _).symm.trans seen

theorem fulfilled (linked : system.Linked) (held : booking ∈ system.bookings)
    (found : system.cache? booking.cache = some cache) {host filled : Scheduler (Work V)}
    (hosted : system.scheduler? cache.scheduler = some host) {lease : Lease V} {stored : Cache V}
    (accepted : host.submit? lease.deadline (.deletion booking.cache booking.key lease.generation)
      = some (lease.deletion, filled))
    (given : lease.generation = booking.generation)
    (gains : cache.Gains booking.key lease stored)
    (change : Change system (((system.putCache booking.cache stored).putScheduler cache.scheduler
      (filled.relieve (cache.lease? booking.key))).unlock booking)) :
    (((system.putCache booking.cache stored).putScheduler cache.scheduler
      (filled.relieve (cache.lease? booking.key))).unlock booking).Linked := by
  obtain ⟨place, again, links⟩ := linked.links found
  cases hosted.symm.trans again
  have sound := linked.sound hosted
  have serves : filled.Bears (system.Serves cache.scheduler) := by
    refine (linked.serves hosted).submit ?_ accepted
    intro target own
    cases own
    exact ⟨cache, found, rfl⟩
  refine linked.exchange change rfl rfl found hosted (cache?_putCache_self found _)
    gains.scheduler ?_ (scheduler?_putScheduler_self hosted _) ?_
    ((sound.submit accepted).relieve _) ?_ ?_ ?_ ?_
  · intro other different
    exact ⟨cache?_putCache_of_ne system different _, holders_unlock_of_ne different⟩
  · intro other different
    exact scheduler?_putScheduler_of_ne _ different _
  · cases cache.lease? booking.key with
    | none => exact serves
    | some old => exact serves.cancel old.deletion
  · have ahead {task : TaskId} {generation : Nat}
        (busy : host.worker = .busy task (.deletion booking.cache booking.key generation)) :
        generation < lease.generation := by
      rw [given]
      exact (links.running busy).2.2 booking (mem_holders_iff.2 ⟨held, rfl⟩) rfl
    refine (links.fulfils sound gains accepted ahead).resembles (fun _ => rfl) id
      (Nat.le_refl _) fun holder listed => .inl ?_
    exact holders_unlock_subset _ booking _ listed
  · intro other third different seen linkage
    have numbered := linked.numbered.caches seen
    have submitted : filled.Links system.now other third (system.holders other) := by
      refine linkage.aside sound numbered (Scheduler.passes_submit accepted fun own => ?_)
      exact different (Option.some.inj own).symm
    cases present : cache.lease? booking.key with
    | none => exact submitted
    | some old =>
        refine submitted.aside (sound.submit accepted) numbered (Scheduler.passes_cancel ?_)
        intro entry queued same
        obtain ⟨_, number, ready, interrupt, journal, rfl⟩ := Scheduler.eq_of_submit? accepted
        rcases Heap.mem_insert_iff.1 queued with rfl | earlier
        · exact absurd same.symm (Roster.ne_nextId_of_known (links.accepted present))
        · exact links.cache?_ne_of_deletion present different entry earlier same
  · intro task known
    cases cache.lease? booking.key with
    | none => exact known.submit accepted
    | some old => exact (known.submit accepted).cancel old.deletion

theorem confirm (linked : system.Linked) (held : booking ∈ system.bookings) :
    ((system.resolve booking).2.unlock booking).Linked := by
  obtain ⟨cache, found⟩ := linked.numbered.known booking held
  have reads := linked.numbered.readsPresent found booking (mem_holders_iff.2 ⟨held, rfl⟩)
  have confirms := confirms_resolve found reads
  have change : Change system ((system.resolve booking).2.unlock booking) := .confirm held
  generalize system.resolve booking = result at confirms change
  cases confirms with
  | declined resembles _ => exact linked.declined found resembles change
  | fulfilled reached hosted accepted value gains =>
      exact linked.fulfilled held found hosted accepted rfl gains change

theorem delete (linked : system.Linked) {id : CacheId} (key : String)
    (found : system.cache? id = some cache) (unlocked : system.isUnlocked id = true) :
    (system.delete id cache key).2.Linked := by
  have change : Change system (system.delete id cache key).2 := .delete key found unlocked
  cases present : cache.lease? key with
  | none =>
      rw [delete_of_none present]
      exact linked
  | some old =>
      obtain ⟨host, hosted, links⟩ := linked.links found
      obtain ⟨removed, loses, deleted⟩ := delete_eq_loses system id present
      rw [cancelTask_of_found hosted] at deleted
      rw [deleted] at change ⊢
      refine linked.exchange change rfl rfl found hosted (cache?_putCache_self found _)
        loses.scheduler ?_ (scheduler?_putScheduler_self hosted _) ?_
        ((linked.sound hosted).cancel _) ((linked.serves hosted).cancel _)
        (links.loses loses present) ?_ fun known => known.cancel _
      · intro other different
        exact ⟨cache?_putCache_of_ne system different _, rfl⟩
      · intro other different
        exact scheduler?_putScheduler_of_ne _ different _
      · intro other third different seen linkage
        exact linkage.aside (linked.sound hosted) (linked.numbered.caches seen)
          (Scheduler.passes_cancel (links.cache?_ne_of_deletion present different))

theorem expire (linked : system.Linked) {id : SchedulerId} {scheduler : Scheduler (Work V)}
    {task : TaskId} {cacheId : CacheId} {key : String} {generation : Nat}
    (hosted : system.scheduler? id = some scheduler)
    (busy : scheduler.worker = .busy task (.deletion cacheId key generation))
    (found : system.cache? cacheId = some cache) (kept : cache.dropped = false)
    (unlocked : system.isUnlocked cacheId = true) :
    ((system.putCache cacheId (cache.expire key generation)).finishTask id scheduler).Linked := by
  obtain ⟨target, again, rfl⟩ := (linked.serves hosted).busy busy cacheId rfl
  cases found.symm.trans again
  obtain ⟨host, same, links⟩ := linked.links found
  cases hosted.symm.trans same
  refine linked.exchange (.expire hosted busy found kept unlocked) rfl rfl found hosted
    (cache?_putCache_self found _) (cache.scheduler_expire ..) ?_
    (scheduler?_putScheduler_self hosted _) ?_ (linked.sound hosted).finish
    (linked.serves hosted).finish (links.expires (linked.sound hosted) busy) ?_ ?_
  · intro other different
    exact ⟨cache?_putCache_of_ne system different _, rfl⟩
  · intro other different
    exact scheduler?_putScheduler_of_ne _ different _
  · intro other third different seen linkage
    refine linkage.aside (linked.sound hosted) (linked.numbered.caches seen)
      (Scheduler.passes_finish busy fun own => ?_)
    exact different (Option.some.inj own).symm
  · exact fun known => known.finish

theorem change (linked : before.Linked) (change : Change before after) : after.Linked := by
  cases change with
  | aside aside =>
      exact linked.of_eq (Int.le_of_eq aside.now.symm) aside.schedulers aside.caches aside.bookings
        aside.handles
  | halt change halts changed => exact linked.halt halts changed
  | drop change drops changed => exact linked.drop drops changed
  | create settings => exact linked.create settings
  | createCache hosted => exact linked.createCache hosted
  | put found affair => exact linked.affair found affair
  | hold label enqueued => exact linked.hold label enqueued
  | book found accessible booked => exact linked.book found accessible booked
  | confirm held => exact linked.confirm held
  | delete key found unlocked => exact linked.delete key found unlocked
  | expire hosted busy found kept unlocked => exact linked.expire hosted busy found kept unlocked
  | call _ _ => exact linked.of_eq (Int.le_refl _) rfl rfl rfl rfl
  | stage _ _ _ _ => exact linked.of_eq (Int.le_refl _) rfl rfl rfl rfl

theorem links_of_serves (linked : system.Linked) {id : SchedulerId} {host : Scheduler (Work V)}
    (hosted : system.scheduler? id = some host) {work : Work V} (serves : system.Serves id work)
    {place : CacheId} (own : work.cache? = some place) : ∃ cache,
      system.cache? place = some cache ∧ cache.scheduler = id ∧
        host.Links system.now place cache (system.holders place) := by
  obtain ⟨cache, found, rfl⟩ := serves place own
  obtain ⟨other, again, links⟩ := linked.links found
  cases hosted.symm.trans again
  exact ⟨cache, found, rfl, links⟩

end Linked

theorem Reachable.linked (reachable : Reachable system) : system.Linked :=
  reachable.keeps (fun linked change => linked.change change)
    (fun linked order => linked.of_eq order rfl rfl rfl rfl) .start

end System

end Agenda
