import Agenda.Proofs.Deletion.Finding
import Agenda.Proofs.Deletion.Sparing

/-!
# How accesses end

An access to a cache ends in one of two ways.  It stops short of the clock if the key is in its way, or
it holds the lock until its deletion is accepted or refused.  It does so in one operation or in two, in
a call from outside or in one of a task; `Ends` says what all of these have in common.
-/

namespace Agenda

universe u

variable {V : Type u}

/-- What an access answers whose deletion a scheduler of this name refuses. -/
def Access.denial (access : Access V) (name : String) (old : Option (Lease V)) : Reply V :=
  match access with
  | .read => .found (old.map Lease.value)
  | _ => .failed (.unscheduled (.stopped name))

def Booking.entry (booking : Booking V) (task : TaskId) (deadline : Int) : Entry (Work V) :=
  ⟨deadline, task, .deletion booking.cache booking.key booking.generation⟩

namespace Scheduler

@[simp]
theorem queue_relieve (scheduler : Scheduler (Work V)) (old : Option (Lease V)) :
    (scheduler.relieve old).queue = scheduler.queue := by
  cases old with
  | none => rfl
  | some old => exact queue_cancel ..

@[simp]
theorem count_relieve (scheduler : Scheduler (Work V)) (old : Option (Lease V)) :
    (scheduler.relieve old).roster.count = scheduler.roster.count := by
  cases old with
  | none => rfl
  | some old => rw [relieve, roster_cancel, Roster.count_resolve]

end Scheduler

namespace System

variable {system asked after locked answered : System V} {operation : Operation V}
  {place : CacheId} {cache : Cache V} {key : String} {access : Access V} {booking : Booking V}
  {reply : Reply V} {label : Label}

/-- An access ends before it reads the clock, or has to wait, with this answer. -/
inductive StopsShort (old : Option (Lease V)) (key : String) : Access V → Reply V → Prop where
  | waits (access : Access V) : StopsShort old key access .started
  | duplicate (value : V) (ttl : Delay) : old ≠ none →
      StopsShort old key (.add value ttl) (.failed (.duplicateKey key))
  | absent : old = none → StopsShort old key .read (.found none)

structure Ends (system : System V) (operation : Operation V) (locked : System V)
    (booking : Booking V) (after : System V) : Prop where
  held : booking ∈ locked.bookings
  numbered : locked.Numbered
  submission : operation.submission? system = locked.renewal? booking
  reply : operation.reply? system = some (locked.confirm booking).1
  comes : ∃ events, after = { (locked.confirm booking).2 with events }
  encounters : system.Encounters booking
  entries : ∀ place key, locked.lease? place key = system.lease? place key
  cache : ∀ {place locking}, locked.cache? place = some locking →
    ∃ cache, system.cache? place = some cache ∧ cache.scheduler = locking.scheduler
  host : ∀ {id host}, system.scheduler? id = some host →
    ∃ worker, worker.task? = host.worker.task? ∧ locked.scheduler? id = some { host with worker }
  enlists : Enlists [] system locked

theorem stopsShort_of_book (ended : asked.book place cache key access = .error reply) :
    StopsShort (cache.lease? key) key access reply := by
  unfold book at ended
  cases access with
  | read =>
      cases absent : cache.lease? key with
      | none =>
          rw [Cache.ttl?, absent] at ended
          cases ended
          exact .absent rfl
      | some lease =>
          rw [Cache.ttl?, absent] at ended
          cases ended
  | add value ttl =>
      simp only [Cache.ttl?] at ended
      split at ended
      · rename_i error duplicate
        split at duplicate <;> cases duplicate
        cases ended
        rename_i present
        refine .duplicate value ttl ?_
        rw [Cache.contains, Std.TreeMap.contains_eq_isSome_getElem?] at present
        exact Option.isSome_iff_ne_none.1 present
      · rename_i none
        split at none <;> cases none
      · cases ended
  | set value ttl => cases ended

/-- In the operation an access ends short of the clock, or has to wait, and nothing comes of it. -/
structure Idles (system : System V) (operation : Operation V) (place : CacheId) (key : String)
    (access : Access V) (after : System V) : Prop where
  submission : operation.submission? system = none
  reply : ∃ reply, operation.reply? system = some reply ∧
    StopsShort (system.lease? place key) key access reply
  entries : ∀ place key, after.lease? place key = system.lease? place key
  enlists : Enlists [] system after

theorem deletion?_of_error (located : asked.cacheAt? label = some (place, cache))
    (ended : asked.book place cache key access = .error reply) :
    asked.deletion? label key access = none := by
  rw [deletion?, located, Option.bind_some]
  dsimp only
  unfold book at ended
  split
  · split at ended
    · rename_i given
      rw [given]
    · rename_i given
      rw [given]
    · cases ended
  · rfl

theorem deletion?_of_book (located : asked.cacheAt? label = some (place, cache))
    (accessible : asked.isAccessible place key access = true)
    (booked : asked.book place cache key access = .ok (booking, locked)) :
    asked.deletion? label key access = locked.renewal? booking := by
  have kept := cache?_of_book (cache?_of_cacheAt? located) booked
  obtain ⟨ttl, given, rfl, _⟩ := eq_of_book booked
  rw [deletion?, located, Option.bind_some]
  dsimp only
  rw [if_pos accessible, given, renewal?, kept]
  rfl

theorem deletion?_of_waits (located : asked.cacheAt? label = some (place, cache))
    (waits : asked.access? label key access = none) : asked.deletion? label key access = none := by
  rw [access?, located] at waits
  rw [deletion?, located, Option.bind_some]
  dsimp only at waits ⊢
  split at waits
  · split at waits <;> cases waits
  · rename_i locked
    rw [if_neg locked]

theorem Puts.book (puts : Puts system asked) (numbered : system.Numbered)
    (found : asked.cache? place = some cache)
    (accessible : asked.isAccessible place key access = true)
    (booked : asked.book place cache key access = .ok (booking, locked)) :
    booking ∈ locked.bookings ∧ locked.Numbered ∧
      (∀ other name, locked.lease? other name = system.lease? other name) ∧
      (∀ {other locking}, locked.cache? other = some locking →
        ∃ store, system.cache? other = some store ∧ store.scheduler = locking.scheduler) ∧
      ∀ {id host}, system.scheduler? id = some host → ∃ worker,
        worker.task? = host.worker.task? ∧ locked.scheduler? id = some { host with worker } := by
  have following := (puts.numbered numbered).change (.book found accessible booked)
  have entries := preserves_book found booked
  obtain ⟨_, _, _, rfl⟩ := eq_of_book booked
  refine ⟨List.mem_cons_self, following,
    fun other name => (entries other name).trans (puts.lease? other name),
    fun {other locking} there => ?_, puts.scheduler⟩
  by_cases own : other = place
  · subst own
    cases (cache?_putCache_self found cache.advance).symm.trans there
    exact ⟨cache, (puts.cache? other).symm.trans found, rfl⟩
  · have kept := (cache?_putCache_of_ne asked own cache.advance).symm.trans there
    exact ⟨locking, (puts.cache? other).symm.trans kept, rfl⟩

/-- A call for an access to a cache stops short, or the access ends in the operation. -/
theorem Poses.access_cases
    (poses : system.Poses operation asked (.request (.access label key access)) after)
    (posed : operation.posed? system = some (asked, .request (.access label key access)))
    (reachable : Reachable system) (located : asked.cacheAt? label = some (place, cache)) :
    system.Idles operation place key access after ∨
      ∃ locked booking, system.Ends operation locked booking after ∧
        booking.cache = place ∧ booking.key = key ∧ booking.access = access := by
  have puts := poses.puts
  have found := cache?_of_cacheAt? located
  have submission := Operation.submission?_of_posed posed
  have told := Operation.reply?_of_posed posed
  obtain ⟨events, rfl⟩ := poses.comes
  have stays : Enlists [] system { asked with events } := poses.enlists.aside rfl
  have same (other : CacheId) (name : String) :
      ({ asked with events } : System V).lease? other name = system.lease? other name :=
    puts.lease? other name
  have old : cache.lease? key = system.lease? place key := by
    rw [← puts.lease?, lease?_of_found found]
  rw [Session.perform, answer?] at told ⊢
  cases answer : asked.access? label key access with
  | none =>
      rw [answer] at told
      exact .inl ⟨submission.trans (deletion?_of_waits located answer), ⟨_, told, .waits access⟩,
        same, stays⟩
  | some answered =>
      obtain ⟨reply, answered⟩ := answered
      rw [answer] at told
      rcases book_of_access? located answer with ⟨ended, rfl⟩ | ⟨booking, locked, free, booked, rfl, rfl⟩
      · refine .inl ⟨submission.trans (deletion?_of_error located ended), ⟨_, told, ?_⟩, same, stays⟩
        rw [← old]
        exact stopsShort_of_book ended
      · obtain ⟨held, following, entries, kept, host⟩ :=
          puts.book reachable.numbered found free booked
        have there := (puts.cache? place).symm.trans found
        have encounters := reachable.encounters_of_book there puts.now booked
        refine .inr ⟨locked, booking, ⟨held, following, submission.trans
          (deletion?_of_book located free booked), told, ⟨events, rfl⟩, encounters, entries, kept, host,
          poses.enlists.trans (.book booked)⟩, ?_⟩
        obtain ⟨_, _, rfl, _⟩ := eq_of_book booked
        exact ⟨rfl, rfl, rfl⟩

/-- What comes of an access in the operation that it is posed in, or goes on in. -/
theorem Does.access_cases (does : system.Does operation after) (reachable : Reachable system)
    (accessed : operation.access? system = some (place, key, access)) :
    system.Idles operation place key access after ∨
      ∃ locked booking, system.Ends operation locked booking after ∧
        booking.cache = place ∧ booking.key = key ∧ booking.access = access := by
  rcases Operation.exists_of_access? accessed with
    ⟨booking, rfl, rfl, rfl, rfl⟩ | ⟨asked, label, cache, posed, located⟩
  · cases does with
    | confirm held =>
        exact .inr ⟨system, booking, ⟨held, reachable.numbered, rfl, rfl, ⟨_, rfl⟩,
          reachable.encounters held, fun _ _ => rfl,
          fun found => ⟨_, found, rfl⟩, fun found => ⟨_, rfl, found⟩, .refl system⟩, rfl, rfl, rfl⟩
  · exact (does.poses posed).access_cases posed reachable located

inductive ComesOut (system : System V) (booking : Booking V) (id : SchedulerId)
    (host : Scheduler (Work V)) (after : System V) : Reply V → Prop where
  /-- The deletion is accepted, and the entry is stored. -/
  | accepted {deadline : Int} {value : V} :
      host.isStopped = false → booking.deadline = some deadline →
      booking.value? (system.lease? booking.cache booking.key) = some value →
      (∀ place key, after.lease? place key = if place = booking.cache ∧ key = booking.key then
        some ⟨value, booking.ttl, host.roster.nextId, booking.generation, deadline⟩
        else system.lease? place key) →
      Enlists [(id, booking.entry host.roster.nextId deadline)] system after →
      booking.entry host.roster.nextId deadline ∈ after.queued id →
      ComesOut system booking id host after
        (booking.access.answer (system.lease? booking.cache booking.key))
  | overflow : booking.deadline = none →
      (∀ place key, after.lease? place key = system.lease? place key) → Enlists [] system after →
      ComesOut system booking id host after .overflow
  /-- The deletion is refused, and all entries stay what they are. -/
  | refused : host.isStopped = true → booking.deadline ≠ none →
      (∀ place key, after.lease? place key = system.lease? place key) → Enlists [] system after →
      ComesOut system booking id host after
        (booking.access.denial host.name (system.lease? booking.cache booking.key))

section Confirm

variable {host : Scheduler (Work V)}

/-- The answer of an access whose deletion is refused. -/
theorem fst_confirm_of_isStopped (found : system.cache? booking.cache = some cache)
    (hosted : system.scheduler? cache.scheduler = some host) (stopped : host.isStopped = true)
    (reached : booking.deadline ≠ none) : (system.confirm booking).1 =
      booking.access.denial host.name (system.lease? booking.cache booking.key) := by
  have old := lease?_of_found found booking.key
  cases asked : booking.access with
  | read =>
      have reads : booking.access.isRead = true := by rw [asked]; rfl
      have answers := fst_resolve_of_read hosted stopped .call found rfl reads reached
      rw [← old] at answers
      exact answers
  | _ =>
      have writes : booking.access.isRead = false := by rw [asked]; rfl
      have answers := fst_resolve hosted stopped .call found rfl writes
      obtain ⟨deadline, reached⟩ := Option.ne_none_iff_exists'.1 reached
      rw [reached] at answers
      exact answers

theorem comesOut_of_fulfilled {filled : Scheduler (Work V)} {task : TaskId} {deadline : Int}
    {value : V} {stored : Cache V} (found : system.cache? booking.cache = some cache)
    (hosted : system.scheduler? cache.scheduler = some host)
    (reached : booking.deadline = some deadline)
    (accepted : host.submit? deadline (.deletion booking.cache booking.key booking.generation)
      = some (task, filled))
    (valued : booking.value? (cache.lease? booking.key) = some value)
    (gains : cache.Gains booking.key ⟨value, booking.ttl, task, booking.generation, deadline⟩ stored) :
    ComesOut system booking cache.scheduler host
      (((system.putCache booking.cache stored).putScheduler cache.scheduler
        (filled.relieve (cache.lease? booking.key))).unlock booking).sweep
      (booking.answer (cache.lease? booking.key)) := by
  obtain ⟨running, rfl, _, _, _, full⟩ := Scheduler.eq_of_submit? accepted
  have old := lease?_of_found found booking.key
  have target : (system.putCache booking.cache stored).scheduler? cache.scheduler = some host := hosted
  have count : (filled.relieve (cache.lease? booking.key)).roster.count = host.roster.count + 1 := by
    rw [Scheduler.count_relieve, full]
    exact Roster.count_accept _
  have queue (entry : Entry (Work V)) :
      entry ∈ (filled.relieve (cache.lease? booking.key)).queue.toList ↔
        entry = booking.entry host.roster.nextId deadline ∨ entry ∈ host.queue.toList := by
    rw [Scheduler.queue_relieve, full]
    exact Heap.mem_insert_iff
  have taken : Enlists [(cache.scheduler, booking.entry host.roster.nextId deadline)]
      (system.putCache booking.cache stored)
      ((system.putCache booking.cache stored).putScheduler cache.scheduler
        (filled.relieve (cache.lease? booking.key))) :=
    .put target [_] count fun entry held => ((queue entry).1 held).imp_left List.mem_singleton.2
  have begun : Enlists [(cache.scheduler, booking.entry host.roster.nextId deadline)] system
      ((system.putCache booking.cache stored).putScheduler cache.scheduler
        (filled.relieve (cache.lease? booking.key))) := taken.of_aside rfl
  have unlocked : Enlists [(cache.scheduler, booking.entry host.roster.nextId deadline)] system
      (((system.putCache booking.cache stored).putScheduler cache.scheduler
        (filled.relieve (cache.lease? booking.key))).unlock booking) := begun.aside rfl
  rw [← old] at valued
  rw [show booking.answer (cache.lease? booking.key) =
    booking.access.answer (system.lease? booking.cache booking.key) by rw [← old]; rfl]
  refine .accepted running reached valued (fun place key => ?_) (unlocked.trans (.sweep _)) ?_
  · refine (lease?_sweep _ place key).trans ((lease?_putCache found stored place key).trans ?_)
    by_cases own : place = booking.cache
    · rw [own, if_pos rfl, gains.lease?, lease?_of_found found]
      simp
    · simp [own]
  · have placed := scheduler?_putScheduler_self target (filled.relieve (cache.lease? booking.key))
    rw [queued_sweep]
    exact (queued_of_found placed) ▸ (queue _).2 (.inl rfl)

theorem Numbered.comesOut (numbered : system.Numbered) (held : booking ∈ system.bookings)
    (found : system.cache? booking.cache = some cache)
    (hosted : system.scheduler? cache.scheduler = some host) :
    ComesOut system booking cache.scheduler host (system.confirm booking).2
      (system.confirm booking).1 := by
  have reads := numbered.readsPresent found booking (mem_holders_iff.2 ⟨held, rfl⟩)
  cases reached : booking.deadline with
  | none =>
      have ended : system.resolve booking = (.overflow, system) := by rw [resolve, reached]
      have answer : (system.confirm booking).1 = .overflow := by rw [confirm, ended]
      rw [answer]
      refine .overflow reached (numbered.fails held found (.inl reached)) ?_
      rw [confirm, ended]
      exact (Enlists.sweep _).of_aside rfl
  | some deadline =>
      have given : booking.deadline ≠ none := ne_of_eq_of_ne reached (Option.some_ne_none _)
      cases stopped : host.isStopped with
      | true =>
          rw [fst_confirm_of_isStopped found hosted stopped given]
          have same : (system.resolve booking).2.schedulers = system.schedulers := by
            rw [(refuses_of_isStopped hosted stopped).accesses .call reached found rfl hosted, decline]
            split <;> rfl
          exact .refused stopped given (numbered.fails held found (.inr ⟨host, hosted, stopped⟩))
            ((Enlists.sweep _).of_aside same)
      | false =>
          have confirms := confirms_resolve found reads
          rw [confirm]
          generalize system.resolve booking = result at confirms
          cases confirms with
          | declined _ refused =>
              rcases refused with never | refused
              · exact absurd never given
              · cases stopped.symm.trans (refused host hosted)
          | @fulfilled other filled task due value stored due_eq again accepted valued gains =>
              cases reached.symm.trans due_eq
              cases hosted.symm.trans again
              exact comesOut_of_fulfilled found hosted reached accepted valued gains

end Confirm

/-- How an access comes out, seen from the system before the operation in which it ends. -/
theorem Ends.comesOut (ends : system.Ends operation locked booking after)
    (reachable : Reachable system) : ∃ cache host reply,
      system.cache? booking.cache = some cache ∧ system.scheduler? cache.scheduler = some host ∧
      operation.reply? system = some reply ∧
      operation.submission? system = booking.deadline.map (fun deadline =>
        ⟨cache.scheduler, deadline, .deletion booking.cache booking.key booking.generation⟩) ∧
      ComesOut system booking cache.scheduler host after reply := by
  obtain ⟨locking, there⟩ := ends.numbered.known booking ends.held
  obtain ⟨cache, found, same⟩ := ends.cache there
  obtain ⟨host, hosted, _⟩ := reachable.linked.links found
  obtain ⟨worker, _, seen⟩ := ends.host hosted
  have comesOut := ends.numbered.comesOut ends.held there (same ▸ seen)
  have submission : operation.submission? system = booking.deadline.map (fun deadline =>
      ⟨cache.scheduler, deadline, .deletion booking.cache booking.key booking.generation⟩) := by
    rw [ends.submission, renewal?, there, Option.bind_some, same]
  refine ⟨cache, host, _, found, hosted, ends.reply, submission, ?_⟩
  obtain ⟨events, rfl⟩ := ends.comes
  rw [← same] at comesOut
  generalize (locked.confirm booking).1 = reply at comesOut
  have joins {tasks : List (SchedulerId × Entry (Work V))}
      (enlists : Enlists tasks locked (locked.confirm booking).2) :
      Enlists tasks system { (locked.confirm booking).2 with events } :=
    (ends.enlists.trans enlists).aside rfl
  cases comesOut with
  | accepted running reached valued entries enlists queued =>
      rw [ends.entries] at valued ⊢
      refine .accepted running reached valued (fun place key => ?_) (joins enlists) queued
      exact (entries place key).trans (by rw [ends.entries])
  | overflow never entries enlists =>
      exact .overflow never (fun place key => (entries place key).trans (ends.entries place key))
        (joins enlists)
  | refused stopped reached entries enlists =>
      rw [ends.entries]
      exact .refused stopped reached
        (fun place key => (entries place key).trans (ends.entries place key)) (joins enlists)

end System

end Agenda
