import Mathlib
import Agenda.Proofs.Deletion.Dating
import Agenda.Proofs.Deletion.Linking

/-!
# Outdated deletions

A deletion that has begun cannot be cancelled, and it may have to wait for the lock of the cache
while its entry is renewed or taken out.  It removes an entry only if that is still the one that it
was scheduled for, and such an entry has reached its deadline.
-/

namespace Agenda.System

universe u

variable {V : Type u}

def lease? (system : System V) (id : CacheId) (key : String) : Option (Lease V) :=
  (system.cache? id).bind fun cache => cache.lease? key

/-- The worker of the scheduler `place` is about to carry out a deletion, and `moved` is what
comes of it. -/
structure Deletes (system moved : System V) (place : SchedulerId) (id : CacheId) (key : String)
    (generation : Nat) : Prop where
  busy : ∃ host task, system.scheduler? place = some host ∧
    host.worker = .busy task (.deletion id key generation)
  move : system.moveWorker? place = some moved

/-- Neither now nor later does the deletion for this generation remove anything. -/
def IsOutdated (system : System V) (id : CacheId) (key : String) (generation : Nat) : Prop :=
  ∀ (later moved : System V) (place : SchedulerId), Leads system later →
    later.Deletes moved place id key generation →
      ∀ (other : CacheId) (name : String), moved.lease? other name = later.lease? other name

variable {system moved before after : System V} {id : CacheId} {cache : Cache V} {key : String}
  {generation : Nat} {booking : Booking V}

theorem lease?_of_found (found : system.cache? id = some cache) (key : String) :
    system.lease? id key = cache.lease? key := by
  rw [lease?, found, Option.bind_some]

@[simp]
theorem lease?_sweep (system : System V) (id : CacheId) (key : String) :
    system.sweep.lease? id key = system.lease? id key := by
  simp only [lease?, cache?, sweep, sweepSchedulers, sweepCaches, Array.getElem?_mapIdx]
  cases system.caches[id.index]? with
  | none => rfl
  | some cache =>
      rw [Option.map_some, Option.bind_some, Option.bind_some]
      split <;> rfl

theorem lease?_putCache (found : system.cache? id = some cache) (changed : Cache V)
    (other : CacheId) (key : String) : (system.putCache id changed).lease? other key =
      if other = id then changed.lease? key else system.lease? other key := by
  by_cases same : other = id
  · rw [if_pos same, same, lease?_of_found (cache?_putCache_self found changed)]
  · rw [if_neg same, lease?, cache?_putCache_of_ne system same, lease?]

/-- What comes of a deletion: it removes its entry, if that is still the one it was scheduled for
and nobody holds the lock, and nothing else. -/
inductive Removal (system moved : System V) (id : CacheId) (key : String) (generation : Nat) :
    Prop where
  | spared :
      (∀ cache, system.cache? id = some cache → cache.dropped = true ∨
        ∀ lease, cache.lease? key = some lease → lease.generation ≠ generation) →
      (∀ other name, moved.lease? other name = system.lease? other name) →
      Removal system moved id key generation
  | removed {lease : Lease V} :
      system.isUnlocked id = true → system.lease? id key = some lease →
      lease.generation = generation →
      (∀ other name, moved.lease? other name =
        if other = id ∧ name = key then none else system.lease? other name) →
      Removal system moved id key generation

theorem Deletes.removal {place : SchedulerId}
    (deletes : system.Deletes moved place id key generation) :
    system.Removal moved id key generation := by
  obtain ⟨⟨host, task, found, busy⟩, move⟩ := deletes
  rw [moveWorker?, found, Option.bind_some, busy] at move
  dsimp only at move
  unfold moveDeletion? at move
  split at move
  · rename_i absent
    cases move
    refine .spared (fun cache present => ?_) fun _ _ => rfl
    cases absent.symm.trans present
  · rename_i cache held
    split at move
    · rename_i dropped
      cases move
      refine .spared (fun other present => .inl ?_) fun _ _ => rfl
      cases held.symm.trans present
      exact dropped
    · split at move <;> cases move
      rename_i unlocked
      have entries (other : CacheId) (name : String) :
          ((system.putCache id (cache.expire key generation)).finishTask place host).sweep.lease?
            other name = if other = id then (cache.expire key generation).lease? name
              else system.lease? other name :=
        (lease?_sweep _ other name).trans (lease?_putCache held _ other name)
      by_cases current : (cache.lease? key).any fun lease => lease.generation = generation
      · obtain ⟨lease, present, same⟩ := (Option.any_eq_true _ _).1 current
        refine .removed unlocked ((lease?_of_found held key).trans present)
          (of_decide_eq_true same) fun other name => ?_
        rw [entries, Cache.expire, if_pos current, Cache.lease?_note, Cache.lease?_remove]
        by_cases own : other = id
        · simp [own, lease?_of_found held]
        · simp [own]
      · refine .spared (fun other present => .inr fun lease stored same => ?_) fun other name => ?_
        · cases held.symm.trans present
          exact current (by simp [stored, same])
        · rw [entries, Cache.expire, if_neg current]
          split
          · rename_i own
            rw [own, lease?_of_found held]
          · rfl

/-- A deletion is outdated when every entry that is or will be there has another generation. -/
theorem Outgrows.isOutdated_of {kind : Lease V → Prop}
    (outgrows : system.Outgrows kind id key generation) (numbered : system.Numbered)
    (different : ∀ {lease}, kind lease → lease.generation ≠ generation) :
    system.IsOutdated id key generation := by
  intro later moved place leads deletes other name
  obtain ⟨cache, found, outgrows⟩ := outgrows.leads numbered leads
  cases deletes.removal with
  | spared _ same => exact same other name
  | removed _ present current _ =>
      rw [lease?_of_found found] at present
      rcases outgrows.stored _ present with fits | later
      · exact absurd current (different fits)
      · exact absurd current (Nat.ne_of_gt later)

/-- A deletion is outdated when every entry that is or will be there has a later generation. -/
theorem Outgrows.isOutdated (outgrows : system.Outgrows (fun _ => False) id key generation)
    (numbered : system.Numbered) : system.IsOutdated id key generation :=
  outgrows.isOutdated_of numbered False.elim

/-- When an entry is taken out, all deletions that were scheduled for its key are outdated. -/
theorem outgrows_of_delete (found : system.cache? id = some cache)
    (unlocked : system.isUnlocked id = true) (given : generation ≤ cache.generation) :
    (system.delete id cache key).2.Outgrows (fun _ => False) id key generation := by
  have vacant := holders_of_isUnlocked unlocked
  have outgrows {changed : Cache V} (absent : changed.lease? key = none)
      (same : changed.generation = cache.generation) :
      changed.Outgrows (fun _ => False) key generation (system.holders id) := by
    refine ⟨Nat.le_trans given (Nat.le_of_eq same.symm), ?_, ?_⟩
    · rw [vacant]
      nofun
    · intro lease present
      cases absent.symm.trans present
  cases present : cache.lease? key with
  | none =>
      rw [delete_of_none present]
      exact ⟨cache, found, outgrows present rfl⟩
  | some old =>
      obtain ⟨removed, loses, deleted⟩ := delete_eq_loses system id present
      obtain ⟨_, cancelled⟩ := cancelTask_eq system cache.scheduler old.deletion
      rw [deleted, cancelled]
      refine ⟨removed, cache?_putCache_self found _, ?_⟩
      exact outgrows ((loses.lease? key).trans (if_pos rfl)) loses.generation

/-- As long as an access holds the lock, the entry that it found stays what it is; and so do all
entries if it is a write. -/
structure Holds (system : System V) (cache : Cache V) (booking : Booking V) : Prop where
  found : ∃ changed, system.cache? booking.cache = some changed ∧
    changed.scheduler = cache.scheduler ∧ booking.generation ≤ changed.generation ∧
    (booking ∈ system.bookings → ∀ name, (booking.access.isRead = true → name = booking.key) →
      changed.lease? name = cache.lease? name)

theorem Holds.change (holds : before.Holds cache booking) (numbered : before.Numbered)
    (change : Change before after) : after.Holds cache booking := by
  obtain ⟨first, found, place, given, kept⟩ := holds.found
  obtain ⟨changed, again, same, turn⟩ := change.turns found numbered.readsPresent
  refine ⟨changed, again, same.trans place, Nat.le_trans given turn.generation_le, ?_⟩
  intro held name touched
  have listed := mem_holders_iff.2 ⟨held, rfl⟩
  rcases turn.held_or_books listed with old | ⟨books, _⟩
  · rw [turn.lease?_of_held (numbered.caches found) old listed touched]
    exact kept (mem_holders_iff.1 old).1 name touched
  · rw [books.generation] at given
    omega

theorem holds_of_book {locked : System V} {access : Access V}
    (found : system.cache? id = some cache) (accessible : system.isAccessible id key access = true)
    (booked : system.book id cache key access = .ok (booking, locked)) :
    locked.Holds cache booking := by
  obtain ⟨books, rfl, rfl⟩ := books_of_book accessible booked
  refine ⟨cache.advance, cache?_putCache_self found _, rfl, ?_, fun _ _ _ => rfl⟩
  exact Nat.le_of_eq books.generation

theorem Holds.leads (holds : before.Holds cache booking) (numbered : before.Numbered)
    (leads : Leads before after) : after.Numbered ∧ after.Holds cache booking :=
  leads.keepsNumbered numbered Holds.change (fun kept => ⟨kept.found⟩) holds

/-- The end of an access that renews an entry: it answers as if nothing had happened to the entry
since the access began, and no deletion scheduled before does anything any more. -/
structure Renews (booking : Booking V) (old : Option (Lease V)) (deadline : Int)
    (result : Reply V × System V) : Prop where
  answer : result.1 = booking.answer old
  entry : ∃ lease, result.2.lease? booking.cache booking.key = some lease ∧
    booking.value? old = some lease.value ∧ lease.ttl = booking.ttl ∧
    lease.deadline = deadline ∧ lease.generation = booking.generation
  outdated : ∀ generation < booking.generation,
    result.2.IsOutdated booking.cache booking.key generation

theorem Numbered.renews (numbered : system.Numbered) (held : booking ∈ system.bookings)
    (found : system.cache? booking.cache = some cache) {host : Scheduler (Work V)}
    (hosted : system.scheduler? cache.scheduler = some host) (running : host.isStopped = false)
    {deadline : Int} (reached : booking.deadline = some deadline) :
    Renews booking (cache.lease? booking.key) deadline (system.confirm booking) := by
  have listed := mem_holders_iff.2 ⟨held, rfl⟩
  have own := numbered.caches found
  have confirms := confirms_resolve found (own.reads booking listed)
  have change : Change system ((system.resolve booking).2.unlock booking) := .confirm held
  rw [confirm]
  generalize system.resolve booking = result at confirms change
  cases confirms with
  | declined _ refused =>
      rcases refused with never | stopped
      · cases reached.symm.trans never
      · rw [stopped host hosted] at running
        cases running
  | @fulfilled host filled task deadline value stored given _ _ valued gains =>
      cases reached.symm.trans given
      have kept : ((system.putCache booking.cache stored).putScheduler cache.scheduler
          (filled.relieve (cache.lease? booking.key))).cache? booking.cache = some stored :=
        cache?_putCache_self found stored
      have present := (gains.lease? booking.key).trans (if_pos rfl)
      refine ⟨rfl, ⟨⟨value, booking.ttl, task, booking.generation, deadline⟩,
        ?_, valued, rfl, rfl, rfl⟩, ?_⟩
      · rw [lease?_sweep]
        exact (lease?_of_found kept booking.key).trans present
      · intro generation earlier
        have outgrows : (((system.putCache booking.cache stored).putScheduler cache.scheduler
            (filled.relieve (cache.lease? booking.key))).unlock booking).Outgrows (fun _ => False)
              booking.cache booking.key generation := by
          refine ⟨stored, kept, ?_, ?_, ?_⟩
          · rw [gains.generation]
            exact Nat.le_trans (Nat.le_of_lt earlier) (own.booked booking listed).2
          · intro other joined same
            rw [holders_unlock_self, List.mem_filter, decide_eq_true_eq] at joined
            exact absurd same (own.apart other joined.1 booking listed joined.2).1
          · intro lease seen
            cases present.symm.trans seen
            exact .inr earlier
        have after := numbered.change change
        exact (outgrows.changes after (changes_sweep _)).isOutdated
          (after.changes (changes_sweep _))

/-- A deletion that was not cancelled waits in the queue, or is in progress. -/
inductive Scheduled (system : System V) (id : CacheId) (key : String) (generation : Nat) :
    Prop where
  | queued {place : SchedulerId} {host : Scheduler (Work V)} {entry : Entry (Work V)} :
      system.scheduler? place = some host → entry ∈ host.queue.toList →
      entry.work = .deletion id key generation → host.roster.fate? entry.id = some .pending →
      Scheduled system id key generation
  | running {place : SchedulerId} {host : Scheduler (Work V)} {task : TaskId} :
      system.scheduler? place = some host →
      host.worker = .busy task (.deletion id key generation) → Scheduled system id key generation

structure Begins (system locked : System V) (id : CacheId) (cache : Cache V) (key : String)
    (access : Access V) (booking : Booking V) : Prop where
  asked : booking.cache = id ∧ booking.key = key ∧ booking.access = access
  fresh : booking.generation = system.handedOut id + 1 ∧ locked.handedOut id = booking.generation
  clock : booking.deadline = booking.ttl.after? system.now
  /-- A deletion that begins in the meantime waits, and removes nothing. -/
  spares : ∀ {later moved : System V} {place : SchedulerId} {key : String} {generation : Nat},
    booking ∈ later.bookings → later.Deletes moved place id key generation →
      ∀ other name, moved.lease? other name = later.lease? other name
  renews : ∀ {later : System V} {host : Scheduler (Work V)} {deadline : Int},
    Leads locked later → booking ∈ later.bookings →
    later.scheduler? cache.scheduler = some host → host.isStopped = false →
    booking.deadline = some deadline →
      Renews booking (cache.lease? booking.key) deadline (later.confirm booking)
  /-- An access whose deletion is refused leaves all entries and their deletions as they are. -/
  fails : ∀ {later : System V}, Leads locked later → booking ∈ later.bookings →
    (booking.deadline = none ∨ ∃ host, later.scheduler? cache.scheduler = some host ∧
      host.isStopped = true) →
      ∀ other name, (later.confirm booking).2.lease? other name = later.lease? other name

/-- Entries are removed by their own deletions only, and at their own time. -/
structure Punctual (system : System V) : Prop where
  /-- What a deletion removes is the entry that the last successful access has left, at the deadline
  that this access has set, or later. -/
  removal : ∀ {moved place id key generation}, system.Deletes moved place id key generation →
    system.Removal moved id key generation ∧
      ∀ {lease}, system.lease? id key = some lease → lease.generation = generation →
        lease.deadline ≤ system.now ∧ system.Dated id key lease
  scheduled : ∀ {id key generation}, system.Scheduled id key generation →
    generation ≤ system.handedOut id
  begins : ∀ {locked id cache key access booking}, system.cache? id = some cache →
    system.isAccessible id key access = true →
    system.book id cache key access = .ok (booking, locked) →
      Begins system locked id cache key access booking
  deletes : ∀ {id cache key}, system.cache? id = some cache → system.isUnlocked id = true →
    ∀ generation ≤ system.handedOut id,
      (system.delete id cache key).2.IsOutdated id key generation
  /-- As long as a key is absent and nobody is about to add it, no deletion that was scheduled for
  it is a danger to what will be added. -/
  absent : ∀ {id cache key}, system.cache? id = some cache → cache.lease? key = none →
    (∀ booking ∈ system.holders id, booking.key ≠ key) →
    ∀ generation ≤ system.handedOut id, system.IsOutdated id key generation
  distinct : ∀ {after later last id first second}, Step system after →
    HandsOut system after id first → Leads after later → Step later last →
    HandsOut later last id second → first < second

theorem Removal.of_held (removal : system.Removal moved id key generation)
    (held : booking ∈ system.holders id) (other : CacheId) (name : String) :
    moved.lease? other name = system.lease? other name := by
  cases removal with
  | spared _ same => exact same other name
  | removed unlocked _ _ _ =>
      rw [holders_of_isUnlocked unlocked] at held
      cases held

theorem Linked.scheduled (linked : system.Linked) (scheduled : system.Scheduled id key generation) :
    generation ≤ system.handedOut id := by
  cases scheduled with
  | queued hosted listed work pending =>
      obtain ⟨cache, found, _, links⟩ := linked.links_of_serves hosted
        ((linked.serves hosted).queued _ listed) (congrArg Work.cache? work)
      obtain ⟨lease, present, same⟩ := links.pending listed work pending
      rw [same] at work
      cases work
      rw [handedOut_of_found found]
      exact ((linked.numbered.caches found).stored present).2
  | running hosted busy =>
      obtain ⟨cache, found, _, links⟩ :=
        linked.links_of_serves hosted ((linked.serves hosted).busy busy) rfl
      rw [handedOut_of_found found]
      exact (links.running busy).1

/-- A deletion begins when its entry has reached its deadline. -/
theorem Linked.due (linked : system.Linked) {place : SchedulerId}
    (deletes : system.Deletes moved place id key generation) {lease : Lease V}
    (stored : system.lease? id key = some lease) (current : lease.generation = generation) :
    lease.deadline ≤ system.now := by
  obtain ⟨host, task, hosted, busy⟩ := deletes.busy
  obtain ⟨cache, found, _, links⟩ :=
    linked.links_of_serves hosted ((linked.serves hosted).busy busy) rfl
  rw [lease?_of_found found] at stored
  exact ((links.running busy).2.1 lease stored current).1

theorem Numbered.isOutdated_of_absent (numbered : system.Numbered)
    (found : system.cache? id = some cache) (absent : cache.lease? key = none)
    (free : ∀ booking ∈ system.holders id, booking.key ≠ key)
    (given : generation ≤ system.handedOut id) : system.IsOutdated id key generation := by
  rw [handedOut_of_found found] at given
  refine Outgrows.isOutdated ⟨cache, found, given, ?_, ?_⟩ numbered
  · exact fun booking held own => absurd own (free booking held)
  · intro lease present
    cases absent.symm.trans present

theorem Numbered.isOutdated_of_delete (numbered : system.Numbered)
    (found : system.cache? id = some cache) (unlocked : system.isUnlocked id = true)
    (given : generation ≤ system.handedOut id) :
    (system.delete id cache key).2.IsOutdated id key generation := by
  rw [handedOut_of_found found] at given
  exact (outgrows_of_delete found unlocked given).isOutdated
    (numbered.change (.delete key found unlocked))

theorem Numbered.fails (numbered : system.Numbered) (held : booking ∈ system.bookings)
    (found : system.cache? booking.cache = some cache)
    (refused : booking.deadline = none ∨ ∃ host, system.scheduler? cache.scheduler = some host ∧
      host.isStopped = true) (other : CacheId) (name : String) :
    (system.confirm booking).2.lease? other name = system.lease? other name := by
  have listed := mem_holders_iff.2 ⟨held, rfl⟩
  have confirms := confirms_resolve found ((numbered.caches found).reads booking listed)
  rw [confirm]
  generalize system.resolve booking = result at confirms
  cases confirms with
  | declined resembles _ =>
      refine (lease?_sweep _ other name).trans ?_
      refine (lease?_putCache found _ other name).trans ?_
      split
      · rename_i own
        rw [own, lease?_of_found found, resembles.lease?]
      · rfl
  | fulfilled reached hosted accepted _ _ =>
      rcases refused with never | ⟨host, same, stopped⟩
      · cases reached.symm.trans never
      · cases hosted.symm.trans same
        rw [Scheduler.submit?, if_pos stopped] at accepted
        cases accepted

theorem Reachable.begins (reachable : Reachable system) {locked : System V} {access : Access V}
    (found : system.cache? id = some cache) (accessible : system.isAccessible id key access = true)
    (booked : system.book id cache key access = .ok (booking, locked)) :
    Begins system locked id cache key access booking := by
  have numbered : locked.Numbered := reachable.numbered.change (.book found accessible booked)
  have holds := holds_of_book found accessible booked
  obtain ⟨books, own, same⟩ := books_of_book accessible booked
  have advanced : locked.cache? id = some cache.advance := by
    rw [same]
    exact cache?_putCache_self found _
  have asked : booking.cache = id ∧ booking.key = key ∧ booking.access = access := by
    obtain ⟨_, _, rfl, _⟩ := eq_of_book booked
    exact ⟨rfl, rfl, rfl⟩
  constructor
  · exact asked
  · rw [handedOut_of_found found, handedOut_of_found advanced]
    exact ⟨books.generation, books.generation.symm⟩
  · exact books.deadline
  · intro later moved place key generation held deletes
    exact deletes.removal.of_held (mem_holders_iff.2 ⟨held, own⟩)
  · intro later host deadline leads held hosted running reached
    obtain ⟨numbered, holds⟩ := holds.leads numbered leads
    obtain ⟨changed, present, place, _, kept⟩ := holds.found
    rw [← kept held booking.key fun _ => rfl]
    rw [← place] at hosted
    exact numbered.renews held present hosted running reached
  · intro later leads held refused
    obtain ⟨numbered, holds⟩ := holds.leads numbered leads
    obtain ⟨changed, present, place, _, _⟩ := holds.found
    rw [← place] at refused
    exact numbered.fails held present refused

/-- In every reachable system, however accesses, deletions and the clock may come in between each
other, no entry is removed by a deletion other than its own, or before its deadline. -/
theorem Reachable.punctual (reachable : Reachable system) : system.Punctual := by
  have linked := reachable.linked
  have numbered := reachable.numbered
  constructor
  · intro moved place id key generation deletes
    refine ⟨deletes.removal, fun {lease} stored current => ⟨linked.due deletes stored current, ?_⟩⟩
    obtain ⟨cache, found, present⟩ := Option.bind_eq_some_iff.1 stored
    exact reachable.dated found present
  · exact fun scheduled => linked.scheduled scheduled
  · exact fun found accessible booked => reachable.begins found accessible booked
  · exact fun found unlocked _ given => numbered.isOutdated_of_delete found unlocked given
  · exact fun found absent free _ given => numbered.isOutdated_of_absent found absent free given
  · intro after later last id first second step handsOut leads _ again
    have bound := leads.handedOut_le (reachable.step step).numbered id
    exact Nat.lt_of_le_of_lt (Nat.le_trans handsOut.2 bound) again.1

/-- A worker that is not in the middle of a task takes no lock and lets go of none. -/
theorem bookings_of_not_busy {place : SchedulerId} (move : system.moveWorker? place = some moved)
    (free : (system.scheduler? place).any fun host => !host.worker.isBusy) :
    moved.bookings = system.bookings := by
  obtain ⟨host, found, free⟩ := (Option.any_eq_true _ _).1 free
  rw [Bool.not_eq_true'] at free
  rw [moveWorker?, found, Option.bind_some] at move
  cases status : host.worker with
  | looking =>
      rw [status] at move
      cases move
      unfold moveLooking
      dsimp only
      split <;> rfl
  | busy task work =>
      rw [status] at free
      cases free
  | _ =>
      rw [status] at move
      obtain ⟨_, _, rfl⟩ := Option.map_eq_some_iff.1 move
      rfl

/-- A read at 5 takes so long that the deletion for 10 has begun at 12, and the entry then lives
until 15. -/
theorem punctual_of_slow_read :
    ∃ (system locked later : System Nat) (id : CacheId) (cache : Cache Nat) (lease : Lease Nat)
      (booking : Booking Nat), Reachable system ∧ system.Punctual ∧ system.now = 5 ∧
        system.book id cache "key" .read = .ok (booking, locked) ∧ Leads locked later ∧
        cache.lease? "key" = some lease ∧ lease.deadline = 10 ∧ later.now = 12 ∧
        later.isDeleting id = true ∧ Renews booking (some lease) 15 (later.confirm booking) := by
  have empty : Reachable ({} : System Nat) := .start
  have created := empty.step (.deed _ (.request (.create "main" {})))
  have stocked := created.step (.deed _ (.request (.createCacheOn "store" "main")))
  have filled := stocked.step (.deed _ (.request (.access "store" "key" (.add 7 (.span 10)))))
  generalize given : (Session.perform (Session.perform (Session.perform ({} : System Nat)
    (.request (.create "main" {}))).2 (.request (.createCacheOn "store" "main"))).2
    (.request (.access "store" "key" (.add 7 (.span 10))))).2 = start at filled
  have course : ((start.moveWorker? ⟨0⟩).bind (·.moveWorker? ⟨0⟩)).any (fun slept => decide (slept.now ≤ 5) &&
      (slept.cacheAt? "store").any fun (store : CacheId × Cache Nat) =>
        slept.isAccessible store.1 "key" .read &&
        ((store.2.lease? "key").any (·.deadline == 10) &&
        (Except.toOption ({ slept with now := 5 }.book store.1 store.2 "key" .read)).any
          fun (access : Booking Nat × System Nat) => access.1.deadline == some 15 &&
            (decide (access.2.now ≤ 12) &&
            ((access.2.scheduler? ⟨0⟩).any (fun (host : Scheduler (Work Nat)) =>
              !host.worker.isBusy) &&
            ({ access.2 with now := 12 }.moveWorker? ⟨0⟩).any fun (awake : System Nat) =>
              (awake.scheduler? ⟨0⟩).any (fun (host : Scheduler (Work Nat)) =>
                !host.worker.isBusy) &&
              (awake.moveWorker? ⟨0⟩).any fun (later : System Nat) => later.now == 12 &&
                (later.isDeleting store.1 && (later.scheduler? store.2.scheduler).any
                  fun (host : Scheduler (Work Nat)) => !host.isStopped))))) = true := by
    rw [← given]
    cbv
  obtain ⟨slept, moves, course⟩ := (Option.any_eq_true _ _).1 course
  obtain ⟨up, starts, sleeps⟩ := Option.bind_eq_some_iff.1 moves
  rw [Bool.and_eq_true, decide_eq_true_eq] at course
  obtain ⟨early, course⟩ := course
  obtain ⟨⟨id, cache⟩, located, course⟩ := (Option.any_eq_true _ _).1 course
  rw [Bool.and_eq_true, Bool.and_eq_true] at course
  obtain ⟨accessible, stored, course⟩ := course
  obtain ⟨lease, stored, deadline⟩ := (Option.any_eq_true _ _).1 stored
  obtain ⟨⟨booking, locked⟩, booked, course⟩ := (Option.any_eq_true _ _).1 course
  rw [Bool.and_eq_true, Bool.and_eq_true, Bool.and_eq_true, beq_iff_eq, decide_eq_true_eq] at course
  obtain ⟨reached, order, free, course⟩ := course
  obtain ⟨awake, wakes, course⟩ := (Option.any_eq_true _ _).1 course
  rw [Bool.and_eq_true] at course
  obtain ⟨still, course⟩ := course
  obtain ⟨later, begins, course⟩ := (Option.any_eq_true _ _).1 course
  rw [Bool.and_eq_true, Bool.and_eq_true, beq_iff_eq] at course
  obtain ⟨late, deleting, course⟩ := course
  obtain ⟨host, hosted, running⟩ := (Option.any_eq_true _ _).1 course
  rw [Bool.not_eq_true'] at running
  have accessible : { slept with now := 5 }.isAccessible id "key" .read = true := accessible
  have booked : { slept with now := 5 }.book id cache "key" .read = .ok (booking, locked) := by
    cases outcome : { slept with now := 5 }.book id cache "key" .read with
    | error reply =>
        rw [outcome] at booked
        cases booked
    | ok access =>
        rw [outcome] at booked
        cases booked
        rfl
  have reachable : Reachable { slept with now := 5 } :=
    ((filled.step (.worker starts)).step (.worker sleeps)).step (.pass early)
  have leads : Leads locked later :=
    ((Relation.ReflTransGen.single (.pass order)).tail (.worker wakes)).tail (.worker begins)
  have punctual := Reachable.punctual reachable
  have access := punctual.begins (cache?_of_cacheAt? located) accessible booked
  have held : booking ∈ later.bookings := by
    obtain ⟨_, _, same⟩ := books_of_book accessible booked
    rw [bookings_of_not_busy begins still, bookings_of_not_busy wakes free, same]
    exact List.mem_cons_self
  have renews := access.renews leads held hosted running reached
  rw [access.asked.2.1, stored] at renews
  exact ⟨_, locked, later, id, cache, lease, booking, reachable, punctual, rfl, booked, leads,
    stored, beq_iff_eq.1 deadline, late, deleting, renews⟩

end Agenda.System
