import Agenda.Proofs.Shelf.Tidy
import Agenda.Proofs.System.Booking

/-!
# Storing and taking out

An entry is stored together with its deletion.  The deletion of the entry that was there before is
cancelled, and so is that of an entry that is taken out.  This concerns no other entry.
-/

namespace Agenda

universe u

variable {V : Type u}

structure Cache.Stores (key : String) (lease : Lease V) (before after : Cache V) : Prop where
  scheduler : after.scheduler = before.scheduler
  dropped : after.dropped = before.dropped
  generation : after.generation = before.generation + 1
  lease? : ∀ other, after.lease? other = if other = key then some lease else before.lease? other

theorem Cache.Gains.stores {cache changed : Cache V} {key : String} {lease : Lease V}
    (gains : cache.advance.Gains key lease changed) : Cache.Stores key lease cache changed :=
  ⟨gains.scheduler, gains.dropped, gains.generation, gains.lease?⟩

theorem Cache.stores_store (cache : Cache V) (key : String) (lease : Lease V) :
    Cache.Stores key lease cache (cache.advance.store key lease) :=
  (System.gains_store cache.advance key lease).stores

namespace Scheduler

variable {before filled : Scheduler (Work V)} {now : Int} {id other : CacheId}
  {cache changed found : Cache V} {key : String} {lease : Lease V} {task : TaskId}

theorem Clean.relieve {token : Token} {caches : Nat} (clean : before.Clean token caches)
    (old : Option (Lease V)) : (before.relieve old).Clean token caches := by
  cases old with
  | none => exact clean
  | some old => exact clean.cancel old.deletion

theorem queued_of_submit? {due : Int} {work : Work V}
    (accepted : before.submit? due work = some (task, filled)) {entry : Entry (Work V)}
    (held : entry ∈ before.queue.toList) : entry ∈ filled.queue.toList := by
  obtain ⟨_, _, ready, interrupt, journal, rfl⟩ := eq_of_submit? accepted
  exact Heap.mem_insert_iff.2 (.inr held)

namespace Tends

/-- The deletion of an entry may be cancelled if the cache does not have the entry any more. -/
theorem release (tends : before.Tends now other found) (sound : before.Sound) {old : Lease V}
    (held : old.entry id key ∈ before.queue.toList)
    (gone : other = id → ∀ {lease}, found.lease? key = some lease →
      lease.deletion ≠ old.deletion) : (before.cancel old.deletion).2.Tends now other found := by
  apply tends.cancel
  intro name lease present queued same
  have one := sound.eq_of_id_eq queued held same
  obtain ⟨rfl, rfl, _⟩ := Work.deletion.inj (congrArg Entry.work one)
  exact gone rfl present same

theorem stores (tends : before.Tends now id cache) (free : before.worker.isBusy = false)
    (stores : Cache.Stores key lease cache changed)
    (deletion : lease.deletion = before.roster.nextId)
    (generation : lease.generation = cache.generation + 1)
    (accepted : before.submit? lease.deadline (.deletion id key lease.generation)
      = some (task, filled)) (sound : filled.Sound) :
    (filled.relieve (cache.lease? key)).Tends now id changed := by
  have tended : filled.Tends now id changed := by
    obtain ⟨_, _, ready, interrupt, journal, rfl⟩ := eq_of_submit? accepted
    exact (tends.store free deletion generation stores.lease? stores.generation).congr rfl rfl
      fun _ _ _ => .rfl
  cases present : cache.lease? key with
  | none => exact tended
  | some old =>
      obtain ⟨held, pending⟩ := tends.held free present
      apply tended.release sound (queued_of_submit? accepted held)
      intro _ stored known
      rw [stores.lease?, if_pos rfl] at known
      cases known
      rw [deletion]
      exact (Roster.ne_nextId_of_some pending).symm

theorem loses (tends : before.Tends now id cache) (free : before.worker.isBusy = false)
    (sound : before.Sound) (loses : Cache.Loses key cache changed)
    (present : cache.lease? key = some lease) :
    (before.cancel lease.deletion).2.Tends now id changed := by
  obtain ⟨held, _⟩ := tends.held free present
  have fewer : before.Tends now id changed := by
    apply tends.fewer (Nat.le_of_eq loses.generation.symm)
    intro other found known
    rw [loses.lease?] at known
    split at known
    · cases known
    · exact known
  apply fewer.release sound held
  intro _ found known
  rw [loses.lease?, if_pos rfl] at known
  cases known

theorem aside (tends : before.Tends now other found) (own : before.Tends now id cache)
    (free : before.worker.isBusy = false) (different : other ≠ id) {due : Int} {generation : Nat}
    (accepted : before.submit? due (.deletion id key generation) = some (task, filled))
    (sound : filled.Sound) : (filled.relieve (cache.lease? key)).Tends now other found := by
  have tended : filled.Tends now other found := by
    apply tends.submit accepted
    intro same
    exact different (Option.some.inj same).symm
  cases present : cache.lease? key with
  | none => exact tended
  | some old =>
      obtain ⟨held, _⟩ := own.held free present
      exact tended.release sound (queued_of_submit? accepted held)
        fun same => absurd same different

end Tends

end Scheduler

namespace System

/-- Another cache in the place of one, and another scheduler in the place of the only one. -/
def amend (system : System V) (id : CacheId) (cache : Cache V) (scheduler : Scheduler (Work V)) :
    System V :=
  { system with
    schedulers := #[scheduler]
    caches := system.caches.setIfInBounds id.index cache }

theorem Handled.relieve {system moved : System V} {before : Scheduler (Work V)}
    (handled : system.Handled before) (handles : moved.handles = system.handles)
    (old : Option (Lease V)) : moved.Handled (before.relieve old) := by
  cases old with
  | none =>
      intro handle held found
      rw [handles] at found
      exact handled handle held found
  | some old => exact handled.cancel handles old.deletion

variable {system : System V} {cache : Cache V} {deletion : TaskId}
  {scheduler filled : Scheduler (Work V)} {deadline : Int}

theorem alters_amend {id : CacheId} (found : system.cache? id = some cache) (changed : Cache V)
    (scheduler : Scheduler (Work V)) :
    Alters id changed system (system.amend id changed scheduler) :=
  ⟨rfl, rfl, rfl, Array.size_setIfInBounds, cache?_putCache_self found changed,
    fun different => cache?_putCache_of_ne system different changed⟩

theorem Hosts.amend {label : Label} (hosts : system.Hosts label scheduler) (id : CacheId)
    (changed : Cache V) (after : Scheduler (Work V)) :
    (system.amend id changed after).Hosts label after :=
  ⟨rfl, hosts.label, hosts.calls⟩

theorem resolve_of_submit? {booking : Booking V} (reached : booking.deadline = some deadline)
    (found : system.cache? booking.cache = some cache)
    (hosted : system.scheduler? cache.scheduler = some scheduler)
    (accepted : scheduler.submit? deadline
      (.deletion booking.cache booking.key booking.generation) = some (deletion, filled)) :
    system.resolve booking
      = (system.putScheduler cache.scheduler filled).fulfil booking cache deletion deadline := by
  have submitted : system.submit? cache.scheduler deadline
      (.deletion booking.cache booking.key booking.generation)
        = some (deletion, system.putScheduler cache.scheduler filled) := by
    rw [submit?_of_found hosted, accepted]
    rfl
  simp only [resolve, reached, found, hosted, submitted]

theorem found_of_only (only : system.schedulers = #[scheduler]) (place : cache.scheduler = ⟨0⟩) :
    system.scheduler? cache.scheduler = some scheduler := by
  rw [place, scheduler?, only]
  rfl

theorem putScheduler_putCache_of_only (only : system.schedulers = #[scheduler]) (id : CacheId)
    (changed : Cache V) (after : Scheduler (Work V)) :
    (system.putCache id changed).putScheduler ⟨0⟩ after = system.amend id changed after := by
  simp [putScheduler, putCache, amend, only]

theorem extend_eq (only : system.schedulers = #[scheduler]) (place : cache.scheduler = ⟨0⟩)
    (booking : Booking V) (old : Lease V) (deletion : TaskId) (deadline : Int) : ∃ changed,
      Cache.Stores booking.key { old with deletion, deadline, generation := booking.generation }
        cache changed ∧
      system.extend booking cache.advance old deletion deadline
        = system.amend booking.cache changed (scheduler.cancel old.deletion).2 := by
  have own : cache.advance.scheduler = ⟨0⟩ := place
  obtain ⟨changed, gains, extended⟩ :=
    extend_eq_relieve (found_of_only only own) booking old deletion deadline
  rw [own, putScheduler_putCache_of_only only] at extended
  exact ⟨changed, gains.stores, extended⟩

theorem delete_eq (only : system.schedulers = #[scheduler]) (place : cache.scheduler = ⟨0⟩)
    (id : CacheId) {key : String} {old : Lease V} (present : cache.lease? key = some old) :
    ∃ changed, Cache.Loses key cache changed ∧ system.delete id cache key
      = (.found (some old.value), system.amend id changed (scheduler.cancel old.deletion).2) := by
  obtain ⟨changed, loses, deleted⟩ := delete_eq_loses system id present
  rw [cancelTask_of_found (found_of_only only place), place] at deleted
  refine ⟨changed, loses, deleted.trans ?_⟩
  rw [← putScheduler_putCache_of_only only]
  rfl

theorem replace_eq (only : system.schedulers = #[scheduler]) (place : cache.scheduler = ⟨0⟩)
    (booking : Booking V) (value : V) (deletion : TaskId) (deadline : Int) :
    system.replace booking cache.advance value deletion deadline
      = ((cache.lease? booking.key).map Lease.value,
          system.amend booking.cache (cache.advance.store booking.key
            ⟨value, booking.ttl, deletion, booking.generation, deadline⟩)
            (scheduler.relieve (cache.lease? booking.key))) := by
  have own : cache.advance.scheduler = ⟨0⟩ := place
  rw [replace_eq_relieve (found_of_only only own), own, putScheduler_putCache_of_only only]
  rfl

end System

end Agenda
