import Agenda.Cache.Basic
import Agenda.Proofs.Scheduler.Continuing
import Agenda.Proofs.Shelf.Harmless
import Mathlib.Data.List.Nodup

/-!
# How a scheduler tends a cache

For every entry of a cache there is one deletion that counts: the one with the entry's generation.
It is due at the entry's deadline, and it is queued and pending, or in progress because the
deadline has come.  All other deletions are outdated and do nothing.
-/

namespace Agenda

universe u

variable {V : Type u}

def Lease.entry (lease : Lease V) (id : CacheId) (key : String) : Entry (Work V) :=
  ⟨lease.deadline, lease.deletion, .deletion id key lease.generation⟩

namespace Scheduler

inductive Awaits (scheduler : Scheduler (Work V)) (now : Int) (id : CacheId) (key : String)
    (lease : Lease V) : Prop where
  | queued :
      lease.entry id key ∈ scheduler.queue.toList →
      scheduler.roster.fate? lease.deletion = some .pending → Awaits scheduler now id key lease
  | running {task : TaskId} :
      scheduler.worker = .busy task (.deletion id key lease.generation) →
      lease.deadline ≤ now → Awaits scheduler now id key lease

/-- The deletions that a scheduler has for a cache fit the entries of the cache. -/
structure Tends (scheduler : Scheduler (Work V)) (now : Int) (id : CacheId) (cache : Cache V) :
    Prop where
  awaited : ∀ {key lease}, cache.lease? key = some lease → scheduler.Awaits now id key lease
  queued : ∀ {due task key generation},
    (⟨due, task, .deletion id key generation⟩ : Entry (Work V)) ∈ scheduler.queue.toList →
      generation ≤ cache.generation ∧ ∀ lease, cache.lease? key = some lease →
        lease.generation = generation → due = lease.deadline
  running : ∀ {task key generation},
    scheduler.worker = .busy task (.deletion id key generation) →
      generation ≤ cache.generation ∧ ∀ lease, cache.lease? key = some lease →
        lease.generation = generation → lease.deadline ≤ now

namespace Tends

variable {before after : Scheduler (Work V)} {now : Int} {id : CacheId} {cache : Cache V}

/-- Only the queue, the fates and the deletion in progress matter. -/
theorem congr (tends : before.Tends now id cache) (queue : after.queue = before.queue)
    (roster : after.roster = before.roster)
    (worker : ∀ task key generation, after.worker = .busy task (.deletion id key generation) ↔
      before.worker = .busy task (.deletion id key generation)) : after.Tends now id cache := by
  constructor
  · intro key lease found
    cases tends.awaited found with
    | queued held pending => exact .queued (queue ▸ held) (roster ▸ pending)
    | running busy reached => exact .running ((worker _ _ _).2 busy) reached
  · intro due task key generation held
    rw [queue] at held
    exact tends.queued held
  · intro task key generation busy
    exact tends.running ((worker _ _ _).1 busy)

/-- Where no deletion from the cache is in progress, the worker does not matter. -/
theorem undisturbed (tends : before.Tends now id cache) (queue : after.queue = before.queue)
    (roster : after.roster = before.roster)
    (first : ∀ task key generation, before.worker ≠ .busy task (.deletion id key generation))
    (last : ∀ task key generation, after.worker ≠ .busy task (.deletion id key generation)) :
    after.Tends now id cache := by
  apply tends.congr queue roster
  intro task key generation
  exact iff_of_false (last task key generation) (first task key generation)

theorem later (tends : before.Tends now id cache) {later : Int} (order : now ≤ later) :
    before.Tends later id cache := by
  refine ⟨?_, tends.queued, ?_⟩
  · intro key lease found
    cases tends.awaited found with
    | queued held pending => exact .queued held pending
    | running busy reached => exact .running busy (Int.le_trans reached order)
  · intro task key generation busy
    obtain ⟨known, current⟩ := tends.running busy
    exact ⟨known, fun lease found same => Int.le_trans (current lease found same) order⟩

theorem accept (tends : before.Tends now id cache) (due : Int) {work : Work V}
    (other : work.cache? ≠ some id) : (before.accept due work).Tends now id cache := by
  refine ⟨?_, ?_, tends.running⟩
  · intro key lease found
    cases tends.awaited found with
    | queued held pending =>
        refine .queued (Heap.mem_insert_iff.2 (.inr held)) ?_
        exact Roster.fate?_accept_of_some pending
    | running busy reached => exact .running busy reached
  · intro due task key generation held
    rcases Heap.mem_insert_iff.1 held with new | old
    · cases new
      exact absurd rfl other
    · exact tends.queued old

theorem submit (tends : before.Tends now id cache) {due : Int} {work : Work V} {task : TaskId}
    (accepted : before.submit? due work = some (task, after)) (other : work.cache? ≠ some id) :
    after.Tends now id cache := by
  obtain ⟨_, _, ready, interrupt, journal, rfl⟩ := eq_of_submit? accepted
  exact (tends.accept due other).congr rfl rfl fun _ _ _ => .rfl

theorem cancel (tends : before.Tends now id cache) {task : TaskId}
    (other : ∀ {key lease}, cache.lease? key = some lease →
      lease.entry id key ∈ before.queue.toList → lease.deletion ≠ task) :
    (before.cancel task).2.Tends now id cache := by
  constructor
  · intro key lease found
    cases tends.awaited found with
    | queued held pending =>
        refine .queued ?_ ?_
        · rw [queue_cancel]
          exact held
        · rw [roster_cancel, Roster.fate?_resolve_of_ne _ (other found held)]
          exact pending
    | running busy reached =>
        exact .running ((worker_cancel ..).trans busy) reached
  · intro due removed key generation held
    rw [queue_cancel] at held
    exact tends.queued held
  · intro running key generation busy
    rw [worker_cancel] at busy
    exact tends.running busy

theorem discard (tends : before.Tends now id cache) {head : Entry (Work V)}
    {rest : TaskQueue (Work V)} (popped : before.queue.pop? = some (head, rest))
    (resolved : before.roster.fate? head.id ≠ some .pending) :
    (before.discard head.id rest).Tends now id cache := by
  constructor
  · intro key lease found
    cases tends.awaited found with
    | queued held pending =>
        refine .queued ?_ ?_
        · rw [queue_discard]
          rcases (Heap.mem_iff_of_pop? popped).1 held with first | later
          · rw [← first] at resolved
            exact absurd pending resolved
          · exact later
        · rw [roster_discard]
          exact pending
    | running busy reached =>
        exact .running ((worker_discard ..).trans busy) reached
  · intro due task key generation held
    rw [queue_discard] at held
    exact tends.queued (Stored.mem_of_pop? popped held)
  · intro task key generation busy
    rw [worker_discard] at busy
    exact tends.running busy

theorem begin (tends : before.Tends now id cache) (sound : before.Sound)
    (looking : before.worker = .looking) {head : Entry (Work V)} {rest : TaskQueue (Work V)}
    (popped : before.queue.pop? = some (head, rest)) (due : head.due ≤ now) :
    (before.begin head rest now).Tends now id cache := by
  have apart := (sound.stored.tail popped).2.2
  constructor
  · intro key lease found
    cases tends.awaited found with
    | queued held pending =>
        rcases (Heap.mem_iff_of_pop? popped).1 held with first | later
        · rw [← first] at due ⊢
          exact .running rfl due
        · refine .queued later ?_
          refine (Roster.fate?_resolve_of_ne _ ?_ _).trans pending
          exact apart _ later
    | running busy _ => cases looking.symm.trans busy
  · intro due task key generation held
    exact tends.queued (Stored.mem_of_pop? popped held)
  · intro task key generation busy
    obtain ⟨headDue, headId, work⟩ := head
    cases busy
    obtain ⟨known, current⟩ := tends.queued (Stored.head_mem popped)
    refine ⟨known, fun lease found same => ?_⟩
    rw [← current lease found same]
    exact due

/-- Whatever the worker chooses to do, the cache is tended. -/
theorem choose (tends : before.Tends now id cache) (sound : before.Sound)
    (looking : before.worker = .looking) (chosen : Chooses now before after) :
    after.Tends now id cache := by
  induction chosen with
  | @exit scheduler vacant stopped =>
      refine tends.congr ?_ ?_ fun task key generation => ?_
      · rfl
      · rfl
      · simp [looking, note]
  | @idle scheduler vacant stopped =>
      refine tends.congr ?_ ?_ fun task key generation => ?_
      · rfl
      · rfl
      · simp [looking]
  | @sleep scheduler head rest popped pending early =>
      refine tends.congr ?_ ?_ fun task key generation => ?_
      · rfl
      · rfl
      · simp [looking]
  | begin popped pending due => exact tends.begin sound looking popped due
  | discard popped resolved _ inductionHypothesis =>
      exact inductionHypothesis (tends.discard popped resolved)
        (sound.discard looking popped resolved) (by simpa using looking)

/-- Fewer entries are tended all the more, and generations may be handed out in vain. -/
theorem fewer (tends : before.Tends now id cache) {fewer : Cache V}
    (generation : cache.generation ≤ fewer.generation)
    (leases : ∀ {key lease}, fewer.lease? key = some lease → cache.lease? key = some lease) :
    before.Tends now id fewer := by
  refine ⟨fun found => tends.awaited (leases found), ?_, ?_⟩
  · intro due task key known held
    obtain ⟨bound, current⟩ := tends.queued held
    exact ⟨Nat.le_trans bound generation, fun lease found => current lease (leases found)⟩
  · intro task key known busy
    obtain ⟨bound, current⟩ := tends.running busy
    exact ⟨Nat.le_trans bound generation, fun lease found => current lease (leases found)⟩

theorem expire (tends : before.Tends now id cache) {task : TaskId} {key : String}
    {generation : Nat} (busy : before.worker = .busy task (.deletion id key generation))
    (queue : after.queue = before.queue) (roster : after.roster = before.roster)
    (past : after.worker = .looking) : after.Tends now id (cache.expire key generation) := by
  have kept {other : String} {lease : Lease V}
      (found : (cache.expire key generation).lease? other = some lease) :
      cache.lease? other = some lease ∧ ¬ (other = key ∧ lease.generation = generation) := by
    rw [Cache.lease?_expire] at found
    split at found
    · rename_i same
      obtain ⟨found, outdated⟩ := Option.filter_eq_some_iff.1 found
      rw [same]
      exact ⟨found, fun both => by simp [both.2] at outdated⟩
    · rename_i different
      exact ⟨found, fun both => different both.1⟩
  refine ⟨?_, ?_, ?_⟩
  · intro other lease found
    obtain ⟨found, outdated⟩ := kept found
    cases tends.awaited found with
    | queued held pending => exact .queued (queue ▸ held) (roster ▸ pending)
    | running running reached =>
        cases busy.symm.trans running
        exact absurd ⟨rfl, rfl⟩ outdated
  · intro due queued other known held
    rw [queue] at held
    obtain ⟨bound, current⟩ := tends.queued held
    rw [Cache.generation_expire]
    exact ⟨bound, fun lease found => current lease (kept found).1⟩
  · intro running other known busy
    cases past.symm.trans busy

/-- When nothing is in progress, the deletion of an entry is queued. -/
theorem held (tends : before.Tends now id cache) (free : before.worker.isBusy = false)
    {key : String} {lease : Lease V} (found : cache.lease? key = some lease) :
    lease.entry id key ∈ before.queue.toList ∧
      before.roster.fate? lease.deletion = some .pending := by
  cases tends.awaited found with
  | queued held pending => exact ⟨held, pending⟩
  | running busy _ => simp [busy, Worker.isBusy] at free

theorem store (tends : before.Tends now id cache) (free : before.worker.isBusy = false)
    {key : String} {lease : Lease V} (deletion : lease.deletion = before.roster.nextId)
    (generation : lease.generation = cache.generation + 1) {stored : Cache V}
    (leases : ∀ other, stored.lease? other
      = if other = key then some lease else cache.lease? other)
    (advanced : stored.generation = cache.generation + 1) :
    (before.accept lease.deadline (.deletion id key lease.generation)).Tends now id stored := by
  refine ⟨?_, ?_, ?_⟩
  · intro other found known
    rw [leases] at known
    split at known
    · rename_i same
      cases known
      rw [same]
      refine .queued ?_ ?_
      · rw [Lease.entry, deletion]
        exact Heap.mem_insert_iff.2 (.inl rfl)
      · rw [deletion]
        exact (Roster.fate?_accept ..).trans (if_pos rfl)
    · obtain ⟨held, pending⟩ := tends.held free known
      refine .queued (Heap.mem_insert_iff.2 (.inr held)) ?_
      exact Roster.fate?_accept_of_some pending
  · intro due task other known held
    rcases Heap.mem_insert_iff.1 held with new | old
    · cases new
      refine ⟨by omega, ?_⟩
      intro found known _
      rw [leases, if_pos rfl] at known
      cases known
      rfl
    · obtain ⟨bound, current⟩ := tends.queued old
      refine ⟨by omega, ?_⟩
      intro found known same
      rw [leases] at known
      split at known
      · cases known
        omega
      · exact current found known same
  · intro task other known busy
    have none : before.worker = .busy task (.deletion id other known) := busy
    simp [none, Worker.isBusy] at free

end Tends

theorem Sound.eq_of_id_eq {scheduler : Scheduler (Work V)} (sound : scheduler.Sound)
    {first second : Entry (Work V)} (held : first ∈ scheduler.queue.toList)
    (other : second ∈ scheduler.queue.toList) (same : first.id = second.id) : first = second :=
  List.inj_on_of_nodup_map sound.stored.distinct held other same

end Scheduler

end Agenda
