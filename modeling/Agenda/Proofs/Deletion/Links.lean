import Agenda.Proofs.Deletion.Numbering
import Agenda.Proofs.Scheduler.Passing
import Agenda.Proofs.Shelf.Tending

/-!
# Entries and their deletions

The deletion of an entry waits in the queue until it begins at the deadline, and a pending deletion
is that of an entry.  A deletion in progress may have come too late: it carries an earlier
generation than any entry that is or will be there.
-/

namespace Agenda

universe u

variable {V : Type u}

namespace Scheduler

/-- How the tasks of a scheduler and the entries of one of its caches belong together. -/
structure Links (scheduler : Scheduler (Work V)) (now : Int) (id : CacheId) (cache : Cache V)
    (holders : List (Booking V)) : Prop where
  /-- The stop signal may keep an entry from being deleted, and so may the drop of its cache. -/
  awaited : cache.dropped = false → scheduler.halted = false →
    ∀ {key lease}, cache.lease? key = some lease → scheduler.Awaits now id key lease
  accepted : ∀ {key lease}, cache.lease? key = some lease →
    scheduler.roster.fate? lease.deletion ≠ none
  own : ∀ {key lease}, cache.lease? key = some lease → ∀ entry ∈ scheduler.queue.toList,
    entry.id = lease.deletion → entry = lease.entry id key
  pending : ∀ {entry key generation}, entry ∈ scheduler.queue.toList →
    entry.work = .deletion id key generation →
    scheduler.roster.fate? entry.id = some .pending →
      ∃ lease, cache.lease? key = some lease ∧ entry = lease.entry id key
  running : ∀ {task key generation},
    scheduler.worker = .busy task (.deletion id key generation) →
      generation ≤ cache.generation ∧
      (∀ lease, cache.lease? key = some lease → lease.generation = generation →
        lease.deadline ≤ now ∧ lease.deletion = task) ∧
      ∀ booking ∈ holders, booking.key = key → generation < booking.generation

namespace Links

variable {before after : Scheduler (Work V)} {now : Int} {id : CacheId} {cache changed : Cache V}
  {holders remaining : List (Booking V)} {key : String} {lease : Lease V}

/-- A new cache has no entries, and no deletion refers to it. -/
theorem of_empty {scheduler : Scheduler (Work V)} (leases : ∀ key, cache.lease? key = none)
    (other : scheduler.Bears fun work => work.cache? ≠ some id) :
    scheduler.Links now id cache holders := by
  have absent {key : String} {lease : Lease V} : cache.lease? key ≠ some lease := by
    rw [leases]
    nofun
  constructor
  · exact fun _ _ => fun found => absurd found absent
  · exact fun found => absurd found absent
  · exact fun found => absurd found absent
  · intro entry key generation held work _
    exact absurd (congrArg Work.cache? work) (other.queued entry held)
  · intro task key generation busy
    exact absurd rfl (other.busy busy)

/-- What leaves the deletions from a cache alone, unless the cache was dropped, keeps its links. -/
theorem passes {kind past : Work V → Prop} (links : before.Links now id cache holders)
    (sound : before.Sound) (numbered : cache.Numbered holders)
    (passes : Passes now kind past before after)
    (kinds : ∀ {work}, work.cache? = some id → kind work)
    (ends : ∀ {work}, work.cache? = some id → past work → cache.dropped = true) :
    after.Links now id cache holders := by
  constructor
  · intro kept running key lease found
    have earlier : before.halted = false := by
      rw [← Bool.not_eq_true]
      intro halted
      rw [passes.halted halted] at running
      cases running
    cases links.awaited kept earlier found with
    | queued held pending =>
        rcases passes.kept running held (kinds rfl) pending with ⟨held, pending⟩ | ⟨busy, due⟩
        · exact .queued held pending
        · exact .running busy due
    | running busy reached =>
        rcases passes.running busy (kinds rfl) with still | ended
        · exact .running still reached
        · rw [ends rfl ended] at kept
          cases kept
  · exact fun found => passes.accepted (links.accepted found)
  · intro key lease found entry held same
    rcases passes.queue held with old | ⟨_, new⟩
    · exact links.own found entry old same
    · rw [same] at new
      exact absurd new (links.accepted found)
  · intro entry key generation held work pending
    rcases passes.queue held with old | ⟨other, _⟩
    · exact links.pending old work (passes.pending (sound.stored.known old) pending)
    · exact absurd (kinds (congrArg Work.cache? work)) other
  · intro task key generation busy
    rcases passes.begun busy (kinds rfl) with already | ⟨entry, held, rfl, work, pending, due⟩
    · exact links.running already
    · obtain ⟨lease, found, same⟩ := links.pending held work pending
      rw [same] at work due
      cases work
      refine ⟨(numbered.stored found).2, ?_, ?_⟩
      · intro other seen _
        cases found.symm.trans seen
        exact ⟨due, (congrArg Entry.id same).symm⟩
      · rintro booking held rfl
        exact numbered.ahead booking held lease found

/-- What leaves the deletions from a cache alone, and ends none, keeps its links. -/
theorem aside (links : before.Links now id cache holders) (sound : before.Sound)
    (numbered : cache.Numbered holders)
    (passes : Passes now (fun work => work.cache? = some id) (fun _ => False) before after) :
    after.Links now id cache holders :=
  links.passes sound numbered passes (fun own => own) nofun

theorem later (links : before.Links now id cache holders) {later : Int} (order : now ≤ later) :
    before.Links later id cache holders := by
  refine ⟨?_, links.accepted, links.own, links.pending, ?_⟩
  · intro kept running key lease found
    cases links.awaited kept running found with
    | queued held pending => exact .queued held pending
    | running busy reached => exact .running busy (Int.le_trans reached order)
  · intro task key generation busy
    obtain ⟨bound, current, ahead⟩ := links.running busy
    refine ⟨bound, fun lease found same => ?_, ahead⟩
    obtain ⟨due, task⟩ := current lease found same
    exact ⟨Int.le_trans due order, task⟩

/-- Accesses may begin and end, and generations may be handed out in vain. -/
theorem resembles (links : before.Links now id cache holders)
    (leases : ∀ key, changed.lease? key = cache.lease? key)
    (dropped : cache.dropped = true → changed.dropped = true)
    (generation : cache.generation ≤ changed.generation)
    (joined : ∀ booking ∈ remaining, booking ∈ holders ∨ cache.generation < booking.generation) :
    before.Links now id changed remaining := by
  constructor
  · intro kept running key lease found
    rw [leases] at found
    refine links.awaited ?_ running found
    rw [← Bool.not_eq_true]
    intro gone
    rw [dropped gone] at kept
    cases kept
  · intro key lease found
    rw [leases] at found
    exact links.accepted found
  · intro key lease found
    rw [leases] at found
    exact links.own found
  · intro entry key generation held work pending
    rw [leases]
    exact links.pending held work pending
  · intro task key running busy
    obtain ⟨bound, current, ahead⟩ := links.running busy
    refine ⟨Nat.le_trans bound generation, ?_, ?_⟩
    · intro lease found same
      rw [leases] at found
      exact current lease found same
    · intro booking held own
      rcases joined booking held with old | new
      · exact ahead booking old own
      · exact Nat.lt_of_le_of_lt bound new

/-- The deletions of two entries are different tasks, as long as they are queued. -/
theorem eq_of_deletion_eq (links : before.Links now id cache holders)
    (found : cache.lease? key = some lease) {other : CacheId} {name : String} {further : Lease V}
    (held : further.entry other name ∈ before.queue.toList)
    (same : further.deletion = lease.deletion) : other = id ∧ name = key := by
  have one := links.own found _ held same
  obtain ⟨caches, keys, _⟩ := Work.deletion.inj (congrArg Entry.work one)
  exact ⟨caches, keys⟩

theorem cache?_ne_of_deletion (links : before.Links now id cache holders)
    (found : cache.lease? key = some lease) {other : CacheId} (different : other ≠ id) :
    ∀ entry ∈ before.queue.toList, entry.id = lease.deletion →
      ¬ entry.work.cache? = some other := by
  intro entry held same own
  rw [links.own found entry held same] at own
  exact different (Option.some.inj own).symm

theorem loses (links : before.Links now id cache holders) (loses : Cache.Loses key cache changed)
    (found : cache.lease? key = some lease) :
    (before.cancel lease.deletion).2.Links now id changed holders := by
  have kept {name : String} {other : Lease V} (seen : changed.lease? name = some other) :
      name ≠ key ∧ cache.lease? name = some other := by
    rw [loses.lease?] at seen
    split at seen
    · cases seen
    · rename_i different
      exact ⟨different, seen⟩
  constructor
  · intro live running name other seen
    obtain ⟨different, seen⟩ := kept seen
    rw [loses.dropped] at live
    rw [halted_cancel] at running
    cases links.awaited live running seen with
    | queued held pending =>
        refine .queued ?_ ?_
        · rw [queue_cancel]
          exact held
        · rw [roster_cancel, Roster.fate?_resolve_of_ne _ ?_]
          · exact pending
          · exact fun same => different (links.eq_of_deletion_eq found held same).2
    | running busy reached => exact .running ((worker_cancel ..).trans busy) reached
  · intro name other seen
    rw [roster_cancel]
    exact Roster.known_of_count_le (Nat.le_of_eq (Roster.count_resolve ..).symm)
      (links.accepted (kept seen).2)
  · intro name other seen
    rw [queue_cancel]
    exact links.own (kept seen).2
  · intro entry name generation held work pending
    rw [queue_cancel] at held
    rw [roster_cancel, Roster.fate?_resolve] at pending
    split at pending
    · cases pending
    · rename_i spared
      obtain ⟨other, seen, same⟩ := links.pending held work pending
      refine ⟨other, ?_, same⟩
      rw [loses.lease?, if_neg]
      · exact seen
      · rintro rfl
        cases found.symm.trans seen
        rw [same] at spared pending
        exact spared ⟨rfl, pending⟩
  · intro task name generation busy
    rw [worker_cancel] at busy
    obtain ⟨bound, current, ahead⟩ := links.running busy
    refine ⟨Nat.le_trans bound (Nat.le_of_eq loses.generation.symm), ?_, ahead⟩
    exact fun other seen => current other (kept seen).2

theorem expires (links : before.Links now id cache holders) (sound : before.Sound)
    {task : TaskId} {generation : Nat}
    (busy : before.worker = .busy task (.deletion id key generation)) :
    before.finish.Links now id (cache.expire key generation) holders := by
  have kept {name : String} {other : Lease V}
      (seen : (cache.expire key generation).lease? name = some other) :
      cache.lease? name = some other ∧ ¬ (name = key ∧ other.generation = generation) := by
    rw [Cache.lease?_expire] at seen
    split at seen
    · rename_i same
      obtain ⟨found, outdated⟩ := Option.filter_eq_some_iff.1 seen
      rw [same]
      exact ⟨found, fun both => by simp [both.2] at outdated⟩
    · rename_i different
      exact ⟨seen, fun both => different both.1⟩
  constructor
  · intro live running name other seen
    obtain ⟨seen, outdated⟩ := kept seen
    rw [cache.dropped_expire] at live
    rw [finish, halted_signalDrained] at running
    cases links.awaited live running seen with
    | queued held pending =>
        refine .queued ?_ ?_
        · rw [finish, queue_signalDrained]
          exact held
        · rw [finish, roster_signalDrained]
          exact pending
    | running same _ =>
        cases busy.symm.trans same
        exact absurd ⟨rfl, rfl⟩ outdated
  · intro name other seen
    rw [finish, roster_signalDrained]
    exact links.accepted (kept seen).1
  · intro name other seen
    rw [finish, queue_signalDrained]
    exact links.own (kept seen).1
  · intro entry name number held work pending
    rw [finish, queue_signalDrained] at held
    rw [finish, roster_signalDrained] at pending
    obtain ⟨lease, found, same⟩ := links.pending held work pending
    refine ⟨lease, ?_, same⟩
    rw [Cache.lease?_expire]
    split
    · rename_i own
      rw [own] at found
      refine Option.filter_eq_some_iff.2 ⟨found, ?_⟩
      rw [decide_eq_true_eq]
      intro current
      have number := ((links.running busy).2.1 lease found current).2
      rw [congrArg Entry.id same] at pending
      rw [show (lease.entry id name).id = task from number, sound.busy busy] at pending
      cases pending
    · exact found
  · intro other name number running
    rw [finish, worker_signalDrained] at running
    cases running

theorem gains (links : before.Links now id cache holders) (sound : before.Sound)
    (absent : cache.lease? key = none) (gains : Cache.Gains key lease cache changed)
    (deletion : lease.deletion = before.roster.nextId)
    (ahead : ∀ {task generation}, before.worker = .busy task (.deletion id key generation) →
      generation < lease.generation) :
    (before.accept lease.deadline (.deletion id key lease.generation)).Links now id changed
      holders := by
  have new : (⟨lease.deadline, before.roster.nextId, .deletion id key lease.generation⟩ :
      Entry (Work V)) = lease.entry id key := by
    rw [Lease.entry, deletion]
  constructor
  · intro live running name other seen
    rw [gains.lease?] at seen
    split at seen
    · rename_i own
      cases seen
      rw [own]
      refine .queued (Heap.mem_insert_iff.2 (.inl new.symm)) ?_
      rw [deletion]
      exact (Roster.fate?_accept ..).trans (if_pos rfl)
    · rw [gains.dropped] at live
      cases links.awaited live running seen with
      | queued held pending =>
          exact .queued (Heap.mem_insert_iff.2 (.inr held)) (Roster.fate?_accept_of_some pending)
      | running busy reached => exact .running busy reached
  · intro name other seen
    rw [gains.lease?] at seen
    split at seen
    · cases seen
      rw [deletion]
      exact ne_of_eq_of_ne ((Roster.fate?_accept ..).trans (if_pos rfl)) (Option.some_ne_none _)
    · exact Roster.known_of_count_le (Nat.le_of_lt (Nat.lt_of_succ_le
        (Nat.le_of_eq (Roster.count_accept _).symm))) (links.accepted seen)
  · intro name other seen entry held same
    rw [gains.lease?] at seen
    split at seen
    · rename_i own
      cases seen
      rcases Heap.mem_insert_iff.1 held with rfl | old
      · rw [own]
        exact new
      · exact absurd (same.trans deletion) (sound.stored.fresh old)
    · rcases Heap.mem_insert_iff.1 held with rfl | old
      · exact absurd same.symm (Roster.ne_nextId_of_known (links.accepted seen))
      · exact links.own seen entry old same
  · intro entry name generation held work pending
    rw [gains.lease?]
    rcases Heap.mem_insert_iff.1 held with rfl | old
    · cases work
      rw [if_pos rfl]
      exact ⟨lease, rfl, new⟩
    · have earlier := (Roster.fate?_accept ..).symm.trans pending
      rw [if_neg (sound.stored.fresh old)] at earlier
      obtain ⟨other, seen, same⟩ := links.pending old work earlier
      refine ⟨other, ?_, same⟩
      rw [if_neg]
      · exact seen
      · rintro rfl
        cases absent.symm.trans seen
  · intro task name generation busy
    obtain ⟨bound, current, further⟩ := links.running busy
    refine ⟨Nat.le_trans bound (Nat.le_of_eq gains.generation.symm), ?_, further⟩
    intro other seen same
    rw [gains.lease?] at seen
    split at seen
    · rename_i own
      cases seen
      rw [own] at busy
      exact absurd same (Nat.ne_of_gt (ahead busy))
    · exact current other seen same

/-- Only the queue, the fates, the worker and the stop signal matter. -/
theorem congr (links : before.Links now id cache holders) (queue : after.queue = before.queue)
    (fates : ∀ task, after.roster.fate? task = before.roster.fate? task)
    (worker : after.worker = before.worker) (halted : after.halted = before.halted) :
    after.Links now id cache holders := by
  constructor
  · intro kept running key lease found
    rw [halted] at running
    cases links.awaited kept running found with
    | queued held pending => exact .queued (queue ▸ held) ((fates _).trans pending)
    | running busy reached => exact .running (worker.trans busy) reached
  · intro key lease found
    rw [fates]
    exact links.accepted found
  · intro key lease found
    rw [queue]
    exact links.own found
  · intro entry key generation held work pending
    rw [queue] at held
    rw [fates] at pending
    exact links.pending held work pending
  · intro task key generation busy
    exact links.running (worker.symm.trans busy)

/-- An access that ends well stores an entry, and cancels the deletion of the one before. -/
theorem fulfils {filled : Scheduler (Work V)} (links : before.Links now id cache holders)
    (sound : before.Sound) (gains : Cache.Gains key lease cache changed)
    (accepted : before.submit? lease.deadline (.deletion id key lease.generation)
      = some (lease.deletion, filled))
    (ahead : ∀ {task generation}, before.worker = .busy task (.deletion id key generation) →
      generation < lease.generation) :
    (filled.relieve (cache.lease? key)).Links now id changed holders := by
  obtain ⟨_, deletion, ready, interrupt, journal, rfl⟩ := eq_of_submit? accepted
  cases found : cache.lease? key with
  | none => exact (links.gains sound found gains deletion ahead).congr rfl (fun _ => rfl) rfl rfl
  | some old =>
      -- It makes no difference whether the old deletion is cancelled first.
      have number : (before.cancel old.deletion).2.roster.nextId = before.roster.nextId := by
        rw [roster_cancel, Roster.nextId, Roster.count_resolve, Roster.nextId]
      have removed : Cache.Loses key cache (cache.remove key) :=
        ⟨rfl, rfl, rfl, cache.lease?_remove key⟩
      have regained : Cache.Gains key lease (cache.remove key) changed := by
        refine ⟨gains.scheduler, gains.dropped, gains.generation, fun other => ?_⟩
        rw [gains.lease?, cache.lease?_remove]
        split <;> rfl
      have taken := links.loses removed found
      have stored := taken.gains (sound.cancel old.deletion)
        ((cache.lease?_remove key key).trans (if_pos rfl)) regained (deletion.trans number.symm)
        fun busy => ahead ((worker_cancel ..).symm.trans busy)
      refine stored.congr ?_ ?_ ?_ ?_
      · simp only [relieve, queue_cancel, accept, number]
      · intro task
        simp only [relieve, roster_cancel, accept]
        exact Roster.fate?_resolve_accept (Roster.ne_nextId_of_known (links.accepted found)) ..
      · simp only [relieve, worker_cancel, accept]
      · simp only [relieve, halted_cancel, accept]

end Links

end Scheduler

end Agenda
