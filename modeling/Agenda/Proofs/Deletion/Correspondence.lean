import Mathlib
import Agenda.Proofs.Deletion.Dating
import Agenda.Proofs.Deletion.Linking

/-!
# Every entry has one deletion, and every pending deletion an entry

This holds of a cache on a scheduler without stop signal whenever none of its deletions is in
progress: also while an access holds the lock, while the worker is in the middle of another task,
and while a scheduler that was shut down is still draining.
-/

namespace Agenda

universe u

variable {V : Type u}

def Work.deletes (id : CacheId) (key : String) : Work V → Bool
  | .task _ _ _ => false
  | .deletion cache name _ => cache = id && name = key

theorem Work.deletes_iff {id : CacheId} {key : String} {work : Work V} :
    work.deletes id key = true ↔ ∃ generation, work = .deletion id key generation := by
  cases work with
  | task label handle script => simp [Work.deletes]
  | deletion cache name generation =>
      simp only [Work.deletes, Bool.and_eq_true, decide_eq_true_eq]
      constructor
      · rintro ⟨rfl, rfl⟩
        exact ⟨generation, rfl⟩
      · rintro ⟨_, same⟩
        cases same
        exact ⟨rfl, rfl⟩

namespace Scheduler

/-- The queued deletions of the key from the cache that were not cancelled. -/
def liveDeletions (scheduler : Scheduler (Work V)) (id : CacheId) (key : String) :
    List (Entry (Work V)) :=
  scheduler.queue.toList.filter fun entry =>
    entry.work.deletes id key && scheduler.roster.isPending entry.id

variable {scheduler : Scheduler (Work V)} {id : CacheId} {key : String} {entry : Entry (Work V)}

theorem mem_liveDeletions_iff : entry ∈ scheduler.liveDeletions id key ↔
    entry ∈ scheduler.queue.toList ∧ (∃ generation, entry.work = .deletion id key generation) ∧
      scheduler.roster.fate? entry.id = some .pending := by
  rw [liveDeletions, List.mem_filter, Bool.and_eq_true, Work.deletes_iff, Roster.isPending_iff]

theorem Sound.filter_queue (sound : scheduler.Sound) {kind : Entry (Work V) → Bool}
    (only : ∀ other, other ∈ scheduler.queue.toList ∧ kind other = true ↔ other = entry) :
    scheduler.queue.toList.filter kind = [entry] := by
  have distinct : scheduler.queue.toList.Nodup := .of_map Entry.id sound.stored.distinct
  rw [← List.perm_singleton,
    List.perm_ext_iff_of_nodup (distinct.filter _) (List.nodup_singleton _)]
  intro other
  rw [List.mem_filter, List.mem_singleton]
  exact only other

variable {now : Int} {cache : Cache V} {holders : List (Booking V)} {lease : Lease V}

/-- A deletion that is queued and was not cancelled is that of an entry. -/
theorem Links.exists_of_live (links : scheduler.Links now id cache holders)
    (live : entry ∈ scheduler.liveDeletions id key) : ∃ lease, cache.lease? key = some lease ∧
      entry = lease.entry id key ∧ scheduler.roster.fate? lease.deletion = some .pending := by
  obtain ⟨listed, ⟨generation, work⟩, pending⟩ := mem_liveDeletions_iff.1 live
  obtain ⟨lease, stored, rfl⟩ := links.pending listed work pending
  exact ⟨lease, stored, rfl, pending⟩

theorem Links.liveDeletions_of_pending (links : scheduler.Links now id cache holders)
    (sound : scheduler.Sound) (stored : cache.lease? key = some lease)
    (held : lease.entry id key ∈ scheduler.queue.toList)
    (pending : scheduler.roster.fate? lease.deletion = some .pending) :
    scheduler.liveDeletions id key = [lease.entry id key] := by
  refine sound.filter_queue fun entry => ?_
  constructor
  · rintro ⟨listed, kind⟩
    obtain ⟨other, again, same, _⟩ := links.exists_of_live (List.mem_filter.2 ⟨listed, kind⟩)
    cases stored.symm.trans again
    exact same
  · rintro rfl
    have live := mem_liveDeletions_iff.2 ⟨held, ⟨lease.generation, rfl⟩, pending⟩
    exact List.mem_filter.1 live

end Scheduler

namespace System

/-- The entries of a cache and the deletions on its scheduler correspond to each other. -/
structure Corresponds (system : System V) (id : CacheId) (cache : Cache V)
    (host : Scheduler (Work V)) : Prop where
  /-- The deletion of an entry is queued once and pending, and due when the time to live is over
  that counts from the last successful access. -/
  stored : ∀ {key lease}, cache.lease? key = some lease →
    (host.queue.toList.filter fun entry => entry.id = lease.deletion) = [lease.entry id key] ∧
      host.roster.fate? lease.deletion = some .pending ∧ system.Dated id key lease
  /-- A key has one pending deletion, that of its entry, or none if it is absent. -/
  live : ∀ key, host.liveDeletions id key =
    (cache.lease? key).toList.map fun lease => lease.entry id key
  elsewhere : ∀ {place scheduler}, system.scheduler? place = some scheduler →
    place ≠ cache.scheduler → ∀ key, scheduler.liveDeletions id key = []

variable {system : System V} {id : CacheId} {cache : Cache V} {host : Scheduler (Work V)}

theorem not_busy_of_isDeleting (none : system.isDeleting id = false) {place : SchedulerId}
    (found : system.scheduler? place = some host) {task : TaskId} {key : String}
    {generation : Nat} : host.worker ≠ .busy task (.deletion id key generation) := by
  intro busy
  have listed : host ∈ system.schedulers := Array.mem_of_getElem? found
  have some : system.isDeleting id = true := by
    rw [isDeleting, Array.any_eq_true']
    exact ⟨host, listed, by simp [busy]⟩
  rw [none] at some
  cases some

theorem Linked.liveDeletions_elsewhere (linked : system.Linked)
    (found : system.cache? id = some cache) {place : SchedulerId}
    (seen : system.scheduler? place = some host) (different : place ≠ cache.scheduler)
    (key : String) : host.liveDeletions id key = [] := by
  refine List.eq_nil_iff_forall_not_mem.2 fun entry live => ?_
  obtain ⟨listed, ⟨generation, work⟩, _⟩ := Scheduler.mem_liveDeletions_iff.1 live
  obtain ⟨other, again, own⟩ :=
    (linked.serves seen).queued entry listed id (congrArg Work.cache? work)
  cases found.symm.trans again
  exact different own.symm

theorem Linked.corresponds_of_dated (linked : system.Linked) (found : system.cache? id = some cache)
    (hosted : system.scheduler? cache.scheduler = some host) (kept : cache.dropped = false)
    (running : host.halted = false) (none : system.isDeleting id = false)
    (dated : ∀ {key lease}, cache.lease? key = some lease → system.Dated id key lease) :
    system.Corresponds id cache host := by
  obtain ⟨place, same, links⟩ := linked.links found
  cases hosted.symm.trans same
  have sound := linked.sound hosted
  have queued {key : String} {lease : Lease V} (stored : cache.lease? key = some lease) :
      lease.entry id key ∈ host.queue.toList ∧
        host.roster.fate? lease.deletion = some .pending := by
    cases links.awaited kept running stored with
    | queued held pending => exact ⟨held, pending⟩
    | running busy _ => exact absurd busy (not_busy_of_isDeleting none hosted)
  constructor
  · intro key lease stored
    obtain ⟨held, pending⟩ := queued stored
    refine ⟨sound.filter_queue fun entry => ?_, pending, dated stored⟩
    rw [decide_eq_true_eq]
    constructor
    · rintro ⟨listed, number⟩
      exact links.own stored entry listed number
    · rintro rfl
      exact ⟨held, rfl⟩
  · intro key
    cases stored : cache.lease? key with
    | none =>
        refine List.eq_nil_iff_forall_not_mem.2 fun entry live => ?_
        obtain ⟨lease, present, _⟩ := links.exists_of_live live
        cases stored.symm.trans present
    | some lease =>
        obtain ⟨held, pending⟩ := queued stored
        exact links.liveDeletions_of_pending sound stored held pending
  · exact fun seen different => linked.liveDeletions_elsewhere found seen different

/-- In every reachable system the entries of a cache that is in use and the deletions on its
scheduler correspond to each other, unless one of the deletions is in progress or the stop signal
was given. -/
theorem Reachable.corresponds (reachable : Reachable system)
    (found : system.cache? id = some cache) :
    ∃ host, system.scheduler? cache.scheduler = some host ∧
      (cache.dropped = false → host.halted = false → system.isDeleting id = false →
        system.Corresponds id cache host) := by
  obtain ⟨host, hosted, _⟩ := reachable.linked.links found
  exact ⟨host, hosted, fun kept running none =>
    reachable.linked.corresponds_of_dated found hosted kept running none (reachable.dated found)⟩

/-- A task has added an entry, has shut its scheduler down, and is still waiting. -/
theorem corresponds_while_draining :
    ∃ (system : System Nat) (cache : Cache Nat) (host : Scheduler (Work Nat)) (lease : Lease Nat),
      Reachable system ∧ system.cache? ⟨0⟩ = some cache ∧
        system.scheduler? cache.scheduler = some host ∧ host.stopped = true ∧
        host.worker.isBusy = true ∧ cache.lease? "key" = some lease ∧ lease.deadline = 50 ∧
        system.Corresponds ⟨0⟩ cache host := by
  have empty : Reachable ({} : System Nat) := .start
  have created := empty.step (.deed _ (.request (.create "main" {})))
  have stocked := created.step (.deed _ (.request (.createCacheOn "store" "main")))
  have filled := stocked.step (.deed _ (.submit "main" "filler" (.at 0)
    (.request (.access "store" "key" (.add 7 (.span 50)))
      (.part (.shutdown "main") (.wait "gate" .done)))))
  generalize given : (Session.perform (Session.perform (Session.perform ({} : System Nat)
    (.request (.create "main" {}))).2 (.request (.createCacheOn "store" "main"))).2
    (.submit "main" "filler" (.at 0) (.request (.access "store" "key" (.add 7 (.span 50)))
      (.part (.shutdown "main") (.wait "gate" .done))))).2 = start at filled
  have ends : ((((start.moveWorker? ⟨0⟩).bind (·.moveWorker? ⟨0⟩)).bind
      (·.moveWorker? ⟨0⟩)).bind (·.moveWorker? ⟨0⟩)).any (fun system => !system.isDeleting ⟨0⟩ && (system.cache? ⟨0⟩).any fun cache =>
        !cache.dropped && ((cache.lease? "key").any (·.deadline == 50) &&
          (system.scheduler? cache.scheduler).any fun host =>
            !host.halted && (host.stopped && host.worker.isBusy))) = true := by
    rw [← given]
    cbv
  obtain ⟨system, moves, shown⟩ := (Option.any_eq_true _ _).1 ends
  simp only [Option.bind_eq_some_iff] at moves
  obtain ⟨added, ⟨begun, ⟨up, starts, begins⟩, adds⟩, stops⟩ := moves
  have reachable := (((filled.step (.worker starts)).step (.worker begins)).step
    (.worker adds)).step (.worker stops)
  rw [Bool.and_eq_true, Bool.not_eq_true'] at shown
  obtain ⟨none, shown⟩ := shown
  obtain ⟨cache, found, shown⟩ := (Option.any_eq_true _ _).1 shown
  rw [Bool.and_eq_true, Bool.not_eq_true', Bool.and_eq_true] at shown
  obtain ⟨kept, stored, shown⟩ := shown
  obtain ⟨lease, stored, deadline⟩ := (Option.any_eq_true _ _).1 stored
  obtain ⟨host, hosted, corresponds⟩ := Reachable.corresponds reachable found
  rw [hosted, Option.any_some, Bool.and_eq_true, Bool.not_eq_true', Bool.and_eq_true] at shown
  obtain ⟨running, stopped, busy⟩ := shown
  exact ⟨system, cache, host, lease, reachable, found, hosted, stopped, busy, stored,
    beq_iff_eq.1 deadline, corresponds kept running none⟩

end System

end Agenda
