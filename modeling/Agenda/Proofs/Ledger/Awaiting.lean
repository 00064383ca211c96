import Agenda.Proofs.Deletion.Correspondence
import Agenda.Proofs.Ledger.Tallying
import Agenda.Proofs.Scheduler.Starting

/-!
# The deletion that an entry waits for

Of all the deletions that were scheduled for a key one can still remove its entry.  It is due exactly
at the entry's deadline, whether it is in the queue or has begun and waits for the lock of the cache:
the scheduler has accepted it under this due time, and the journal tells the same.
-/

namespace Agenda

universe u

variable {V : Type u}

namespace Scheduler

variable {host : Scheduler (Work V)} {now : Int} {place : CacheId} {cache : Cache V}
  {holders : List (Booking V)} {key : String} {lease : Lease V} {entry : Entry (Work V)}

/-- The scheduler has one deletion for an entry, and that is due at the entry's deadline. -/
inductive AwaitsOnce (host : Scheduler (Work V)) (place : CacheId) (key : String) (lease : Lease V) :
    Prop where
  | queued :
      host.liveDeletions place key = [lease.entry place key] →
      (∀ task, host.worker ≠ .busy task (.deletion place key lease.generation)) →
      AwaitsOnce host place key lease
  /-- The deletion has begun, and cannot be cancelled any more. -/
  | begun {time : Int} :
      host.worker = .busy lease.deletion (.deletion place key lease.generation) →
      host.Began lease.deletion lease.deadline time → host.liveDeletions place key = [] →
      AwaitsOnce host place key lease

theorem Links.awaitsOnce (links : host.Links now place cache holders) (sound : host.Sound)
    (kept : cache.dropped = false) (running : host.halted = false)
    (stored : cache.lease? key = some lease)
    (began : ∀ {work}, host.worker = .busy lease.deletion work →
      ∃ time, host.Began lease.deletion lease.deadline time) :
    host.AwaitsOnce place key lease := by
  cases links.awaited kept running stored with
  | queued held pending =>
      refine .queued (links.liveDeletions_of_pending sound stored held pending) fun task busy => ?_
      have number := ((links.running busy).2.1 lease stored rfl).2
      rw [number, sound.busy busy] at pending
      cases pending
  | running busy _ =>
      obtain rfl := ((links.running busy).2.1 lease stored rfl).2
      obtain ⟨time, began⟩ := began busy
      refine .begun busy began (List.eq_nil_iff_forall_not_mem.2 fun entry live => ?_)
      obtain ⟨other, again, _, pending⟩ := links.exists_of_live live
      cases stored.symm.trans again
      cases pending.symm.trans (sound.busy busy)

end Scheduler

namespace System

variable {system after : System V} {operation : Operation V} {place : CacheId} {cache : Cache V}
  {host : Scheduler (Work V)} {key : String} {lease : Lease V} {generation : Nat}

/-- An entry that is there after an operation was there before, or was stored in it. -/
theorem Fares.kept_or_stores (fares : Fares system operation after place key)
    (stored : after.lease? place key = some lease) :
    system.lease? place key = some lease ∨ Stores system after place key lease := by
  cases fares with
  | spared _ _ same => exact .inl (same.symm.trans stored)
  | inserted _ _ _ stores =>
      cases stores.stored.symm.trans stored
      exact .inr stores
  | overwritten _ _ _ _ stores =>
      cases stores.stored.symm.trans stored
      exact .inr stores
  | renewed _ _ _ stores _ _ _ =>
      cases stores.stored.symm.trans stored
      exact .inr stores
  | ousted _ _ _ gone => cases gone.symm.trans stored

/-- The scheduler of a cache has accepted the deletion of every entry under the entry's deadline. -/
theorem Reachable.accepted_deletions (reachable : Reachable system)
    (found : system.cache? place = some cache)
    (hosted : system.scheduler? cache.scheduler = some host) :
    ∃ now settings halted record,
      Run ⟨now, Scheduler.start settings halted⟩ record ⟨system.now, host⟩ ∧
        ∀ {key lease}, cache.lease? key = some lease →
          .accepted lease.deletion lease.deadline ∈ record := by
  induction reachable generalizing cache host with
  | start => simp [cache?] at found
  | @step before after reachable step inductionHypothesis =>
      obtain ⟨operation, does⟩ := step.exists_does
      cases earlier : before.cache? place with
      | none =>
          obtain ⟨now, settings, halted, record, run⟩ := (reachable.step step).run hosted
          refine ⟨now, settings, halted, record, run, fun {key lease} stored => ?_⟩
          rw [← lease?_of_found found] at stored
          rcases (does.fares reachable place key).kept_or_stores stored with old | stores
          · rw [lease?, earlier] at old
            cases old
          · obtain ⟨cache, present, _⟩ := stores.queued
            cases earlier.symm.trans present
      | some old =>
          obtain ⟨store, again, same⟩ := Leads.cache? (.single step) reachable.numbered earlier
          cases found.symm.trans again
          obtain ⟨first, placed, _⟩ := reachable.linked.links earlier
          obtain ⟨now, settings, halted, record, run, accepted⟩ := inductionHypothesis earlier placed
          obtain ⟨further, last, seen, onward⟩ := step.evolves.old placed
          rw [same] at hosted
          cases hosted.symm.trans seen
          have whole := run.trans onward
          refine ⟨now, settings, halted, record ++ further, whole, fun {key lease} stored => ?_⟩
          rw [← lease?_of_found found] at stored
          rcases (does.fares reachable place key).kept_or_stores stored with kept | stores
          · rw [lease?_of_found earlier] at kept
            exact List.mem_append_left _ (accepted kept)
          · obtain ⟨cache, present, queued⟩ := stores.queued
            cases earlier.symm.trans present
            rw [queued_of_found hosted] at queued
            exact (whole.chronicle (Scheduler.sound_start ..) (.empty ..)).noted _ queued

structure Expects (system : System V) (place : CacheId) (cache : Cache V)
    (host : Scheduler (Work V)) (key : String) (lease : Lease V) : Prop where
  due : host.AwaitsOnce place key lease
  /-- The deletion of the entry removes it, as soon as it gets the lock. -/
  removes : ∀ {id moved}, system.Deletes moved id place key lease.generation →
    moved.lease? place key = none
  /-- Every other deletion that has begun comes to nothing. -/
  others : ∀ {generation}, system.Scheduled place key generation → generation ≠ lease.generation →
    system.IsOutdated place key generation
  elsewhere : ∀ {id other}, system.scheduler? id = some other → id ≠ cache.scheduler →
    other.liveDeletions place key = [] ∧
      ∀ task generation, other.worker ≠ .busy task (.deletion place key generation)

theorem Deletes.lease?_of_current {moved : System V} {id : SchedulerId}
    (deletes : system.Deletes moved id place key lease.generation)
    (found : system.cache? place = some cache) (kept : cache.dropped = false)
    (stored : cache.lease? key = some lease) : moved.lease? place key = none := by
  cases deletes.removal with
  | spared reason _ =>
      rcases reason cache found with dropped | outdated
      · rw [kept] at dropped
        cases dropped
      · exact absurd rfl (outdated lease stored)
  | removed _ _ _ entries => exact (entries place key).trans (if_pos ⟨rfl, rfl⟩)

/-- A deletion that has another generation than the entry of its key is outdated. -/
theorem Linked.isOutdated_of_scheduled (linked : system.Linked)
    (found : system.cache? place = some cache) (stored : cache.lease? key = some lease)
    (scheduled : system.Scheduled place key generation) (other : generation ≠ lease.generation) :
    system.IsOutdated place key generation := by
  cases scheduled with
  | queued hosted listed work pending =>
      obtain ⟨store, again, _, links⟩ := linked.links_of_serves hosted
        ((linked.serves hosted).queued _ listed) (congrArg Work.cache? work)
      cases found.symm.trans again
      obtain ⟨current, present, rfl⟩ := links.pending listed work pending
      cases stored.symm.trans present
      cases work
      exact absurd rfl other
  | running hosted busy =>
      obtain ⟨store, again, _, links⟩ :=
        linked.links_of_serves hosted ((linked.serves hosted).busy busy) rfl
      cases found.symm.trans again
      obtain ⟨given, _, ahead⟩ := links.running busy
      have outgrows : system.Outgrows (·.generation ≠ generation) place key generation := by
        refine ⟨cache, found, given, ahead, fun current present => .inl ?_⟩
        cases stored.symm.trans present
        exact other.symm
      exact outgrows.isOutdated_of linked.numbered fun different => different

/-- In every reachable system one deletion can still remove an entry of a cache that is in use, unless
the stop signal was given, and it is due exactly at the entry's deadline. -/
theorem Reachable.expects (reachable : Reachable system) (found : system.cache? place = some cache)
    (kept : cache.dropped = false) (hosted : system.scheduler? cache.scheduler = some host)
    (running : host.halted = false) (stored : cache.lease? key = some lease) :
    Expects system place cache host key lease := by
  have linked := reachable.linked
  obtain ⟨other, again, links⟩ := linked.links found
  cases hosted.symm.trans again
  obtain ⟨now, settings, halted, record, run, accepted⟩ := reachable.accepted_deletions found hosted
  constructor
  · refine links.awaitsOnce (linked.sound hosted) kept running stored fun busy => ?_
    obtain ⟨time, _, _, began⟩ := run.exists_began busy (accepted stored)
    exact ⟨time, began⟩
  · exact fun deletes => deletes.lease?_of_current found kept stored
  · exact fun scheduled other => linked.isOutdated_of_scheduled found stored scheduled other
  · intro id target placed different
    refine ⟨linked.liveDeletions_elsewhere found placed different key, fun task generation busy => ?_⟩
    obtain ⟨store, present, own⟩ := (linked.serves placed).busy busy place rfl
    cases found.symm.trans present
    exact different own.symm

end System

end Agenda
