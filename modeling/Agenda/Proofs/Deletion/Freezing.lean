import Agenda.Proofs.Deletion.Persisting

/-!
# Caches that nobody deletes from

Once the worker of a scheduler has exited there is nobody to carry out a deletion.  What a stop signal
has left in a cache then stays there, with its values, until it is taken out by calls.
-/

namespace Agenda.System

universe u

variable {V : Type u} {system later moved : System V} {record : List (System V × Operation V)}
  {place : CacheId} {id : SchedulerId} {cache : Cache V} {host : Scheduler (Work V)} {key : String}
  {generation : Nat}

/-- A worker that has exited does not come back. -/
theorem Shut.leads_of_exited (shut : system.Shut place cache host) (reachable : Reachable system)
    (exited : host.worker = .exited) (leads : Leads system later) :
    ∃ store last, later.Shut place store last ∧ store.scheduler = cache.scheduler ∧
      last.worker = .exited ∧ last.name = host.name := by
  have sound := reachable.sound shut.hosted
  obtain ⟨vacant, stopped⟩ := sound.exited exited
  have past : host.IsOver := ⟨exited, Scheduler.toList_eq_nil_iff.2 vacant, stopped⟩
  obtain ⟨last, seen, still⟩ := leads.staysClosed shut.hosted sound past.closed
  obtain ⟨store, _, _, later, own, run⟩ := shut.leads reachable.numbered leads
  cases (own ▸ later.hosted).symm.trans seen
  exact ⟨store, last, later, own, still.exited exited, congrArg Settings.name run.settings⟩

/-- Only the worker of its own scheduler deletes from a cache. -/
theorem Reachable.not_deletes (reachable : Reachable system)
    (found : system.cache? place = some cache)
    (hosted : system.scheduler? cache.scheduler = some host) (exited : host.worker = .exited) :
    ¬ system.Deletes moved id place key generation := by
  rintro ⟨⟨other, task, seen, busy⟩, _⟩
  obtain ⟨_, again, own⟩ := (reachable.linked.serves seen).busy busy place rfl
  cases found.symm.trans again
  rw [own, seen] at hosted
  cases hosted
  cases exited.symm.trans busy

/-- What becomes of a cache after the worker of its scheduler has exited. -/
structure Freezes (system : System V) (place : CacheId) (cache : Cache V) (host : Scheduler (Work V)) :
    Prop where
  expires : ∀ {later moved id key generation}, Leads system later →
    ¬ later.Deletes moved id place key generation
  /-- However long a run is, the cache has the entries that it had at its start, without those that
  were taken out, and answers accordingly. -/
  contents : ∀ {record later}, Course system record later → ∃ store last,
    later.Shut place store last ∧ store.scheduler = cache.scheduler ∧ last.worker = .exited ∧
      last.name = host.name ∧ later.Denies place store last ∧ ∀ key,
        (∃ entry ∈ record, entry.2.Removes entry.1 place key) ∧ store.lease? key = none ∨
        (∀ entry ∈ record, ¬ entry.2.Removes entry.1 place key) ∧
          store.lease? key = cache.lease? key

theorem Reachable.freezes (reachable : Reachable system) (found : system.cache? place = some cache)
    (hosted : system.scheduler? cache.scheduler = some host) (exited : host.worker = .exited) :
    system.Freezes place cache host := by
  have shut : system.Shut place cache host :=
    ⟨found, hosted, Scheduler.isStopped_of_stopped ((reachable.sound hosted).exited exited).2⟩
  have idle {later moved : System V} {id : SchedulerId} {key : String} {generation : Nat}
      (leads : Leads system later) : ¬ later.Deletes moved id place key generation := by
    obtain ⟨_, _, still, _, past, _⟩ := shut.leads_of_exited reachable exited leads
    exact (reachable.leads leads).not_deletes still.found still.hosted past
  refine ⟨idle, fun {record later} course => ?_⟩
  obtain ⟨store, last, still, own, past, name⟩ := shut.leads_of_exited reachable exited course.leads
  refine ⟨store, last, still, own, past, name, (reachable.leads course.leads).denies still,
    fun key => ?_⟩
  rw [← lease?_of_found still.found, ← lease?_of_found found]
  cases course.outcome reachable shut key with
  | kept undeleted same => exact .inr ⟨undeleted, same⟩
  | removed listed removes gone => exact .inl ⟨⟨_, listed, removes⟩, gone⟩
  | expired _ _ before deletes _ => exact absurd deletes (idle before)

/-- A stop signal leaves two entries.  One is taken out afterwards, and the other one is still there
when its deadline has passed. -/
theorem freezes_of_cancelled_token :
    ∃ (system later : System Nat) (record : List (System Nat × Operation Nat))
      (cache store : Cache Nat) (host : Scheduler (Work Nat)) (lease : Lease Nat),
      Reachable system ∧ system.cache? ⟨0⟩ = some cache ∧
        system.scheduler? cache.scheduler = some host ∧ host.halted = true ∧
        host.worker = .exited ∧ system.Freezes ⟨0⟩ cache host ∧ Course system record later ∧
        (cache.lease? "other").isSome = true ∧ cache.lease? "key" = some lease ∧ lease.value = 7 ∧
        lease.deadline < later.now ∧ later.cache? ⟨0⟩ = some store ∧
        store.lease? "other" = none ∧ store.lease? "key" = some lease := by
  have empty : Reachable ({} : System Nat) := .start
  have created := empty.step (.deed _ (.request (.create "main" { token := .named "stop" })))
  have stocked := created.step (.deed _ (.request (.createCacheOn "store" "main")))
  have filled := stocked.step (.deed _ (.request (.access "store" "key" (.add 7 (.span 50)))))
  have both := filled.step (.deed _ (.request (.access "store" "other" (.add 8 (.span 50)))))
  have stopped := both.step (.deed _ (.request (.cancelToken "stop")))
  generalize given : (Session.perform (Session.perform (Session.perform (Session.perform
    (Session.perform ({} : System Nat) (.request (.create "main" { token := .named "stop" }))).2
      (.request (.createCacheOn "store" "main"))).2
      (.request (.access "store" "key" (.add 7 (.span 50))))).2
      (.request (.access "store" "other" (.add 8 (.span 50))))).2
      (.request (.cancelToken "stop"))).2 = start at stopped
  have reachable := stopped.leads (leads_settle start)
  have course : (start.settle.cache? ⟨0⟩).any (fun cache =>
      (start.settle.scheduler? cache.scheduler).any fun host =>
      host.halted && host.worker.isExited && (cache.lease? "other").isSome &&
      (cache.lease? "key").any fun lease => lease.value == 7 && decide (lease.deadline < 60) &&
      decide ((Session.perform start.settle (.request (.delete "store" "other"))).2.now ≤ 60) &&
      start.settle.cacheLabels["store"]? == some ⟨0⟩ && start.settle.isUnlocked ⟨0⟩) = true := by
    rw [← given]
    decide +kernel
  obtain ⟨cache, found, course⟩ := (Option.any_eq_true _ _).1 course
  obtain ⟨host, hosted, course⟩ := (Option.any_eq_true _ _).1 course
  simp only [Bool.and_eq_true] at course
  obtain ⟨⟨⟨halted, exits⟩, present⟩, course⟩ := course
  obtain ⟨lease, stored, course⟩ := (Option.any_eq_true _ _).1 course
  simp only [Bool.and_eq_true, beq_iff_eq, decide_eq_true_eq] at course
  obtain ⟨⟨⟨⟨value, due⟩, order⟩, labelled⟩, unlocked⟩ := course
  have exited := Worker.isExited_iff.1 exits
  have freezes := Reachable.freezes reachable found hosted exited
  have course := (Course.rest.step (.deed (.request (.delete "store" "other")))).step (.pass order)
  obtain ⟨store, _, ⟨again, _, _⟩, _, _, _, _, entries⟩ := freezes.contents course
  have answers := (puts_self start.settle).answers (cacheAt?_of_label labelled found)
  obtain ⟨answered, answer⟩ := Option.isSome_iff_exists.1 (answers.2.1 unlocked)
  have removes : (Operation.deed (.request (.delete "store" "other"))).Removes start.settle ⟨0⟩
      "other" := ⟨"store", answered.1, answered.2, .call answer, labelled⟩
  have gone : store.lease? "other" = none := by
    rcases entries "other" with ⟨_, gone⟩ | ⟨undeleted, _⟩
    · exact gone
    · exact absurd removes (undeleted (_, _) (List.mem_append_left _ List.mem_cons_self))
  have kept : store.lease? "key" = some lease := by
    rcases entries "key" with ⟨⟨entry, listed, _, _, _, replies, _⟩, _⟩ | ⟨_, same⟩
    · rcases List.mem_append.1 listed with deleted | passed
      · cases List.mem_singleton.1 deleted
        have demanded := replies.demanded
        simp [Operation.demand?, Session.Deed.demand] at demanded
      · cases List.mem_singleton.1 passed
        cases replies.demanded
    · exact same.trans stored
  exact ⟨_, _, _, cache, store, host, lease, reachable, found, hosted, halted, exited, freezes, course,
    present, stored, value, due, again, gone, kept⟩

/-- An entry has been left that was to live to the end of the clock.  One tick later a read of it does
not come so far as to be refused a later deletion, and neither does an endless write. -/
theorem frozen_access_overflows :
    ∃ (system after other : System Nat) (cache : Cache Nat) (host : Scheduler (Work Nat))
      (lease : Lease Nat), Reachable system ∧ system.cacheAt? "store" = some (⟨0⟩, cache) ∧
        system.scheduler? cache.scheduler = some host ∧ host.halted = true ∧
        host.worker = .exited ∧ cache.dropped = false ∧ cache.lease? "key" = some lease ∧
        cache.lease? "other" = none ∧
        system.access? "store" "key" .read = some (.overflow, after) ∧
        system.access? "store" "other" (.add 8 .endless) = some (.overflow, other) := by
  have empty : Reachable ({} : System Nat) := .start
  have created := empty.step (.deed _ (.request (.create "main" { token := .named "stop" })))
  have stocked := created.step (.deed _ (.request (.createCacheOn "store" "main")))
  have filled := stocked.step (.deed _ (.request (.access "store" "key"
    (.add 7 (.span Clock.last.toNat)))))
  have stopped := filled.step (.deed _ (.request (.cancelToken "stop")))
  generalize given : (Session.perform (Session.perform (Session.perform (Session.perform
    ({} : System Nat) (.request (.create "main" { token := .named "stop" }))).2
    (.request (.createCacheOn "store" "main"))).2
    (.request (.access "store" "key" (.add 7 (.span Clock.last.toNat))))).2
    (.request (.cancelToken "stop"))).2 = start at stopped
  have course : decide (start.settle.now ≤ 10) = true ∧
      (({ start.settle with now := 10 } : System Nat).cacheAt? "store").any (fun store =>
        decide (store.1 = ⟨0⟩) && !store.2.dropped && (store.2.lease? "key").isSome &&
        (store.2.lease? "other").isNone &&
        (start.settle.scheduler? store.2.scheduler).any fun host =>
          host.halted && host.worker.isExited) = true ∧
      (({ start.settle with now := 10 } : System Nat).access? "store" "key" .read).map Prod.fst =
        some .overflow ∧
      (({ start.settle with now := 10 } : System Nat).access? "store" "other"
        (.add 8 .endless)).map Prod.fst = some .overflow := by
    rw [← given]
    refine ⟨?_, ?_, ?_, ?_⟩
    · decide +kernel
    · decide +kernel
    · cbv
    · cbv
  obtain ⟨order, stores, reads, writes⟩ := course
  obtain ⟨⟨place, cache⟩, located, course⟩ := (Option.any_eq_true _ _).1 stores
  simp only [Bool.and_eq_true, decide_eq_true_eq, Bool.not_eq_true', Option.isNone_iff_eq_none]
    at course
  obtain ⟨⟨⟨⟨rfl, kept⟩, stored⟩, absent⟩, course⟩ := course
  obtain ⟨host, hosted, ends⟩ := (Option.any_eq_true _ _).1 course
  rw [Bool.and_eq_true] at ends
  obtain ⟨lease, stored⟩ := Option.isSome_iff_exists.1 stored
  obtain ⟨⟨_, after⟩, answered, rfl⟩ := Option.map_eq_some_iff.1 reads
  obtain ⟨⟨_, other⟩, denied, rfl⟩ := Option.map_eq_some_iff.1 writes
  exact ⟨_, after, other, cache, host, lease,
    (stopped.leads (leads_settle start)).step (.pass (of_decide_eq_true order)), located, hosted,
    ends.1, Worker.isExited_iff.1 ends.2, kept, stored, absent, answered, denied⟩

end Agenda.System
