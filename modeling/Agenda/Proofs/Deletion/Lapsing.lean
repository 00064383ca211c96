import Agenda.Proofs.Deletion.Persisting

/-!
# Caches on a scheduler that is shutting down

A scheduler that was stopped takes no deletion, but as long as it drains it carries out those that it
has.  So an entry stays until the deadline that it had at the stop, however often it is read, and goes
as soon as the worker gets to it then.
-/

namespace Agenda.System

universe u

variable {V : Type u} {system later : System V} {place : CacheId} {id : SchedulerId}
  {cache : Cache V} {host : Scheduler (Work V)} {task : TaskId} {key : String} {lease : Lease V}

/-- A deletion in progress that finds the lock free and the entry that it was scheduled for removes
it, and nothing else. -/
theorem moveWorker?_of_unlocked (hosted : system.scheduler? id = some host)
    (busy : host.worker = .busy task (.deletion place key lease.generation))
    (found : system.cache? place = some cache) (kept : cache.dropped = false)
    (unlocked : system.isUnlocked place = true) (stored : cache.lease? key = some lease) :
    ∃ moved, system.moveWorker? id = some moved ∧ ∀ other name, moved.lease? other name =
      if other = place ∧ name = key then none else system.lease? other name := by
  obtain ⟨moved, move⟩ : ∃ moved, system.moveWorker? id = some moved := by
    refine Option.isSome_iff_exists.1 ?_
    rw [moveWorker?, hosted, Option.bind_some, busy]
    simp only [moveDeletion?, found, kept, unlocked, if_true]
    rfl
  refine ⟨moved, move, ?_⟩
  have deletes : system.Deletes moved id place key lease.generation := ⟨⟨host, task, hosted, busy⟩, move⟩
  cases deletes.removal with
  | spared absent _ =>
      rcases absent cache found with gone | other
      · cases kept.symm.trans gone
      · exact absurd rfl (other lease stored)
  | removed _ _ _ rest => exact rest

/-- In a settled system no entry is overdue, unless the worker is inside another task, the lock is
held, or the stop signal was given. -/
theorem IsSettled.lease?_ne (settled : system.IsSettled) (reachable : Reachable system)
    (found : system.cache? place = some cache) (kept : cache.dropped = false)
    (hosted : system.scheduler? cache.scheduler = some host) (running : host.halted = false)
    (free : ∀ task work, host.worker = .busy task work →
      work = .deletion place key lease.generation ∧ system.isUnlocked place = true)
    (due : lease.deadline ≤ system.now) : cache.lease? key ≠ some lease := by
  intro stored
  have still := settled.moveWorker?_eq_none cache.scheduler
  cases hands : host.worker.isBusy with
  | true =>
      obtain ⟨task, work, busy⟩ := Worker.isBusy_iff.1 hands
      obtain ⟨rfl, unlocked⟩ := free task work busy
      obtain ⟨moved, move, _⟩ := moveWorker?_of_unlocked hosted busy found kept unlocked stored
      cases still.symm.trans move
  | false =>
      obtain ⟨_, same, links⟩ := reachable.linked.links found
      cases hosted.symm.trans same
      cases links.awaited kept running stored with
      | queued held _ =>
          obtain ⟨awake, asleep⟩ := still_of_moveWorker? hosted still hands
          have early := Scheduler.not_overdue
            ((reachable.linked.sound hosted).parked awake asleep hands) held
          exact absurd due (Int.not_le.2 early)
      | running busy _ =>
          rw [busy] at hands
          cases hands

/-- What becomes of a cache after its scheduler was stopped. -/
structure Lapses (system : System V) (place : CacheId) (cache : Cache V) (host : Scheduler (Work V)) :
    Prop where
  /-- Calls answer what they can without a deletion, and nothing comes of those that need one. -/
  denies : ∀ {later}, Leads system later → ∃ store last, later.Shut place store last ∧
    store.scheduler = cache.scheduler ∧ last.stopped = true ∧ last.name = host.name ∧
      later.Denies place store last
  absent : ∀ {later key}, Leads system later → system.lease? place key = none →
    later.lease? place key = none
  /-- What was taken out by a call does not come back. -/
  removed : ∀ {record later entry key}, Course system record later → entry ∈ record →
    entry.2.Removes entry.1 place key → later.lease? place key = none
  /-- Any other entry stays what it is until its deadline at least, and then goes as a whole. -/
  lasts : ∀ {record later key lease}, Course system record later →
    (∀ entry ∈ record, ¬ entry.2.Removes entry.1 place key) →
    system.lease? place key = some lease → later.lease? place key = some lease ∨
      later.lease? place key = none ∧ lease.deadline ≤ later.now
  /-- Without a stop signal it is gone in the first settled system after its deadline in which the
  worker is not inside another task, unless an access holds the lock against the deletion. -/
  vanishes : ∀ {later store last key lease}, Leads system later →
    system.lease? place key = some lease → lease.deadline ≤ later.now → later.IsSettled →
    later.cache? place = some store → store.dropped = false →
    later.scheduler? cache.scheduler = some last → last.halted = false →
    (∀ task work, last.worker = .busy task work →
      work = .deletion place key lease.generation ∧ later.isUnlocked place = true) →
      later.lease? place key = none
  /-- A deletion that has begun removes the entry even if a read has answered its value since. -/
  fires : ∀ {later store last task key lease}, Leads system later →
    later.cache? place = some store → store.dropped = false → store.lease? key = some lease →
    later.scheduler? cache.scheduler = some last →
    last.worker = .busy task (.deletion place key lease.generation) →
    later.isUnlocked place = true → ∃ moved, later.moveWorker? cache.scheduler = some moved ∧
      ∀ other name, moved.lease? other name =
        if other = place ∧ name = key then none else later.lease? other name

theorem Reachable.lapses (reachable : Reachable system) (found : system.cache? place = some cache)
    (hosted : system.scheduler? cache.scheduler = some host) (stopped : host.stopped = true) :
    system.Lapses place cache host := by
  have shut : system.Shut place cache host :=
    ⟨found, hosted, Scheduler.isStopped_of_stopped stopped⟩
  have lasts {record : List (System V × Operation V)} {later : System V}
      (course : Course system record later) (key : String) :
      Outcome system later record place key := course.outcome reachable shut key
  constructor
  · intro later leads
    obtain ⟨store, last, _, still, own, run⟩ := shut.leads reachable.numbered leads
    exact ⟨store, last, still, own, run.remembers.stopped stopped,
      congrArg Settings.name run.settings, (reachable.leads leads).denies still⟩
  · intro later key leads absent
    obtain ⟨record, course⟩ := Course.of_leads leads
    exact (lasts course key).absent absent
  · intro record later entry key course listed removes
    cases lasts course key with
    | kept none _ => exact absurd removes (none entry listed)
    | removed _ _ gone => exact gone
    | expired _ _ _ _ gone => exact gone
  · intro record later key lease course undeleted stored
    cases lasts course key with
    | kept _ same => exact .inl (same.trans stored)
    | removed listed removes _ => exact absurd removes (undeleted _ listed)
    | expired had due _ _ gone =>
        cases stored.symm.trans had
        exact .inr ⟨gone, due⟩
  · intro later store last key lease leads stored due settled again kept seen running free
    obtain ⟨record, course⟩ := Course.of_leads leads
    cases lasts course key with
    | kept _ same =>
        obtain ⟨_, _, _, ⟨present, _, _⟩, own, _⟩ := shut.leads reachable.numbered leads
        cases again.symm.trans present
        have there := (lease?_of_found again key).symm.trans (same.trans stored)
        exact absurd there (settled.lease?_ne (reachable.leads leads) again kept (own ▸ seen)
          running free due)
    | removed _ _ gone => exact gone
    | expired _ _ _ _ gone => exact gone
  · intro later store last task key lease _ again kept stored seen busy unlocked
    exact moveWorker?_of_unlocked seen busy again kept unlocked stored

/-- A task shuts its scheduler down while a read takes so long that the deletion of the entry has
begun.  The read answers the value all the same, and the entry goes. -/
theorem lapses_of_slow_read :
    ∃ (system later : System Nat) (cache : Cache Nat) (host : Scheduler (Work Nat))
      (lease : Lease Nat) (booking : Booking Nat), Reachable system ∧
        system.cache? ⟨0⟩ = some cache ∧ system.scheduler? cache.scheduler = some host ∧
        host.stopped = true ∧ host.halted = false ∧ host.worker.isExited = false ∧
        system.Lapses ⟨0⟩ cache host ∧ cache.lease? "key" = some lease ∧ lease.deadline = 50 ∧
        Leads system later ∧ later.now = 60 ∧ later.isDeleting ⟨0⟩ = true ∧
        booking ∈ later.bookings ∧ (later.confirm booking).1 = .found (some 7) ∧
        (later.confirm booking).2.settle.lease? ⟨0⟩ "key" = none := by
  have empty : Reachable ({} : System Nat) := .start
  have created := empty.step (.deed _ (.request (.create "main" {})))
  have stocked := created.step (.deed _ (.request (.createCacheOn "store" "main")))
  have filled := stocked.step (.deed _ (.request (.access "store" "key" (.add 7 (.span 50)))))
  generalize given : (Session.perform (Session.perform (Session.perform ({} : System Nat)
    (.request (.create "main" {}))).2 (.request (.createCacheOn "store" "main"))).2
    (.request (.access "store" "key" (.add 7 (.span 50))))).2 = start at filled
  have course : (start.cacheAt? "store").any (fun (store : CacheId × Cache Nat) =>
      start.isAccessible store.1 "key" .read &&
      (Except.toOption (start.book store.1 store.2 "key" .read)).any
        fun (access : Booking Nat × System Nat) =>
          let system := (Session.perform access.2
            (.submit "main" "closer" (.at 0) (.part (.shutdown "main") .done))).2.settle
          let later := ({ system with now := 60 } : System Nat).settle
          decide (system.now ≤ 60) && (system.cache? ⟨0⟩).any fun cache =>
          (system.scheduler? cache.scheduler).any fun host =>
          host.stopped && !host.halted && !host.worker.isExited &&
          (cache.lease? "key").any fun lease => lease.deadline == 50 && later.now == 60 &&
          later.isDeleting ⟨0⟩ && (later.lease? ⟨0⟩ "key").any (fun lease => lease.value == 7) &&
          later.bookings.any fun booking => booking.cache == ⟨0⟩ && booking.key == "key" &&
          booking.access.isRead && booking.deadline == some 50 &&
          ((later.confirm booking).2.settle.lease? ⟨0⟩ "key").isNone) = true := by
    rw [← given]
    decide +kernel
  obtain ⟨⟨id, first⟩, located, course⟩ := (Option.any_eq_true _ _).1 course
  simp only [Bool.and_eq_true] at course
  obtain ⟨accessible, course⟩ := course
  obtain ⟨⟨taken, locked⟩, booked, course⟩ := (Option.any_eq_true _ _).1 course
  have booked : start.book id first "key" .read = .ok (taken, locked) := by
    cases outcome : start.book id first "key" .read with
    | error reply =>
        rw [outcome] at booked
        cases booked
    | ok access =>
        rw [outcome] at booked
        cases booked
        rfl
  have read := filled.step (.book located accessible booked)
  have called := read.step (.deed _ (.submit "main" "closer" (.at 0) (.part (.shutdown "main") .done)))
  generalize (Session.perform locked
    (.submit "main" "closer" (.at 0) (.part (.shutdown "main") .done))).2 = asked at course called
  simp only [Bool.and_eq_true, decide_eq_true_eq] at course
  obtain ⟨order, course⟩ := course
  obtain ⟨cache, found, course⟩ := (Option.any_eq_true _ _).1 course
  obtain ⟨host, hosted, course⟩ := (Option.any_eq_true _ _).1 course
  simp only [Bool.and_eq_true, Bool.not_eq_true'] at course
  obtain ⟨⟨⟨stopped, running⟩, draining⟩, course⟩ := course
  obtain ⟨lease, stored, course⟩ := (Option.any_eq_true _ _).1 course
  simp only [Bool.and_eq_true, beq_iff_eq, List.any_eq_true, Option.isNone_iff_eq_none] at course
  obtain ⟨⟨⟨⟨deadline, late⟩, deleting⟩, value⟩, booking, held, ⟨⟨⟨own, name⟩, reads⟩, reached⟩,
    gone⟩ := course
  have leads : Leads asked.settle ({ asked.settle with now := 60 } : System Nat).settle :=
    (Relation.ReflTransGen.single (.pass order)).trans (leads_settle _)
  have lapses := Reachable.lapses (called.leads (leads_settle asked)) found hosted stopped
  obtain ⟨store, _, shut, _, _, _, denies⟩ := lapses.denies leads
  obtain ⟨old, still, answer, _⟩ := denies.confirms held own reads
  obtain ⟨other, present, seven⟩ := (Option.any_eq_true _ _).1 value
  rw [lease?_of_found shut.found, ← name, still] at present
  cases present
  rw [beq_iff_eq.1 seven, reached] at answer
  exact ⟨_, _, cache, host, lease, booking, called.leads (leads_settle asked), found, hosted, stopped,
    running, draining, lapses, stored, deadline, leads, late, deleting, held, answer, gone⟩

/-- An entry has been added that lives to the end of the clock, and a task shuts the scheduler down,
which drains until then.  One tick later the clock cannot represent the deadline that a read would
set, and it never can represent that of an endless write. -/
theorem draining_read_overflows :
    ∃ (system after other : System Nat) (cache : Cache Nat) (host : Scheduler (Work Nat))
      (lease : Lease Nat), Reachable system ∧ system.cacheAt? "store" = some (⟨0⟩, cache) ∧
        system.scheduler? cache.scheduler = some host ∧ host.stopped = true ∧
        host.halted = false ∧ host.worker.isExited = false ∧ cache.lease? "key" = some lease ∧
        system.access? "store" "key" .read = some (.overflow, after) ∧
        system.access? "store" "key" (.set 8 .endless) = some (.overflow, other) := by
  have empty : Reachable ({} : System Nat) := .start
  have created := empty.step (.deed _ (.request (.create "main" {})))
  have stocked := created.step (.deed _ (.request (.createCacheOn "store" "main")))
  have filled := stocked.step (.deed _ (.request (.access "store" "key"
    (.add 7 (.span Clock.last.toNat)))))
  have called := filled.step (.deed _ (.submit "main" "closer" (.at 0) (.part (.shutdown "main") .done)))
  generalize given : (Session.perform (Session.perform (Session.perform (Session.perform
    ({} : System Nat) (.request (.create "main" {}))).2 (.request (.createCacheOn "store" "main"))).2
    (.request (.access "store" "key" (.add 7 (.span Clock.last.toNat))))).2
    (.submit "main" "closer" (.at 0) (.part (.shutdown "main") .done))).2 = start at called
  have course : decide (start.settle.now ≤ 10) = true ∧
      (({ start.settle with now := 10 } : System Nat).cacheAt? "store").any (fun store =>
        decide (store.1 = ⟨0⟩) && (store.2.lease? "key").isSome &&
        (start.settle.scheduler? store.2.scheduler).any fun host =>
          host.stopped && !host.halted && !host.worker.isExited) = true ∧
      (({ start.settle with now := 10 } : System Nat).access? "store" "key" .read).map Prod.fst =
        some .overflow ∧
      (({ start.settle with now := 10 } : System Nat).access? "store" "key" (.set 8 .endless)).map
        Prod.fst = some .overflow := by
    rw [← given]
    refine ⟨?_, ?_, ?_, ?_⟩
    · decide +kernel
    · decide +kernel
    · cbv
    · cbv
  obtain ⟨order, stores, reads, writes⟩ := course
  obtain ⟨⟨place, cache⟩, located, course⟩ := (Option.any_eq_true _ _).1 stores
  simp only [Bool.and_eq_true, decide_eq_true_eq] at course
  obtain ⟨⟨rfl, stored⟩, course⟩ := course
  obtain ⟨host, hosted, shown⟩ := (Option.any_eq_true _ _).1 course
  simp only [Bool.and_eq_true, Bool.not_eq_true'] at shown
  obtain ⟨⟨stopped, running⟩, draining⟩ := shown
  obtain ⟨lease, stored⟩ := Option.isSome_iff_exists.1 stored
  obtain ⟨⟨_, after⟩, answered, rfl⟩ := Option.map_eq_some_iff.1 reads
  obtain ⟨⟨_, other⟩, denied, rfl⟩ := Option.map_eq_some_iff.1 writes
  exact ⟨_, after, other, cache, host, lease,
    (called.leads (leads_settle start)).step (.pass (of_decide_eq_true order)), located, hosted,
    stopped, running, draining, stored, answered, denied⟩

end Agenda.System
