import Agenda.Proofs.Deletion.Dating
import Agenda.Proofs.Deletion.Linking
import Agenda.Proofs.Scheduler.Fates
import Agenda.Proofs.System.Confining
import Agenda.Proofs.System.Evolution

/-!
# What cancels a deletion

As long as an entry is in its cache, nobody cancels its deletion, be the cache dropped or not.  Only
the stop signal does.
-/

namespace Agenda

universe u

variable {V : Type u}

namespace Scheduler

variable {ω : Type u} {before middle after : Scheduler ω} {task other : TaskId}

/-- The task is not cancelled between the two schedulers, unless by the stop signal. -/
structure Upholds (task : TaskId) (before after : Scheduler ω) : Prop where
  halted : before.halted = true → after.halted = true
  fate : after.roster.fate? task = some .cancelled →
    before.roster.fate? task = some .cancelled ∨ after.halted = true

theorem Upholds.of_eq (halted : before.halted = true → after.halted = true)
    (roster : after.roster = before.roster) : Upholds task before after :=
  ⟨halted, fun cancelled => .inl (roster ▸ cancelled)⟩

theorem Upholds.trans (first : Upholds task before middle) (second : Upholds task middle after) :
    Upholds task before after := by
  refine ⟨fun halted => second.halted (first.halted halted), fun cancelled => ?_⟩
  rcases second.fate cancelled with earlier | halted
  · exact (first.fate earlier).imp_right second.halted
  · exact .inr halted

theorem upholds_submit {due : Int} {work : ω} (known : before.roster.fate? task ≠ none)
    (accepted : before.submit? due work = some (other, after)) : Upholds task before after := by
  obtain ⟨_, rfl, _, _, _, rfl⟩ := eq_of_submit? accepted
  have same := Roster.fate?_accept before.roster task
  rw [if_neg (Roster.ne_nextId_of_known known)] at same
  exact ⟨id, fun cancelled => .inl (same.symm.trans cancelled)⟩

/-- Another task is cancelled, or one that is not pending any more. -/
theorem upholds_cancel (apart : before.roster.fate? other = some .pending → task ≠ other) :
    Upholds task before (before.cancel other).2 := by
  refine ⟨(halted_cancel ..).trans, fun cancelled => .inl ?_⟩
  rw [roster_cancel, Roster.fate?_resolve, if_neg] at cancelled
  · exact cancelled
  · exact fun same => apart same.2 same.1

/-- Work of a kind that goes on or begins is not cancelled. -/
theorem Passes.upholds {now : Int} {kind past : ω → Prop} {occurred : List Occurrence}
    (passes : Passes now kind past before after) (sound : before.Sound)
    (step : before.Step now occurred after) (known : before.roster.fate? task ≠ none)
    (kinds : ∀ entry ∈ before.queue.toList, entry.id = task → kind entry.work) :
    Upholds task before after := by
  refine ⟨passes.halted, fun cancelled => ?_⟩
  obtain ⟨fate, shown⟩ := Option.ne_none_iff_exists'.1 known
  rcases (Run.single step).lasting sound shown with rfl | same
  · rw [or_iff_not_imp_right, Bool.not_eq_true]
    intro running
    obtain ⟨entry, queued, rfl⟩ := sound.stored.queued task shown
    rcases passes.kept running queued (kinds entry queued rfl) shown with ⟨_, pending⟩ | ⟨busy, _⟩
    · cases pending.symm.trans cancelled
    · cases ((sound.step step).busy busy).symm.trans cancelled
  · cases same.symm.trans cancelled
    exact .inl shown

end Scheduler

namespace System

variable {system before after : System V} {id place : CacheId} {cache third : Cache V}
  {host : Scheduler (Work V)} {key name : String} {lease old : Lease V}

structure Upheld (system : System V) : Prop where
  halted : ∀ {id cache key lease host}, system.cache? id = some cache →
    cache.lease? key = some lease → system.scheduler? cache.scheduler = some host →
    host.roster.fate? lease.deletion = some .cancelled → host.halted = true

namespace Upheld

/-- Every entry was there before, and nobody has cancelled its deletion. -/
theorem goOn (upheld : before.Upheld)
    (old : ∀ {id changed key lease last}, after.cache? id = some changed →
      changed.lease? key = some lease → after.scheduler? changed.scheduler = some last →
      last.roster.fate? lease.deletion ≠ some .cancelled ∨
      ∃ cache host, before.cache? id = some cache ∧ cache.lease? key = some lease ∧
        before.scheduler? cache.scheduler = some host ∧
        Scheduler.Upholds lease.deletion host last) : after.Upheld := by
  refine ⟨fun {id changed key lease last} found stored hosted cancelled => ?_⟩
  rcases old found stored hosted with other | ⟨cache, host, earlier, present, placed, upholds⟩
  · exact absurd cancelled other
  · rcases upholds.fate cancelled with already | halted
    · exact upholds.halted (upheld.halted earlier present placed already)
    · exact halted

theorem reshelve (upheld : before.Upheld) (schedulers : after.schedulers = before.schedulers)
    (old : ∀ {id changed key lease}, after.cache? id = some changed →
      changed.lease? key = some lease → ∃ cache, before.cache? id = some cache ∧
        cache.lease? key = some lease ∧ cache.scheduler = changed.scheduler) : after.Upheld := by
  refine upheld.goOn fun {id changed key lease last} found stored hosted => .inr ?_
  obtain ⟨cache, earlier, present, same⟩ := old found stored
  rw [scheduler?, schedulers, ← same] at hosted
  exact ⟨cache, last, earlier, present, hosted, .of_eq (fun halted => halted) rfl⟩

theorem reschedule (upheld : before.Upheld) (linked : before.Linked)
    (caches : after.caches = before.caches)
    (old : ∀ {id cache key lease host}, before.cache? id = some cache →
      cache.lease? key = some lease → before.scheduler? cache.scheduler = some host →
      ∃ last, after.scheduler? cache.scheduler = some last ∧
        Scheduler.Upholds lease.deletion host last) : after.Upheld := by
  refine upheld.goOn fun {id changed key lease last} found stored hosted => .inr ?_
  rw [cache?, caches] at found
  obtain ⟨host, placed, _⟩ := linked.links found
  obtain ⟨other, again, upholds⟩ := old found stored placed
  cases hosted.symm.trans again
  exact ⟨changed, host, found, stored, placed, upholds⟩

end Upheld

/-- What is done to a scheduler other than for a cache cancels no deletion of an entry. -/
theorem Affair.upholds {last : Scheduler (Work V)} (linked : system.Linked)
    (found : system.cache? place = some cache) (stored : cache.lease? key = some lease)
    (hosted : system.scheduler? cache.scheduler = some host)
    (affair : Affair system cache.scheduler host last) :
    Scheduler.Upholds lease.deletion host last := by
  obtain ⟨_, again, links⟩ := linked.links found
  cases hosted.symm.trans again
  obtain ⟨_, step⟩ := affair.step
  refine (affair.passes linked hosted).upholds (linked.sound hosted) step (links.accepted stored) ?_
  intro entry queued same
  rw [links.own stored entry queued same]
  nofun

/-- The deletions of two entries are different tasks as long as one is pending. -/
theorem Linked.deletion_ne (linked : system.Linked) (found : system.cache? id = some cache)
    (stored : cache.lease? key = some old) (other : system.cache? place = some third)
    (also : third.lease? name = some lease)
    (hosted : system.scheduler? cache.scheduler = some host)
    (shared : third.scheduler = cache.scheduler) (different : ¬ (place = id ∧ name = key))
    (pending : host.roster.fate? old.deletion = some .pending) :
    lease.deletion ≠ old.deletion := by
  intro same
  obtain ⟨_, again, links⟩ := linked.links found
  cases hosted.symm.trans again
  obtain ⟨_, again, further⟩ := linked.links other
  rw [shared] at again
  cases hosted.symm.trans again
  obtain ⟨entry, queued, own⟩ := (linked.sound hosted).stored.queued _ pending
  have one := links.own stored entry queued own
  have two := further.own also entry queued (own.trans same.symm)
  have works : Work.deletion id key old.generation = .deletion place name lease.generation :=
    congrArg Entry.work (one.symm.trans two)
  obtain ⟨rfl, rfl, _⟩ := Work.deletion.inj works
  exact different ⟨rfl, rfl⟩

/-- Where an entry goes, the deletions of all others are upheld. -/
theorem Linked.upholds_relieve {filled : Scheduler (Work V)} {due : Int} {work : Work V}
    {task : TaskId} (linked : system.Linked) (found : system.cache? id = some cache)
    (other : system.cache? place = some third) (also : third.lease? name = some lease)
    (hosted : system.scheduler? cache.scheduler = some host)
    (shared : third.scheduler = cache.scheduler) (different : ¬ (place = id ∧ name = key))
    (accepted : host.submit? due work = some (task, filled)) :
    Scheduler.Upholds lease.deletion host (filled.relieve (cache.lease? key)) := by
  obtain ⟨_, again, further⟩ := linked.links other
  rw [shared] at again
  cases hosted.symm.trans again
  obtain ⟨_, again, links⟩ := linked.links found
  cases hosted.symm.trans again
  have submitted := Scheduler.upholds_submit (further.accepted also) accepted
  cases stored : cache.lease? key with
  | none => exact submitted
  | some old =>
      refine submitted.trans (Scheduler.upholds_cancel fun pending => ?_)
      refine linked.deletion_ne found stored other also hosted shared different ?_
      obtain ⟨_, _, _, _, _, rfl⟩ := Scheduler.eq_of_submit? accepted
      have same := Roster.fate?_accept host.roster old.deletion
      rw [if_neg (Roster.ne_nextId_of_known (links.accepted stored))] at same
      exact same.symm.trans pending

namespace Upheld

variable {booking : Booking V} {filled : Scheduler (Work V)} {stored : Cache V}

theorem exchange {new : Scheduler (Work V)} {changed : Cache V} (upheld : before.Upheld)
    (found : before.cache? id = some cache)
    (hosted : before.scheduler? cache.scheduler = some host)
    (again : after.cache? id = some changed) (kept : changed.scheduler = cache.scheduler)
    (otherCaches : ∀ {other}, other ≠ id → after.cache? other = before.cache? other)
    (settled : after.scheduler? cache.scheduler = some new)
    (otherSchedulers : ∀ {other}, other ≠ cache.scheduler →
      after.scheduler? other = before.scheduler? other)
    (own : ∀ {key lease}, changed.lease? key = some lease →
      new.roster.fate? lease.deletion ≠ some .cancelled ∨
        cache.lease? key = some lease ∧ Scheduler.Upholds lease.deletion host new)
    (others : ∀ {other third key lease}, other ≠ id → before.cache? other = some third →
      third.lease? key = some lease → third.scheduler = cache.scheduler →
        Scheduler.Upholds lease.deletion host new) : after.Upheld := by
  refine upheld.goOn fun {place third key lease last} seen present placed => ?_
  by_cases same : place = id
  · subst same
    cases again.symm.trans seen
    rw [kept] at placed
    cases settled.symm.trans placed
    exact (own present).imp_right fun ⟨earlier, upholds⟩ =>
      ⟨cache, host, found, earlier, hosted, upholds⟩
  · rw [otherCaches same] at seen
    by_cases shared : third.scheduler = cache.scheduler
    · rw [shared] at placed
      cases settled.symm.trans placed
      exact .inr ⟨third, host, seen, present, shared ▸ hosted, others same seen present shared⟩
    · rw [otherSchedulers shared] at placed
      exact .inr ⟨third, last, seen, present, placed, .of_eq (fun halted => halted) rfl⟩

theorem fulfilled (upheld : system.Upheld) (linked : system.Linked)
    (found : system.cache? booking.cache = some cache)
    (hosted : system.scheduler? cache.scheduler = some host) {due : Int} {work : Work V}
    (accepted : host.submit? due work = some (lease.deletion, filled))
    (gains : cache.Gains booking.key lease stored) :
    Upheld (((system.putCache booking.cache stored).putScheduler cache.scheduler
      (filled.relieve (cache.lease? booking.key))).unlock booking) := by
  refine upheld.exchange found hosted (cache?_putCache_self found _) gains.scheduler
    (fun different => cache?_putCache_of_ne system different _)
    (scheduler?_putScheduler_self hosted _)
    (fun different => scheduler?_putScheduler_of_ne _ different _) ?_ ?_
  · intro key further present
    rw [gains.lease?] at present
    split at present
    · cases present
      refine .inl ?_
      obtain ⟨_, again, links⟩ := linked.links found
      cases hosted.symm.trans again
      obtain ⟨_, number, _, _, _, rfl⟩ := Scheduler.eq_of_submit? accepted
      have fresh : (host.accept due work).roster.fate? lease.deletion = some .pending := by
        rw [number]
        exact (Roster.fate?_accept ..).trans (if_pos rfl)
      intro cancelled
      cases present : cache.lease? booking.key with
      | none =>
          rw [present] at cancelled
          cases fresh.symm.trans cancelled
      | some old =>
          have apart : lease.deletion ≠ old.deletion := by
            rw [number]
            exact (Roster.ne_nextId_of_known (links.accepted present)).symm
          rw [present, Scheduler.relieve, Scheduler.roster_cancel,
            Roster.fate?_resolve_of_ne _ apart] at cancelled
          cases fresh.symm.trans cancelled
    · rename_i different
      exact .inr ⟨present, linked.upholds_relieve found found present hosted rfl
        (fun same => different same.2) accepted⟩
  · intro other third key lease different seen present shared
    exact linked.upholds_relieve found seen present hosted shared (fun same => different same.1)
      accepted

theorem delete (upheld : system.Upheld) (linked : system.Linked)
    (found : system.cache? id = some cache) (key : String) :
    Upheld (system.delete id cache key).2 := by
  cases present : cache.lease? key with
  | none =>
      rw [delete_of_none present]
      exact upheld
  | some old =>
      obtain ⟨host, hosted, _⟩ := linked.links found
      obtain ⟨removed, loses, deleted⟩ := delete_eq_loses system id present
      rw [cancelTask_of_found hosted] at deleted
      rw [deleted]
      refine upheld.exchange found hosted (cache?_putCache_self found _) loses.scheduler
        (fun different => cache?_putCache_of_ne system different _)
        (scheduler?_putScheduler_self hosted _)
        (fun different => scheduler?_putScheduler_of_ne system different _) ?_ ?_
      · intro name lease stored
        rw [loses.lease?] at stored
        split at stored
        · cases stored
        · rename_i different
          exact .inr ⟨stored, Scheduler.upholds_cancel (linked.deletion_ne found present found stored
            hosted rfl fun same => different same.2)⟩
      · intro other third name lease different seen stored shared
        exact Scheduler.upholds_cancel (linked.deletion_ne found present seen stored hosted shared
          fun same => different same.1)

theorem expire (upheld : system.Upheld) (linked : system.Linked) {task : TaskId} {generation : Nat}
    {worker : SchedulerId} (hosted : system.scheduler? worker = some host)
    (busy : host.worker = .busy task (.deletion id key generation))
    (found : system.cache? id = some cache) :
    Upheld ((system.putCache id (cache.expire key generation)).finishTask worker host) := by
  obtain ⟨_, again, rfl⟩ := (linked.serves hosted).busy busy id rfl
  cases found.symm.trans again
  have finishes (task : TaskId) : Scheduler.Upholds task host host.finish :=
    .of_eq (fun halted => (Scheduler.halted_signalDrained _).trans halted)
      (Scheduler.roster_signalDrained _)
  refine upheld.exchange found hosted (cache?_putCache_self found _) (cache.scheduler_expire ..)
    (fun different => cache?_putCache_of_ne system different _)
    (scheduler?_putScheduler_self hosted _)
    (fun different => scheduler?_putScheduler_of_ne system different _) ?_ fun _ _ _ _ => finishes _
  intro name lease stored
  rw [Cache.lease?_expire] at stored
  split at stored
  · rename_i same
    rw [same]
    exact .inr ⟨(Option.filter_eq_some_iff.1 stored).1, finishes _⟩
  · exact .inr ⟨stored, finishes _⟩

theorem confirm (upheld : system.Upheld) (linked : system.Linked)
    (held : booking ∈ system.bookings) : Upheld ((system.resolve booking).2.unlock booking) := by
  obtain ⟨cache, found⟩ := linked.numbered.known booking held
  have reads := linked.numbered.readsPresent found booking (mem_holders_iff.2 ⟨held, rfl⟩)
  have confirms := confirms_resolve found reads
  generalize system.resolve booking = result at confirms
  cases confirms with
  | declined resembles _ =>
      refine upheld.reshelve rfl fun {place changed key lease} seen stored => ?_
      by_cases same : place = booking.cache
      · subst same
        cases (cache?_putCache_self found _).symm.trans seen
        exact ⟨cache, found, (resembles.lease? key).symm.trans stored, resembles.scheduler.symm⟩
      · exact ⟨changed, (cache?_putCache_of_ne system same _).symm.trans seen, stored, rfl⟩
  | fulfilled reached hosted accepted value gains =>
      exact upheld.fulfilled linked found hosted accepted gains

theorem change (upheld : before.Upheld) (linked : before.Linked) (change : Change before after) :
    after.Upheld := by
  have still {after : System V} (schedulers : after.schedulers = before.schedulers)
      (caches : after.caches = before.caches) : after.Upheld :=
    upheld.reshelve schedulers fun {id changed key lease} seen stored => by
      rw [cache?, caches] at seen
      exact ⟨changed, seen, stored, rfl⟩
  cases change with
  | aside aside => exact still aside.schedulers aside.caches
  | halt change halts changed =>
      refine upheld.reschedule linked rfl fun {id cache key lease host} _ _ hosted => ?_
      refine ⟨_, (changed _).trans (congrArg _ hosted), ?_⟩
      rcases halts cache.scheduler host with same | halted
      · rw [same]
        exact .of_eq (fun halted => halted) rfl
      · rw [halted]
        exact .of_eq (fun _ => rfl) rfl
  | drop change drops changed =>
      refine upheld.reshelve rfl fun {id gone key lease} seen stored => ?_
      obtain ⟨cache, found, rfl⟩ := Option.map_eq_some_iff.1 ((changed id).symm.trans seen)
      refine ⟨cache, found, ?_⟩
      rcases drops id cache with same | dropped
      · rw [same] at stored ⊢
        exact ⟨stored, rfl⟩
      · rw [dropped] at stored ⊢
        exact ⟨stored, rfl⟩
  | create settings =>
      refine upheld.reschedule linked rfl fun {id cache key lease host} _ _ hosted => ?_
      exact ⟨host, (grows_createScheduler before settings).old hosted,
        .of_eq (fun halted => halted) rfl⟩
  | createCache hosted =>
      refine upheld.reshelve rfl fun {id changed key lease} seen stored => ?_
      cases earlier : before.cache? id with
      | none =>
          rw [eq_of_createCache earlier seen] at stored
          cases stored
      | some old =>
          cases (cache?_createCache earlier _).symm.trans seen
          exact ⟨changed, rfl, stored, rfl⟩
  | @put id first last found affair =>
      refine upheld.reschedule linked rfl fun {place cache key lease host} seen stored hosted => ?_
      by_cases same : cache.scheduler = id
      · subst same
        cases found.symm.trans hosted
        exact ⟨last, scheduler?_putScheduler_self found last, affair.upholds linked seen stored found⟩
      · exact ⟨host, (scheduler?_putScheduler_of_ne before same last).trans hosted,
          .of_eq (fun halted => halted) rfl⟩
  | hold label enqueued => exact still rfl rfl
  | @book _ target cache key access booking found accessible booked =>
      obtain ⟨_, _, _, rfl⟩ := eq_of_book booked
      refine upheld.reshelve rfl fun {id changed key lease} seen stored => ?_
      by_cases same : id = target
      · subst same
        cases (cache?_putCache_self found _).symm.trans seen
        exact ⟨cache, found, stored, rfl⟩
      · exact ⟨changed, (cache?_putCache_of_ne before same _).symm.trans seen, stored, rfl⟩
  | confirm held => exact upheld.confirm linked held
  | delete key found unlocked => exact upheld.delete linked found key
  | expire hosted busy found kept unlocked => exact upheld.expire linked hosted busy found
  | call _ _ => exact still rfl rfl
  | stage _ _ _ _ => exact still rfl rfl

end Upheld

theorem Reachable.upheld (reachable : Reachable system) : system.Upheld := by
  have both : system.Linked ∧ system.Upheld :=
    reachable.keeps (motive := fun system => system.Linked ∧ system.Upheld)
      (fun kept change => ⟨kept.1.change change, kept.2.change kept.1 change⟩)
      (fun kept order => ⟨kept.1.of_eq order rfl rfl rfl rfl, ⟨kept.2.halted⟩⟩)
      ⟨.start, ⟨fun found => by simp [cache?] at found⟩⟩
  exact both.2

end System

end Agenda
