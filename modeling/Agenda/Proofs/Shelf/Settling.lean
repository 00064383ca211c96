import Agenda.Proofs.Shelf.Moves
import Agenda.Proofs.System.Settled
import Agenda.Proofs.System.Parking

/-!
# What is left when a tidy system has settled

While a tidy system settles, its caches keep the entries whose deadlines have not come; when it has
settled, they have no others.
-/

namespace Agenda.System

universe u

variable {V : Type u} {label : Label} {token : Token} {system moved : System V}
  {before after : Scheduler (Work V)}

theorem Tidy.sweep_eq (tidy : system.Tidy label token before) :
    system.sweep = system.sweepCaches := by
  have only : system.sweepCaches.schedulers = #[before] := tidy.only
  exact sweepSchedulers_of_label only tidy.label

theorem Tidy.sweep (tidy : system.Tidy label token before) :
    system.sweep.Tidy label token before := by
  rw [tidy.sweep_eq]
  refine ⟨⟨tidy.only, tidy.label, tidy.calls⟩, tidy.bookings, ?_, tidy.handled, ?_, tidy.apart⟩
  · have size : system.sweepCaches.caches.size = system.caches.size := Array.size_mapIdx
    rw [size]
    exact tidy.clean
  · intro cache id labelled
    have own : system.cacheLabels[cache]? = some id := labelled
    obtain ⟨found, kept⟩ := tidy.kept own
    exact ⟨found, (cache?_sweepCaches_of_label own).trans kept.found, kept.place, kept.dropped,
      kept.tended⟩

theorem record?_sweepCaches (system : System V) (cache : Label) (key : String) :
    system.sweepCaches.record? cache key = system.record? cache key := by
  have same : system.sweepCaches.cacheAt? cache = system.cacheAt? cache := by
    have labels : system.sweepCaches.cacheLabels = system.cacheLabels := rfl
    rw [cacheAt?, cacheAt?, labels]
    cases labelled : system.cacheLabels[cache]? with
    | none => rfl
    | some id => rw [Option.bind_some, Option.bind_some, cache?_sweepCaches_of_label labelled]
  rw [record?, record?, same]

/-- A tidy system as it was before it began to settle, up to entries whose deadlines have come. -/
structure Settles (label : Label) (token : Token) (system moved : System V) : Prop where
  tidy : ∃ scheduler, moved.Tidy label token scheduler
  now : moved.now = system.now
  cacheLabels : moved.cacheLabels = system.cacheLabels
  live : ∀ cache key, moved.live? cache key = system.live? cache key

theorem Undisturbed.settles (undisturbed : Undisturbed label token system moved) :
    Settles label token system moved :=
  ⟨undisturbed.tidy, undisturbed.spares.now, undisturbed.spares.cacheLabels,
    undisturbed.spares.live?⟩

theorem Settles.trans {middle : System V} (first : Settles label token system middle)
    (second : Settles label token middle moved) : Settles label token system moved where
  tidy := second.tidy
  now := second.now.trans first.now
  cacheLabels := second.cacheLabels.trans first.cacheLabels
  live cache key := (second.live cache key).trans (first.live cache key)

theorem Tidy.settles_sweep (tidy : system.Tidy label token before) :
    Settles label token system system.sweep := by
  refine ⟨⟨before, tidy.sweep⟩, ?_, ?_, ?_⟩ <;> rw [tidy.sweep_eq]
  · rfl
  · rfl
  · intro cache key
    rw [live?, live?, record?_sweepCaches]
    rfl

theorem tends_finish {now : Int} {id other : CacheId} {cache : Cache V}
    (tends : before.Tends now other cache) {task : TaskId} {key : String} {generation : Nat}
    (busy : before.worker = .busy task (.deletion id key generation)) (different : other ≠ id) :
    before.finish.Tends now other cache := by
  refine tends.undisturbed (Scheduler.queue_signalDrained _) (Scheduler.roster_signalDrained _)
    ?_ ?_
  · intro task key generation running
    cases busy.symm.trans running
    exact different rfl
  · intro task key generation running
    cases (Scheduler.worker_signalDrained _).symm.trans running

theorem Tidy.skip (tidy : system.Tidy label token before) {task : TaskId} {id : CacheId}
    {key : String} {generation : Nat}
    (busy : before.worker = .busy task (.deletion id key generation))
    (other : ∀ cache : Label, system.cacheLabels[cache]? ≠ some id) :
    Settles label token system (system.finishTask ⟨0⟩ before) := by
  apply Undisturbed.settles
  apply tidy.spare (spares_putScheduler ..) (tidy.putScheduler _) tidy.clean.finish
    (tidy.handled.goOn rfl (Scheduler.continues_finish before))
  intro cache found kept labelled tends
  apply tends_finish tends busy
  intro same
  rw [same] at labelled
  exact other cache labelled

/-- What a deletion takes out of a cache has reached its deadline. -/
theorem filter_expire {now : Int} {id : CacheId} {cache : Cache V}
    (tends : before.Tends now id cache) {task : TaskId} {key : String} {generation : Nat}
    (busy : before.worker = .busy task (.deletion id key generation)) (other : String) :
    (((cache.expire key generation).lease? other).map Lease.record).filter
        (fun record => now < record.deadline)
      = ((cache.lease? other).map Lease.record).filter fun record => now < record.deadline := by
  rw [Cache.lease?_expire]
  split
  · rename_i same
    rw [same]
    cases found : cache.lease? key with
    | none => rfl
    | some lease =>
        by_cases current : lease.generation = generation
        · have past := (tends.running busy).2 lease found current
          simp [Option.filter_some, current, Lease.record, past]
        · simp [Option.filter_some, current]
  · rfl

/-- The end of a deletion takes out an entry whose deadline has come, or none. -/
theorem Tidy.expire (tidy : system.Tidy label token before) {task : TaskId} {id : CacheId}
    {key : String} {generation : Nat}
    (busy : before.worker = .busy task (.deletion id key generation)) {cache : Cache V}
    (found : system.cache? id = some cache) :
    Settles label token system
      ((system.putCache id (cache.expire key generation)).finishTask ⟨0⟩ before) := by
  have alters : Alters id (cache.expire key generation) system
      ((system.putCache id (cache.expire key generation)).finishTask ⟨0⟩ before) :=
    ⟨rfl, rfl, rfl, Array.size_setIfInBounds, cache?_putCache_self found _,
      fun different => cache?_putCache_of_ne _ different _⟩
  have hosts := tidy.putScheduler before.finish
  have handled : (system.putScheduler ⟨0⟩ before.finish).Handled before.finish :=
    tidy.handled.goOn rfl (Scheduler.continues_finish before)
  have tended {name : Label} (labelled : system.cacheLabels[name]? = some id) :
      system.Keeps before id cache := by
    obtain ⟨kept, keeps⟩ := tidy.kept labelled
    cases found.symm.trans keeps.found
    exact keeps
  refine ⟨⟨before.finish, tidy.alter alters ⟨hosts.only, hosts.label, hosts.calls⟩
    tidy.clean.finish handled ?_ ?_⟩, rfl, rfl, ?_⟩
  · intro name labelled
    have keeps := tended labelled
    exact ⟨alters.own, (Cache.scheduler_expire ..).trans keeps.place,
      (Cache.dropped_expire ..).trans keeps.dropped,
      keeps.tended.expire busy (Scheduler.queue_signalDrained _)
        (Scheduler.roster_signalDrained _) (Scheduler.worker_signalDrained _)⟩
  · exact fun different tends => tends_finish tends busy different
  · intro name other
    rw [live?, live?, alters.now]
    by_cases labelled : system.cacheLabels[name]? = some id
    · rw [alters.record?_self labelled, record?_of_label labelled found]
      exact filter_expire (tended labelled).tended busy other
    · rw [alters.record?_of_ne labelled]

theorem Tidy.moveDeletion (tidy : system.Tidy label token before) {task : TaskId} {id : CacheId}
    {key : String} {generation : Nat}
    (busy : before.worker = .busy task (.deletion id key generation))
    (move : system.moveDeletion? ⟨0⟩ before id key generation = some moved) :
    Settles label token system moved := by
  unfold moveDeletion? at move
  split at move
  · rename_i absent
    cases move
    apply tidy.skip busy
    intro cache labelled
    obtain ⟨found, kept⟩ := tidy.kept labelled
    cases absent.symm.trans kept.found
  · rename_i cache present
    split at move
    · rename_i dropped
      cases move
      apply tidy.skip busy
      intro label labelled
      obtain ⟨found, kept⟩ := tidy.kept labelled
      cases present.symm.trans kept.found
      cases dropped.symm.trans kept.dropped
    · split at move
      · cases move
        have expired := tidy.expire busy present
        obtain ⟨_, onward⟩ := expired.tidy
        exact expired.trans onward.settles_sweep
      · cases move

theorem Tidy.moveWorker (tidy : system.Tidy label token before) {id : SchedulerId}
    (move : system.moveWorker? id = some moved) : Settles label token system moved := by
  rw [moveWorker?, tidy.scheduler?] at move
  split at move
  · rename_i own
    subst own
    rw [Option.bind_some] at move
    cases place : before.worker with
    | looking =>
        simp only [place] at move
        cases move
        exact (tidy.look place).settles
    | busy task work =>
        cases work with
        | task own handle script =>
            simp only [place, tidy.callOf?] at move
            exact (tidy.moveTask place move).settles
        | deletion cache key generation =>
            simp only [place] at move
            exact tidy.moveDeletion place move
    | _ =>
        simp only [place] at move
        obtain ⟨woken, woke, rfl⟩ := Option.map_eq_some_iff.1 move
        exact (tidy.wake (Scheduler.wakes_of_wake? woke)).settles
  · cases move

theorem isSome_answer? (system : System V) {request : Request V}
    (harmless : request.IsHarmless token) : (system.answer? request).isSome = true := by
  cases request with
  | inspect target query => rfl
  | cancel target handle => rfl
  | fateOf handle => rfl
  | cancelToken other => rfl
  | isCancelled other => rfl
  | openGate gate => rfl
  | _ => exact harmless.elim

theorem Tidy.free_of_settled (tidy : system.Tidy label token before)
    (settled : system.IsSettled) : before.worker.isBusy = false := by
  rw [← Bool.not_eq_true, Worker.isBusy_iff]
  rintro ⟨task, work, busy⟩
  have still := settled.moveWorker?_eq_none ⟨0⟩
  rw [moveWorker?, tidy.found, Option.bind_some] at still
  cases work with
  | task own handle script =>
      have harmless : script.IsHarmless token := tidy.clean.bears.busy busy
      simp only [busy, tidy.callOf?] at still
      unfold moveTask? at still
      cases script with
      | done => cases still
      | panic payload => cases still
      | wait gate rest => exact harmless
      | threadName rest => cases still
      | submit target name due act rest => cases still
      | request asked rest =>
          have answered := isSome_answer? (system.proceedTask ⟨0⟩ before task own handle rest)
            harmless.1
          rw [Option.isSome_iff_ne_none] at answered
          exact answered (Option.map_eq_none_iff.1 still)
      | part parting rest => exact harmless
  | deletion cache key generation =>
      have unlocked : system.isUnlocked cache = true := by
        rw [isUnlocked, tidy.bookings]
        rfl
      simp only [busy, moveDeletion?, unlocked, if_true] at still
      split at still
      · cases still
      · split at still <;> cases still

/-- A tidy system at rest: nothing is in progress, and no deadline in the caches has come. -/
structure AtRest (label : Label) (token : Token) (system : System V)
    (scheduler : Scheduler (Work V)) : Prop extends Tidy label token system scheduler where
  free : scheduler.worker.isBusy = false
  fresh : ∀ {cache key record}, system.record? cache key = some record →
    system.now < record.deadline

theorem Tidy.atRest (tidy : system.Tidy label token before) (settled : system.IsSettled) :
    system.AtRest label token before := by
  have free := tidy.free_of_settled settled
  refine ⟨tidy, free, ?_⟩
  intro cache key record found
  cases labelled : system.cacheLabels[cache]? with
  | none =>
      rw [record?_of_none labelled] at found
      cases found
  | some id =>
      obtain ⟨kept, keeps⟩ := tidy.kept labelled
      rw [record?_of_label labelled keeps.found] at found
      obtain ⟨lease, present, rfl⟩ := Option.map_eq_some_iff.1 found
      obtain ⟨held, _⟩ := keeps.tended.held free present
      obtain ⟨awake, still⟩ :=
        still_of_moveWorker? tidy.found (settled.moveWorker?_eq_none ⟨0⟩) free
      exact Scheduler.not_overdue (tidy.clean.sound.parked awake still free) held

/-- When a tidy system has settled, its caches have the entries whose deadlines have not come. -/
theorem Tidy.settle (tidy : system.Tidy label token before) :
    (∃ scheduler, system.settle.AtRest label token scheduler) ∧ system.settle.now = system.now ∧
      system.settle.cacheLabels = system.cacheLabels ∧
      ∀ cache key, system.settle.record? cache key = system.live? cache key := by
  have settles : Settles label token system system.settle := by
    refine settle_keeps ?_ ?_ tidy.undisturbed.settles
    · intro middle moved id onward move
      obtain ⟨scheduler, further⟩ := onward.tidy
      exact onward.trans (further.moveWorker move)
    · intro middle moved position onward move
      obtain ⟨scheduler, further⟩ := onward.tidy
      rw [further.moveCall?] at move
      cases move
  obtain ⟨scheduler, settled⟩ := settles.tidy
  have rest := settled.atRest system.isSettled_settle
  refine ⟨⟨scheduler, rest⟩, settles.now, settles.cacheLabels, ?_⟩
  intro cache key
  rw [← settles.live, live?]
  cases found : system.settle.record? cache key with
  | none => rfl
  | some record => simp [Option.filter_some, rest.fresh found]

end Agenda.System
