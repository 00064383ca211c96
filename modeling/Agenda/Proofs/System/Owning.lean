import Agenda.Proofs.Scheduler.Completing
import Agenda.Proofs.System.Quiet
import Agenda.Proofs.System.Reach

/-!
# What gives the stop signal

A scheduler has its stop signal if the token that it was set up with is cancelled, and if nobody
refers to it any more.  Both hold in every reachable system, whoever cancelled the token or gave up
the last reference.  A cache that nobody refers to has been dropped in the same way.
-/

namespace Agenda

universe u

variable {V : Type u}

namespace System

variable {system moved before after : System V} {id : SchedulerId}
  {host : Scheduler (Work V)} {call : Call} {position : Nat}

/-- New schedulers come about in one way only. -/
theorem Change.created_or_absent (change : Change before after) :
    (∃ settings, after = (before.createScheduler settings).2) ∨
      ∀ {id}, before.scheduler? id = none → after.scheduler? id = none := by
  have kept (size : after.schedulers.size = before.schedulers.size) {id : SchedulerId}
      (absent : before.scheduler? id = none) : after.scheduler? id = none := by
    rw [scheduler?, Array.getElem?_eq_none_iff] at absent ⊢
    rwa [size]
  cases change with
  | aside aside => exact .inr (kept (congrArg Array.size aside.schedulers))
  | halt change _ changed =>
      refine .inr fun {id} absent => ?_
      rw [changed, absent]
      rfl
  | create settings => exact .inl ⟨settings, rfl⟩
  | put _ _ => exact .inr (kept Array.size_setIfInBounds)
  | book _ _ booked =>
      obtain ⟨_, _, _, rfl⟩ := eq_of_book booked
      exact .inr fun absent => absent
  | confirm _ => exact .inr (kept (frames_resolve before _).size)
  | delete key _ _ => exact .inr (kept (frames_delete before _ _ key).size)
  | expire _ _ _ _ _ => exact .inr (kept Array.size_setIfInBounds)
  | _ => exact .inr fun absent => absent

section Tokens

/-- Whoever was set up with a cancelled token is halted. -/
structure Obeyed (system : System V) : Prop where
  halted : ∀ {id host}, system.scheduler? id = some host →
    system.isCancelled host.settings.token = true → host.halted = true

theorem isCancelled_iff {token : Token} : system.isCancelled token = true ↔
    ∃ label, token = .named label ∧ label ∈ system.cancelledTokens := by
  cases token with
  | own => simp [isCancelled]
  | named label => simp [isCancelled]

theorem isCancelled_congr (tokens : after.cancelledTokens = before.cancelledTokens)
    (token : Token) : after.isCancelled token = before.isCancelled token := by
  cases token with
  | own => rfl
  | named label => rw [isCancelled, tokens, isCancelled]

/-- No token is cancelled, and there are no new schedulers. -/
theorem Obeyed.goOn (obeyed : before.Obeyed) (evolves : Evolves before after)
    (tokens : after.cancelledTokens = before.cancelledTokens)
    (absent : ∀ {id}, before.scheduler? id = none → after.scheduler? id = none) :
    after.Obeyed := by
  refine ⟨fun {id host} found cancelled => ?_⟩
  rw [isCancelled_congr tokens] at cancelled
  cases earlier : before.scheduler? id with
  | none => cases (absent earlier).symm.trans found
  | some old =>
      obtain ⟨_, changed, seen, run⟩ := evolves.old earlier
      cases found.symm.trans seen
      rw [run.settings] at cancelled
      exact run.remembers.halted (obeyed.halted earlier cancelled)

theorem Obeyed.aside (obeyed : before.Obeyed) (aside : Aside before after) : after.Obeyed := by
  refine ⟨fun {id host} found cancelled => ?_⟩
  have found : before.scheduler? id = some host := by
    rw [scheduler?, aside.schedulers] at found
    exact found
  obtain ⟨label, own, listed⟩ := isCancelled_iff.1 cancelled
  rcases aside.tokens listed with old | halted
  · exact obeyed.halted found (isCancelled_iff.2 ⟨label, own, old⟩)
  · exact halted found own

/-- A new scheduler sees whether its token is cancelled. -/
theorem Obeyed.create (obeyed : system.Obeyed) (settings : Settings) :
    (system.createScheduler settings).2.Obeyed := by
  refine ⟨fun {id host} found cancelled => ?_⟩
  simp only [scheduler?, createScheduler, Array.getElem?_push] at found
  split at found
  · cases found
    exact cancelled
  · exact obeyed.halted found cancelled

theorem Obeyed.change (obeyed : before.Obeyed) (change : Change before after) : after.Obeyed := by
  rcases change.created_or_absent with ⟨settings, rfl⟩ | absent
  · exact obeyed.create settings
  · have kept := obeyed.goOn change.evolves
    cases change with
    | aside aside => exact obeyed.aside aside
    | book _ _ booked =>
        obtain ⟨_, _, _, rfl⟩ := eq_of_book booked
        exact kept rfl absent
    | confirm _ => exact kept (frames_resolve before _).tokens absent
    | delete key _ _ => exact kept (frames_delete before _ _ key).tokens absent
    | _ => exact kept rfl absent

theorem Reachable.obeyed (reachable : Reachable system) : system.Obeyed :=
  reachable.keeps (fun obeyed change => obeyed.change change) (fun obeyed _ => ⟨obeyed.halted⟩)
    ⟨fun found => by simp [scheduler?] at found⟩

end Tokens

section Owners

/-- Whoever has no owner left is let go of: schedulers are halted, and caches are dropped. -/
structure Owned (system : System V) : Prop where
  halted : ∀ {id host}, system.scheduler? id = some host → system.keepsScheduler id = false →
    host.halted = true
  dropped : ∀ {id cache}, system.cache? id = some cache → system.keepsCache id = false →
    cache.dropped = true

theorem isDeleting_iff {id : CacheId} : system.isDeleting id = true ↔
    ∃ place task key generation, system.hand? place = some (task, .deletion id key generation) := by
  rw [isDeleting, Array.any_eq_true]
  constructor
  · rintro ⟨index, inside, deletes⟩
    refine ⟨⟨index⟩, ?_⟩
    rw [hand?_of_found (Array.getElem?_eq_getElem inside)]
    cases place : system.schedulers[index].worker with
    | busy task work =>
        rw [place] at deletes
        cases work with
        | task _ _ _ => cases deletes
        | deletion cache key generation =>
            obtain rfl : cache = id := of_decide_eq_true deletes
            exact ⟨task, key, generation, rfl⟩
    | _ =>
        rw [place] at deletes
        cases deletes
  · rintro ⟨place, task, key, generation, held⟩
    obtain ⟨host, found, busy⟩ := hand?_eq_some_iff.1 held
    obtain ⟨inside, same⟩ := Array.getElem?_eq_some_iff.1 found
    refine ⟨place.index, inside, ?_⟩
    rw [same, busy]
    exact decide_eq_true rfl

theorem keepsCache_congr (labels : after.cacheLabels = before.cacheLabels)
    (bookings : after.bookings = before.bookings) (hands : ∀ id, after.hand? id = before.hand? id)
    (id : CacheId) : after.keepsCache id = before.keepsCache id := by
  have deleting : after.isDeleting id = before.isDeleting id := by
    rw [Bool.eq_iff_iff, isDeleting_iff, isDeleting_iff]
    simp only [hands]
  rw [keepsCache, labels, bookings, deleting, keepsCache]

theorem owned_sweep (system : System V) : system.sweep.Owned := by
  refine ⟨halted_of_sweep, fun {id cache} found alone => ?_⟩
  have labels : system.sweep.cacheLabels = system.cacheLabels := rfl
  rw [keepsCache_congr labels rfl (Quiet.sweep system).hands] at alone
  have swept : system.sweepCaches.cache? id = some cache := found
  rw [cache?_sweepCaches, alone] at swept
  obtain ⟨_, _, rfl⟩ := Option.map_eq_some_iff.1 swept
  rfl

/-- Where everybody without an owner has been let go of, there is nothing to let go of. -/
theorem Owned.sweep_eq (owned : system.Owned) : system.sweep = system := by
  have caches : system.sweepCaches = system := by
    refine congrArg (fun caches => { system with caches }) (Array.ext_getElem? fun index => ?_)
    refine (cache?_sweepCaches system ⟨index⟩).trans ?_
    cases found : system.cache? ⟨index⟩ with
    | none => exact found.symm
    | some cache =>
        refine Eq.trans (congrArg some ?_) found.symm
        cases kept : system.keepsCache ⟨index⟩ with
        | true => exact if_pos rfl
        | false =>
            have gone := owned.dropped found kept
            exact congrArg (fun dropped => { cache with dropped }) gone.symm
  rw [sweep, caches]
  refine congrArg (fun schedulers => { system with schedulers }) (Array.ext_getElem? fun index => ?_)
  refine (scheduler?_sweepSchedulers system ⟨index⟩).trans ?_
  cases found : system.scheduler? ⟨index⟩ with
  | none => exact found.symm
  | some host =>
      refine Eq.trans (congrArg some ?_) found.symm
      cases kept : system.keepsScheduler ⟨index⟩ with
      | true => exact if_pos rfl
      | false =>
          have gone := owned.halted found kept
          exact congrArg (fun halted => { host with halted }) gone.symm

/-- Whoever keeps a cache goes on to keep it, unless it was dropped, and no cache comes in. -/
structure Houses (before after : System V) : Prop where
  keeps : ∀ {id cache}, before.cache? id = some cache → cache.dropped = false →
    before.keepsCache id = true → after.keepsCache id = true
  caches : ∀ {id cache}, after.cache? id = some cache →
    ∃ old, before.cache? id = some old ∧ (old.dropped = true → cache.dropped = true)

theorem Houses.of_eq (caches : after.caches = before.caches)
    (labels : after.cacheLabels = before.cacheLabels)
    (bookings : after.bookings = before.bookings)
    (hands : ∀ id, after.hand? id = before.hand? id) : Houses before after where
  keeps _ _ kept := (keepsCache_congr labels bookings hands _).trans kept
  caches {id cache} found := by
    rw [cache?, caches] at found
    exact ⟨cache, found, fun gone => gone⟩

theorem Owned.goOn (owned : before.Owned) (evolves : Evolves before after)
    (absent : ∀ {id}, before.scheduler? id = none → after.scheduler? id = none)
    (keeps : ∀ {id}, before.keepsScheduler id = true → after.keepsScheduler id = true)
    (houses : Houses before after) : after.Owned := by
  constructor
  · intro id host found alone
    have already : before.keepsScheduler id = false := by
      rw [← Bool.not_eq_true]
      intro kept
      rw [keeps kept] at alone
      cases alone
    cases earlier : before.scheduler? id with
    | none => cases (absent earlier).symm.trans found
    | some old =>
        obtain ⟨_, changed, seen, run⟩ := evolves.old earlier
        cases found.symm.trans seen
        exact run.remembers.halted (owned.halted earlier already)
  · intro id cache found alone
    obtain ⟨old, earlier, still⟩ := houses.caches found
    refine still ?_
    rw [← Bool.not_eq_false]
    intro there
    cases kept : before.keepsCache id with
    | false => cases there.symm.trans (owned.dropped earlier kept)
    | true => cases alone.symm.trans (houses.keeps earlier there kept)

theorem Owned.congr (owned : before.Owned) (schedulers : after.schedulers = before.schedulers)
    (labels : after.schedulerLabels = before.schedulerLabels)
    (caches : after.caches = before.caches) (calls : after.calls = before.calls)
    (cacheLabels : after.cacheLabels = before.cacheLabels)
    (bookings : after.bookings = before.bookings) : after.Owned := by
  constructor
  · intro id host found alone
    rw [scheduler?, schedulers] at found
    rw [keepsScheduler, labels, caches, calls] at alone
    exact owned.halted found alone
  · intro id cache found alone
    rw [cache?, caches] at found
    rw [keepsCache_congr cacheLabels bookings (hand?_congr schedulers)] at alone
    exact owned.dropped found alone

/-- A scheduler goes on.  Its worker goes on, too, with the deletion from a cache that was not
dropped. -/
theorem Owned.put (owned : system.Owned) {old : Scheduler (Work V)}
    (found : system.scheduler? id = some old) (new : Scheduler (Work V))
    (halted : old.halted = true → new.halted = true)
    (deleting : ∀ {task cacheId key generation cache},
      old.worker = .busy task (.deletion cacheId key generation) →
      system.cache? cacheId = some cache → cache.dropped = false → new.worker = old.worker) :
    (system.putScheduler id new).Owned := by
  constructor
  · intro other host seen alone
    by_cases same : other = id
    · subst same
      cases (scheduler?_putScheduler_self found new).symm.trans seen
      exact halted (owned.halted found alone)
    · rw [scheduler?_putScheduler_of_ne system same] at seen
      exact owned.halted seen alone
  · intro target cache seen alone
    have there : system.cache? target = some cache := seen
    cases kept : system.keepsCache target with
    | false => exact owned.dropped there kept
    | true =>
        rw [← Bool.not_eq_false]
        intro still
        have deletes : system.isDeleting target = true →
            (system.putScheduler id new).isDeleting target = true := by
          intro deletes
          obtain ⟨place, task, key, generation, held⟩ := isDeleting_iff.1 deletes
          refine isDeleting_iff.2 ⟨place, task, key, generation, ?_⟩
          by_cases same : place = id
          · subst same
            rw [hand?_of_found found, Worker.hand?_eq_some_iff] at held
            rw [hand?_putScheduler_self found, Worker.hand?_eq_some_iff, deleting held there still,
              held]
          · rw [hand?_putScheduler_of_ne system same, held]
        simp only [keepsCache, Bool.or_eq_true] at kept
        simp only [keepsCache, Bool.or_eq_false_iff] at alone
        rcases kept with (labelled | booked) | deleted
        · cases labelled.symm.trans alone.1.1
        · cases booked.symm.trans alone.1.2
        · cases (deletes deleted).symm.trans alone.2

theorem Owned.mark (owned : system.Owned) {old : Scheduler (Work V)}
    (found : system.scheduler? id = some old) (new : Scheduler (Work V))
    (halted : old.halted = true → new.halted = true) (worker : new.worker = old.worker) :
    (system.putScheduler id new).Owned :=
  owned.put found new halted fun _ _ _ => worker

theorem any_set_of_eq {α : Type*} {list : List α} {index : Nat} {old : α}
    (found : list[index]? = some old) (new : α) (kind : α → Bool) (same : kind old = kind new) :
    (list.set index new).any kind = list.any kind := by
  have flags := congrArg (List.any · id) (map_set_of_eq found new kind same)
  rwa [List.any_map, List.any_map] at flags

theorem Owned.putCache (owned : system.Owned) {target : CacheId} {old : Cache V}
    (found : system.cache? target = some old) (new : Cache V)
    (scheduler : new.scheduler = old.scheduler) (dropped : new.dropped = old.dropped) :
    (system.putCache target new).Owned := by
  refine owned.goOn (.of_eq rfl rfl) (fun absent => absent) (fun {id} kept => ?_) ?_
  · have held : system.caches.toList[target.index]? = some old := by
      rw [Array.getElem?_toList]
      exact found
    rw [keepsScheduler, ← Array.any_toList] at kept ⊢
    rw [System.putCache, Array.toList_setIfInBounds,
      any_set_of_eq held new _ (by rw [scheduler, dropped])]
    exact kept
  · refine ⟨fun _ _ kept => (keepsCache_congr rfl rfl (fun _ => rfl) _).trans kept, ?_⟩
    intro id cache seen
    by_cases same : id = target
    · subst same
      cases (cache?_putCache_self found new).symm.trans seen
      exact ⟨old, found, dropped.trans⟩
    · rw [cache?_putCache_of_ne system same] at seen
      exact ⟨cache, seen, fun gone => gone⟩

theorem Owned.append (owned : system.Owned) (call : Call) :
    ({ system with calls := system.calls ++ [call] } : System V).Owned := by
  refine owned.goOn (.of_eq rfl rfl) (fun absent => absent) (fun {id} kept => ?_)
    (.of_eq rfl rfl rfl fun _ => rfl)
  simp only [keepsScheduler, Bool.or_eq_true, List.any_append] at kept ⊢
  exact kept.imp_right .inl

theorem Owned.setStage (owned : system.Owned) (found : system.calls[position]? = some call)
    (stage : Stage) : (system.setStage position call stage).Owned := by
  refine owned.goOn (.of_eq rfl rfl) (fun absent => absent) (fun {id} kept => ?_)
    (.of_eq rfl rfl rfl fun _ => rfl)
  rw [keepsScheduler, System.setStage, any_set_of_eq found { call with stage } _ rfl]
  exact kept

theorem Owned.returnTo (owned : system.Owned) (caller : Caller) : (system.returnTo caller).Owned := by
  cases caller <;> exact owned.congr rfl rfl rfl rfl rfl rfl

theorem Owned.report (owned : system.Owned) (event : Event V) : (system.report event).Owned :=
  owned.congr rfl rfl rfl rfl rfl rfl

theorem Owned.submit (owned : system.Owned) (scheduler handle : Label) (due : Due)
    (script : Script V) : (system.submit scheduler handle due script).2.Owned := by
  unfold System.submit
  split
  · exact owned
  · rename_i id target located
    have found := scheduler?_of_schedulerAt? located
    split
    · exact owned
    · split
      · exact owned
      · rename_i accepted
        rw [submit?_of_found found] at accepted
        obtain ⟨_, taken, same⟩ := Option.map_eq_some_iff.1 accepted
        cases same
        obtain ⟨_, _, _, _, _, same⟩ := Scheduler.eq_of_submit? taken
        refine Owned.congr (owned.mark found _ ?_ ?_) rfl rfl rfl rfl rfl rfl
        · rw [same]
          exact fun halted => halted
        · rw [same]
          rfl

theorem Owned.cancelTask (owned : system.Owned) (id : SchedulerId) (task : TaskId) :
    (system.cancelTask id task).2.Owned := by
  unfold System.cancelTask
  split
  · exact owned
  · rename_i found
    exact owned.mark found _ (Scheduler.halted_cancel ..).trans (Scheduler.worker_cancel ..)

theorem Owned.cancel (owned : system.Owned) (scheduler handle : Label) :
    (system.cancel scheduler handle).2.Owned := by
  unfold System.cancel
  split
  · exact owned
  · exact owned
  · rename_i id target held located _
    split
    · exact owned.cancelTask id held.id
    · exact owned.mark (scheduler?_of_schedulerAt? located) _ (fun halted => halted) rfl

theorem Owned.cancelToken (owned : system.Owned) (label : Label) :
    (system.cancelToken label).Owned := by
  refine owned.goOn (changes_cancelToken system label).evolves (fun absent => ?_)
    (fun kept => kept) (.of_eq rfl rfl rfl (Quiet.cancelToken system label).hands)
  rw [scheduler?, Array.getElem?_eq_none_iff] at absent ⊢
  exact Nat.le_trans (Nat.le_of_eq Array.size_map) absent

theorem owned_labelScheduler (system : System V) (label : Label) (id : SchedulerId) :
    (system.labelScheduler label id).Owned :=
  owned_sweep _

theorem owned_labelNewCache (system : System V) (label : Label) (id : SchedulerId) :
    (system.labelNewCache label id).Owned :=
  owned_sweep _

theorem owned_confirm (system : System V) (booking : Booking V) :
    (system.confirm booking).2.Owned :=
  owned_sweep _

/-- An access that has read the clock keeps what was kept. -/
theorem Owned.book (owned : system.Owned) {locked : System V} {id : CacheId} {cache : Cache V}
    {key : String} {access : Access V} {booking : Booking V} (found : system.cache? id = some cache)
    (booked : system.book id cache key access = .ok (booking, locked)) : locked.Owned := by
  obtain ⟨_, _, _, rfl⟩ := eq_of_book booked
  have advanced := owned.putCache found cache.advance rfl rfl
  refine ⟨advanced.halted, fun seen alone => advanced.dropped seen ?_⟩
  rw [keepsCache, Bool.or_eq_false_iff, Bool.or_eq_false_iff, List.any_cons,
    Bool.or_eq_false_iff] at alone
  rw [keepsCache, Bool.or_eq_false_iff, Bool.or_eq_false_iff]
  exact ⟨⟨alone.1.1, alone.1.2.2⟩, alone.2⟩

theorem Owned.delete (owned : system.Owned) {id : CacheId} {cache : Cache V} {key : String}
    (found : system.cache? id = some cache) : (system.delete id cache key).2.Owned := by
  cases present : cache.lease? key with
  | none =>
      rw [delete_of_none present]
      exact owned
  | some old =>
      obtain ⟨removed, loses, deleted⟩ := delete_eq_loses system id present
      rw [deleted]
      have held : (system.cancelTask cache.scheduler old.deletion).2.cache? id = some cache := by
        obtain ⟨_, same⟩ := cancelTask_eq system cache.scheduler old.deletion
        rw [same]
        exact found
      exact (owned.cancelTask _ _).putCache held removed loses.scheduler loses.dropped

theorem Owned.answer? (owned : system.Owned) {request : Request V} {reply : Reply V}
    (answered : system.answer? request = some (reply, after)) : after.Owned := by
  cases request with
  | create label settings =>
      cases answered
      exact owned_labelScheduler _ _ _
  | cancel scheduler handle =>
      rw [← snd_eq_of_some answered]
      exact owned.cancel _ _
  | cancelToken token =>
      cases answered
      exact owned.cancelToken _
  | openGate gate =>
      cases answered
      exact owned.congr rfl rfl rfl rfl rfl rfl
  | createCacheOn label scheduler =>
      rw [← snd_eq_of_some answered]
      unfold createCacheOn
      split
      · exact owned
      · exact owned_labelNewCache _ _ _
  | createCacheAlone label settings =>
      rw [← snd_eq_of_some answered]
      exact owned_labelNewCache _ _ _
  | schedulerOf cache scheduler =>
      rw [← snd_eq_of_some answered]
      unfold schedulerOf
      split
      · exact owned
      · exact owned_labelScheduler _ _ _
  | access label key access =>
      simp only [System.answer?, access?] at answered
      split at answered
      · cases answered
        exact owned
      · split at answered
        · split at answered
          · cases answered
            exact owned
          · cases answered
            exact owned_confirm _ _
        · cases answered
  | delete label key =>
      simp only [System.answer?, delete?] at answered
      split at answered
      · cases answered
        exact owned
      · rename_i located
        split at answered
        · rw [← snd_eq_of_some answered]
          exact owned.delete (cache?_of_cacheAt? located)
        · cases answered
  | consult label query =>
      obtain ⟨_, _, same⟩ := Option.map_eq_some_iff.1 answered
      cases same
      exact owned
  | _ =>
      cases answered
      exact owned

theorem Owned.leave (owned : system.Owned) (caller : Caller) (id : SchedulerId) :
    (system.leave caller id).Owned := by
  unfold System.leave
  split
  · exact owned.returnTo caller
  · split
    · exact owned.returnTo caller
    · rename_i scheduler found
      unfold awaitExit
      split
      · exact owned.returnTo caller
      · exact (owned.mark found scheduler.join (fun halted => halted) rfl).append _

theorem Owned.part? (owned : system.Owned) {caller : Caller} {parting : Parting}
    (begun : system.part? caller parting = .ok after) : after.Owned := by
  cases parting with
  | shutdown label =>
      simp only [System.part?] at begun
      split at begun <;> cases begun
      rename_i located
      unfold shutdown
      split
      · refine (owned.mark (scheduler?_of_schedulerAt? located) _ (fun halted => ?_) ?_).returnTo caller
        · unfold Scheduler.stopInside
          split <;> exact halted
        · unfold Scheduler.stopInside
          split <;> rfl
      · exact owned.append _
  | release label =>
      simp only [System.part?] at begun
      split at begun <;> cases begun
      exact (owned_sweep _).leave _ _
  | releaseCache label =>
      simp only [System.part?] at begun
      split at begun <;> cases begun
      unfold releaseCache
      dsimp only
      split
      · exact (owned_sweep _).returnTo _
      · exact (owned_sweep _).leave _ _

theorem owned_endCall (system : System V) (position : Nat) (call : Call) :
    (system.endCall position call).Owned :=
  (owned_sweep _).returnTo _

theorem Owned.moveCall? (owned : system.Owned) (move : system.moveCall? position = some moved) :
    moved.Owned := by
  obtain ⟨call, found, onTarget⟩ := Option.bind_eq_some_iff.1 move
  obtain ⟨scheduler, target, taken⟩ := Option.bind_eq_some_iff.1 onTarget
  split at taken
  · split at taken
    · dsimp only at taken
      split at taken <;> cases taken
      · exact owned_endCall _ _ _
      · refine (owned.mark target _ (fun halted => ?_) ?_).setStage found .joining
        · unfold Scheduler.close
          split <;> exact halted
        · unfold Scheduler.close
          split <;> rfl
    · cases taken
      exact owned.setStage found _
  · split at taken <;> cases taken
    exact owned.setStage found _
  · split at taken <;> cases taken
    exact owned_endCall _ _ _

/-- The work in hand ends, which is no deletion from a cache that was not dropped. -/
theorem Owned.finishTask (owned : system.Owned) (found : system.scheduler? id = some host)
    {task : TaskId} {work : Work V} (busy : host.worker = .busy task work)
    (ended : ∀ {cacheId cache}, work.cache? = some cacheId → system.cache? cacheId = some cache →
      cache.dropped = true) : (system.finishTask id host).Owned := by
  refine owned.put found _ (fun halted => (Scheduler.halted_signalDrained _).trans halted)
    fun held there still => ?_
  cases busy.symm.trans held
  cases still.symm.trans (ended rfl there)

theorem Owned.moveTask? (owned : system.Owned) {task : TaskId} {label handle : Label}
    {script : Script V} (found : system.scheduler? id = some host)
    (busy : host.worker = .busy task (.task label handle script))
    (move : system.moveTask? id host task label handle script = some moved) : moved.Owned := by
  have proceeds (rest : Script V) : (system.proceedTask id host task label handle rest).Owned :=
    owned.put found _ (fun halted => halted) fun held _ _ => by cases busy.symm.trans held
  cases script with
  | done =>
      cases move
      exact owned.finishTask found busy fun own => by cases own
  | panic payload =>
      cases move
      have failed : (system.finishTask id (host.fail task payload.message)).Owned := by
        refine owned.put found _ (fun halted => ?_) fun held _ _ => by cases busy.symm.trans held
        rw [Scheduler.finish, Scheduler.halted_signalDrained]
        unfold Scheduler.fail
        dsimp only
        split <;> exact halted
      unfold failTask
      dsimp only
      split
      · exact failed
      · exact failed.report _
  | wait gate rest =>
      simp only [System.moveTask?] at move
      split at move <;> cases move
      exact proceeds rest
  | threadName rest =>
      cases move
      exact (proceeds rest).report _
  | submit target name due act rest =>
      cases move
      exact ((proceeds rest).submit target name due act).report _
  | request request rest =>
      obtain ⟨⟨reply, answered⟩, answer, same⟩ := Option.map_eq_some_iff.1 move
      cases same
      exact ((proceeds rest).answer? answer).report _
  | part parting rest =>
      simp only [System.moveTask?] at move
      split at move <;> cases move
      · exact (proceeds rest).report _
      · rename_i begun
        exact (proceeds rest).part? begun

theorem Owned.moveLooking (owned : system.Owned) (found : system.scheduler? id = some host)
    (looking : host.worker = .looking) : (system.moveLooking id host).Owned := by
  have looked : (system.putScheduler id (host.look system.now)).Owned :=
    owned.put found _ (Scheduler.continues_look host _).halted.trans
      fun held _ _ => by cases looking.symm.trans held
  unfold System.moveLooking
  dsimp only
  split
  · exact looked.report _
  · exact looked

theorem Owned.moveDeletion? (owned : system.Owned) (found : system.scheduler? id = some host)
    {task : TaskId} {cacheId : CacheId} {key : String} {generation : Nat}
    (busy : host.worker = .busy task (.deletion cacheId key generation))
    (move : system.moveDeletion? id host cacheId key generation = some moved) : moved.Owned := by
  unfold System.moveDeletion? at move
  split at move
  · rename_i missing
    cases move
    refine owned.finishTask found busy fun own there => ?_
    cases own
    cases missing.symm.trans there
  · rename_i cache present
    split at move
    · rename_i gone
      cases move
      refine owned.finishTask found busy fun own there => ?_
      cases own
      cases present.symm.trans there
      exact gone
    · split at move <;> cases move
      exact owned_sweep _

theorem Owned.moveWorker? (owned : system.Owned) (move : system.moveWorker? id = some moved) :
    moved.Owned := by
  obtain ⟨scheduler, found, taken⟩ := Option.bind_eq_some_iff.1 move
  have wakes {woken : Scheduler (Work V)} (woke : scheduler.wake? system.now = some woken) :
      (system.putScheduler id woken).Owned := by
    have wakes := Scheduler.wakes_of_wake? woke
    exact owned.put found _ wakes.halted.trans fun held _ _ => absurd held wakes.ne_busy
  split at taken
  · rename_i looking
    cases taken
    exact owned.moveLooking found looking
  · rename_i busy
    split at taken
    · exact owned.moveCall? taken
    · exact owned.moveTask? found busy taken
  · rename_i busy
    exact owned.moveDeletion? found busy taken
  · obtain ⟨woken, woke, same⟩ := Option.map_eq_some_iff.1 taken
    cases same
    exact wakes woke

theorem Owned.perform (owned : system.Owned) (deed : Session.Deed V) :
    (Session.perform system deed).2.Owned := by
  cases deed with
  | submit scheduler handle due script => exact owned.submit _ _ _ _
  | request request =>
      simp only [Session.perform]
      cases answer : system.answer? request with
      | none => exact owned
      | some answered => exact owned.answer? answer
  | part parting helper =>
      simp only [Session.perform]
      split
      · exact owned
      · rename_i begun
        exact owned.part? begun

theorem Owned.step (owned : before.Owned) (step : Step before after) : after.Owned := by
  cases step with
  | deed deed => exact owned.perform deed
  | book located _ booked => exact owned.book (cache?_of_cacheAt? located) booked
  | confirm _ => exact owned_confirm _ _
  | worker move => exact owned.moveWorker? move
  | call move => exact owned.moveCall? move
  | pass _ => exact owned.congr rfl rfl rfl rfl rfl rfl

theorem Reachable.owned (reachable : Reachable system) : system.Owned := by
  induction reachable with
  | start =>
      exact ⟨fun found => by simp [scheduler?] at found, fun found => by simp [cache?] at found⟩
  | step _ step inductionHypothesis => exact inductionHypothesis.step step

end Owners

end System

end Agenda
