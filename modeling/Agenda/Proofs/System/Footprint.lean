import Agenda.Proofs.System.Confining

/-!
# The footprint of each operation

Every operation stays within its scope: the caches that it touches, the schedulers that it concerns,
and the token that it cancels.
-/

namespace Agenda

universe u

variable {V : Type u}

def Scope.Covers (scope : Scope) (system : System V) : Prop :=
  ∀ {place cache}, system.cache? place = some cache → scope.caches place →
    scope.schedulers cache.scheduler

structure Scope.Admits (scope : Scope) (system : System V) (demand : Demand V) : Prop where
  caches : ∀ {label place}, demand.cache? = some label → system.cacheLabels[label]? = some place →
    scope.caches place
  schedulers : ∀ {label id}, demand.scheduler? = some label →
    system.schedulerLabels[label]? = some id → scope.schedulers id
  token : ∀ {token}, demand.token? = some token → scope.tokens token
  cancels : ∀ {token id host}, demand.token? = some token → system.scheduler? id = some host →
    host.settings.token = .named token → scope.schedulers id

namespace System

variable {scope : Scope} {system before after moved : System V} {id : SchedulerId}
  {host : Scheduler (Work V)} {place : CacheId} {cache : Cache V} {caller : Caller}
  {booking : Booking V}

/-- No cache that is held has been dropped. -/
def Tame (system : System V) : Prop := ∀ place, ¬ system.IsStray place

theorem Tame.dropped (tame : system.Tame) {label : Label}
    (located : system.cacheAt? label = some (place, cache)) : cache.dropped = false := by
  obtain ⟨_, named, same⟩ := Option.bind_eq_some_iff.1 located
  obtain ⟨_, found, same⟩ := Option.map_eq_some_iff.1 same
  cases same
  rw [← Bool.not_eq_true]
  exact fun gone => tame _ ⟨.inl ⟨label, named⟩, cache, found, gone⟩

theorem label_of_cacheAt? {label : Label} (located : system.cacheAt? label = some (place, cache)) :
    system.cacheLabels[label]? = some place := by
  obtain ⟨_, named, same⟩ := Option.bind_eq_some_iff.1 located
  obtain ⟨_, _, same⟩ := Option.map_eq_some_iff.1 same
  cases same
  exact named

theorem label_of_schedulerAt? {label : Label}
    (located : system.schedulerAt? label = some (id, host)) :
    system.schedulerLabels[label]? = some id := by
  obtain ⟨_, named, same⟩ := Option.bind_eq_some_iff.1 located
  obtain ⟨_, _, same⟩ := Option.map_eq_some_iff.1 same
  cases same
  exact named

section Requests

theorem confined_submit?  {filled : System V} {due : Int} {work : Work V} {task : TaskId}
    (own : scope.schedulers id) (accepted : system.submit? id due work = some (task, filled)) :
    Confined scope system filled := by
  obtain ⟨scheduler, found, accepted⟩ := Option.bind_eq_some_iff.1 accepted
  obtain ⟨⟨_, full⟩, taken, same⟩ := Option.map_eq_some_iff.1 accepted
  cases same
  obtain ⟨_, _, _, _, _, rfl⟩ := Scheduler.eq_of_submit? taken
  exact confined_mark found own _ rfl (fun halted => halted) rfl

theorem confined_submit {label : Label} (admits : scope.Admits system (.submit label))
    (handle : Label) (due : Due) (script : Script V) :
    Confined scope system (system.submit label handle due script).2 := by
  unfold submit
  split
  · exact confined_of_eq rfl rfl rfl rfl rfl rfl rfl
  · rename_i located
    split
    · exact confined_of_eq rfl rfl rfl rfl rfl rfl rfl
    · split
      · exact confined_of_eq rfl rfl rfl rfl rfl rfl rfl
      · rename_i accepted
        refine (confined_submit? ?_ accepted).trans (confined_of_eq rfl rfl rfl rfl rfl rfl rfl)
        exact admits.schedulers rfl (label_of_schedulerAt? located)

theorem confined_cancelTask (own : scope.schedulers id) (task : TaskId) :
    Confined scope system (system.cancelTask id task).2 := by
  unfold cancelTask
  split
  · exact confined_of_eq rfl rfl rfl rfl rfl rfl rfl
  · rename_i found
    refine confined_mark found own _ (Scheduler.settings_cancel ..) (fun halted => ?_)
      (Scheduler.worker_cancel ..)
    exact (Scheduler.halted_cancel ..).symm.trans halted

theorem confined_cancel {label handle : Label}
    (admits : scope.Admits system (.request (.cancel label handle))) :
    Confined scope system (system.cancel label handle).2 := by
  unfold cancel
  split
  · exact confined_of_eq rfl rfl rfl rfl rfl rfl rfl
  · exact confined_of_eq rfl rfl rfl rfl rfl rfl rfl
  · rename_i located _
    have own := admits.schedulers rfl (label_of_schedulerAt? located)
    split
    · exact confined_cancelTask own _
    · exact confined_mark (scheduler?_of_schedulerAt? located) own _ rfl (fun halted => halted) rfl

theorem confined_replace (found : system.cache? booking.cache = some cache)
    (own : scope.caches booking.cache) (hosted : scope.schedulers cache.scheduler) (value : V)
    (deletion : TaskId) (deadline : Int) :
    Confined scope system (system.replace booking cache value deletion deadline).2 := by
  have stored : Confined scope system _ := confined_putCache found own (cache.store booking.key
    ⟨value, booking.ttl, deletion, booking.generation, deadline⟩) rfl rfl
  unfold replace
  dsimp only
  split
  · exact stored
  · exact stored.trans (confined_cancelTask hosted _)

theorem confined_extend (found : system.cache? booking.cache = some cache)
    (own : scope.caches booking.cache) (hosted : scope.schedulers cache.scheduler)
    (lease : Lease V) (deletion : TaskId) (deadline : Int) :
    Confined scope system (system.extend booking cache lease deletion deadline) := by
  have still : (system.cancelTask cache.scheduler lease.deletion).2.cache? booking.cache =
      some cache := by
    obtain ⟨_, same⟩ := cancelTask_eq system cache.scheduler lease.deletion
    rw [same]
    exact found
  have noted (inTime : Bool) : (if inTime then cache else cache.note (.outlived booking.key)).scheduler
      = cache.scheduler ∧
      (if inTime then cache else cache.note (.outlived booking.key)).dropped = cache.dropped := by
    cases inTime <;> exact ⟨rfl, rfl⟩
  exact (confined_cancelTask hosted lease.deletion).trans
    (confined_putCache still own _ (noted _).1 (noted _).2)

theorem confined_fulfil (found : system.cache? booking.cache = some cache)
    (own : scope.caches booking.cache) (hosted : scope.schedulers cache.scheduler)
    (deletion : TaskId) (deadline : Int) :
    Confined scope system (system.fulfil booking cache deletion deadline).2 := by
  unfold fulfil
  split
  · split
    · exact confined_of_eq rfl rfl rfl rfl rfl rfl rfl
    · exact confined_extend found own hosted _ _ _
  · exact confined_replace found own hosted _ _ _
  · exact confined_replace found own hosted _ _ _

theorem confined_resolve (own : scope.caches booking.cache)
    (hosted : ∀ {cache}, system.cache? booking.cache = some cache →
      scope.schedulers cache.scheduler) : Confined scope system (system.resolve booking).2 := by
  unfold resolve
  split
  · exact confined_of_eq rfl rfl rfl rfl rfl rfl rfl
  · exact confined_of_eq rfl rfl rfl rfl rfl rfl rfl
  · rename_i store _ found
    split
    · exact confined_of_eq rfl rfl rfl rfl rfl rfl rfl
    · split
      · unfold decline
        split
        · exact confined_putCache found own _ rfl rfl
        · exact confined_of_eq rfl rfl rfl rfl rfl rfl rfl
      · rename_i filled accepted
        have still : filled.cache? booking.cache = some store := by
          obtain ⟨_, _, accepted⟩ := Option.bind_eq_some_iff.1 accepted
          obtain ⟨_, _, same⟩ := Option.map_eq_some_iff.1 accepted
          cases same
          exact found
        exact (confined_submit? (hosted found) accepted).trans
          (confined_fulfil still own (hosted found) _ _)

theorem confined_unlock (own : scope.caches booking.cache) :
    Confined scope system (system.unlock booking) := by
  refine confined_rebook (fun other listed apart => ⟨other, List.mem_filter.2 ⟨listed, ?_⟩, rfl⟩)
    fun other listed => .inr ⟨other, (List.mem_filter.1 listed).1, rfl⟩
  have different : other.cache ≠ booking.cache := fun same => apart (same ▸ own)
  simp [different]

theorem confined_confirm (owned : system.Owned) (covers : scope.Covers system)
    (own : scope.caches booking.cache) : Confined scope system (system.confirm booking).2 :=
  ((confined_resolve own fun found => covers found own).trans (confined_unlock own)).sweep owned
    covers

/-- An access takes the lock of a cache that has a label. -/
theorem confined_book {locked : System V} {label : Label} {key : String} {access : Access V}
    (located : system.cacheAt? label = some (place, cache)) (own : scope.caches place)
    (booked : system.book place cache key access = .ok (booking, locked)) :
    Confined scope system locked := by
  obtain ⟨_, _, rfl, rfl⟩ := eq_of_book booked
  have named := label_of_cacheAt? located
  refine (confined_putCache (cache?_of_cacheAt? located) own cache.advance rfl rfl).trans
    (confined_rebook (fun other listed _ => ⟨other, List.mem_cons_of_mem _ listed, rfl⟩)
      fun other listed => ?_)
  rcases List.mem_cons.1 listed with rfl | earlier
  · exact .inl ⟨label, named⟩
  · exact .inr ⟨other, earlier, rfl⟩

theorem confined_delete (found : system.cache? place = some cache) (own : scope.caches place)
    (hosted : scope.schedulers cache.scheduler) (key : String) :
    Confined scope system (system.delete place cache key).2 := by
  cases present : cache.lease? key with
  | none =>
      rw [delete_of_none present]
      exact confined_of_eq rfl rfl rfl rfl rfl rfl rfl
  | some old =>
      obtain ⟨removed, loses, deleted⟩ := delete_eq_loses system place present
      rw [deleted]
      have still : (system.cancelTask cache.scheduler old.deletion).2.cache? place = some cache := by
        obtain ⟨_, same⟩ := cancelTask_eq system cache.scheduler old.deletion
        rw [same]
        exact found
      exact (confined_cancelTask hosted _).trans
        (confined_putCache still own removed loses.scheduler loses.dropped)

theorem confined_labelScheduler {grown : System V} (grows : Grows system grown)
    (owned : system.Owned) (covers : scope.Covers system) (label : Label) (id : SchedulerId)
    (displaced : ∀ {old}, system.schedulerLabels[label]? = some old → scope.schedulers old)
    (kept : ∀ {host}, system.scheduler? id = some host → system.keepsScheduler id = true) :
    Confined scope system (grown.labelScheduler label id) := by
  have relabelled : Confined scope system _ := grows.relabel system.caches
    (system.schedulerLabels.insert label id) system.cacheLabels (fun found => found) ?_ .inr ?_ ?_
    ?_ ?_
  · obtain ⟨_, rfl⟩ := grows.frame
    exact relabelled.sweep owned covers
  · intro other old named
    rw [getElem?_insert_label]
    split
    · rename_i same
      subst same
      exact .inl (displaced named)
    · exact .inr named
  · intro other old host named found
    rw [getElem?_insert_label] at named
    split at named
    · cases named
      exact kept found
    · exact keepsScheduler_of_label named
  · intro place cache host found used _
    exact keepsScheduler_iff.2 (.inr (.inl ⟨place, cache, found, used, rfl⟩))
  · exact fun named found gone => ⟨.inl ⟨_, named⟩, _, found, gone⟩
  · exact fun absent found => by cases absent.symm.trans found

theorem confined_labelNewCache {grown : System V} (grows : Grows system grown)
    (owned : system.Owned) (covers : scope.Covers system) (label : Label) (id : SchedulerId)
    (displaced : ∀ {old}, system.cacheLabels[label]? = some old → scope.caches old)
    (kept : ∀ {host}, system.scheduler? id = some host → system.keepsScheduler id = true) :
    Confined scope system (grown.labelNewCache label id) := by
  have size : grown.caches = system.caches := by
    obtain ⟨_, rfl⟩ := grows.frame
    rfl
  have pushed {place : CacheId} {cache : Cache V}
      (found : (grown.caches.push { scheduler := id })[place.index]? = some cache) :
      system.cache? place = some cache ∨ cache = { scheduler := id } := by
    rw [Array.getElem?_push, size] at found
    split at found
    · cases found
      exact .inr rfl
    · exact .inl found
  have relabelled : Confined scope system _ := grows.relabel
    (grown.caches.push { scheduler := id }) system.schedulerLabels
    (system.cacheLabels.insert label ⟨grown.caches.size⟩) ?_ .inr ?_ ?_ ?_ ?_ ?_
  · obtain ⟨_, rfl⟩ := grows.frame
    exact relabelled.sweep owned covers
  · intro place cache found
    rw [Array.getElem?_push, size, if_neg]
    · exact found
    · exact Nat.ne_of_lt (Array.getElem?_eq_some_iff.1 found).1
  · intro other old named
    rw [getElem?_insert_label]
    split
    · rename_i same
      subst same
      exact .inl (displaced named)
    · exact .inr named
  · exact fun named _ => keepsScheduler_of_label named
  · intro place cache host found used hosted
    rcases pushed found with old | rfl
    · exact keepsScheduler_iff.2 (.inr (.inl ⟨place, cache, old, used, rfl⟩))
    · exact kept hosted
  · intro other place cache named found gone
    rcases pushed found with old | rfl
    · rw [getElem?_insert_label] at named
      split at named
      · cases named
        have outside := (Array.getElem?_eq_some_iff.1 old).1
        rw [size] at outside
        exact absurd outside (Nat.lt_irrefl _)
      · exact ⟨.inl ⟨_, named⟩, cache, old, gone⟩
    · cases gone
  · intro place cache absent found
    rcases pushed found with old | rfl
    · cases absent.symm.trans old
    · rfl

theorem keepsScheduler_of_cacheAt? (tame : system.Tame) {label : Label}
    (located : system.cacheAt? label = some (place, cache)) :
    system.keepsScheduler cache.scheduler = true :=
  keepsScheduler_iff.2 (.inr (.inl ⟨place, cache, cache?_of_cacheAt? located, tame.dropped located,
    rfl⟩))

theorem scheduler?_size (system : System V) : system.scheduler? ⟨system.schedulers.size⟩ = none :=
  Array.getElem?_size

theorem confined_answer? (owned : system.Owned) (tame : system.Tame) (covers : scope.Covers system)
    {request : Request V} (admits : scope.Admits system (.request request)) {reply : Reply V}
    (answered : system.answer? request = some (reply, after)) : Confined scope system after := by
  have still : Confined scope system system := confined_of_eq rfl rfl rfl rfl rfl rfl rfl
  cases request with
  | create label settings =>
      cases answered
      refine confined_labelScheduler (grows_createScheduler system settings) owned covers label _
        (fun named => admits.schedulers rfl named) fun found => ?_
      cases (scheduler?_size system).symm.trans found
  | cancel label handle =>
      rw [← snd_eq_of_some answered]
      exact confined_cancel admits
  | cancelToken token =>
      cases answered
      exact confined_cancelToken token (fun found own => admits.cancels rfl found own)
        (admits.token rfl)
  | createCacheOn label scheduler =>
      rw [← snd_eq_of_some answered]
      unfold createCacheOn
      split
      · exact still
      · rename_i located
        exact confined_labelNewCache (.refl system) owned covers label _
          (fun named => admits.caches rfl named)
          fun _ => keepsScheduler_of_label (label_of_schedulerAt? located)
  | createCacheAlone label settings =>
      rw [← snd_eq_of_some answered]
      refine confined_labelNewCache (grows_createScheduler system settings) owned covers label _
        (fun named => admits.caches rfl named) fun found => ?_
      cases (scheduler?_size system).symm.trans found
  | schedulerOf place label =>
      rw [← snd_eq_of_some answered]
      unfold schedulerOf
      split
      · exact still
      · rename_i located
        exact confined_labelScheduler (.refl system) owned covers label _
          (fun named => admits.schedulers rfl named)
          fun _ => keepsScheduler_of_cacheAt? tame located
  | access label key access =>
      simp only [answer?, access?] at answered
      split at answered
      · cases answered
        exact still
      · rename_i place cache located
        have own := admits.caches rfl (label_of_cacheAt? located)
        split at answered
        · split at answered
          · cases answered
            exact still
          · rename_i booking locked booked
            cases answered
            obtain ⟨_, _, same, locks⟩ := eq_of_book booked
            have held : booking.cache = place := by rw [same]
            have holds : scope.caches booking.cache := by rwa [held]
            have booked := confined_book located own booked
            have ends := (booked.trans ((confined_resolve holds ?_).trans
              (confined_unlock holds))).sweep owned covers
            · exact ends
            · intro other found
              have present := cache?_of_cacheAt? located
              have hosted : scope.schedulers cache.scheduler := covers present own
              rw [held, locks] at found
              cases (cache?_putCache_self present _).symm.trans found
              exact hosted
        · cases answered
  | delete label key =>
      simp only [answer?, delete?] at answered
      split at answered
      · cases answered
        exact still
      · rename_i located
        have own := admits.caches rfl (label_of_cacheAt? located)
        have found := cache?_of_cacheAt? located
        split at answered
        · rw [← snd_eq_of_some answered]
          exact confined_delete found own (covers found own) key
        · cases answered
  | consult label query =>
      obtain ⟨_, _, same⟩ := Option.map_eq_some_iff.1 answered
      cases same
      exact still
  | _ =>
      cases answered
      exact confined_of_eq rfl rfl rfl rfl rfl rfl rfl

end Requests

section Calls

theorem confined_returnTo (caller : Caller) : Confined scope system (system.returnTo caller) := by
  cases caller <;> exact confined_of_eq rfl rfl rfl rfl rfl rfl rfl

theorem confined_recall_of_subset {calls : List Call}
    (kept : ∀ call ∈ system.calls, call.owner = true → ¬ scope.schedulers call.scheduler →
      ∃ other ∈ calls, other.owner = true ∧ other.scheduler = call.scheduler)
    (fewer : ∀ call ∈ calls, call.owner = true →
      ∃ other ∈ system.calls, other.owner = true ∧ other.scheduler = call.scheduler) :
    Confined scope system { system with calls } := by
  refine confined_recall ?_ fun call listed owner => ?_
  · rintro id ⟨call, listed, owner, rfl⟩ apart
    exact kept call listed owner apart
  · exact keepsScheduler_iff.2 (.inr (.inr (fewer call listed owner)))

theorem confined_awaitExit (found : system.scheduler? id = some host) (own : scope.schedulers id)
    (caller : Caller) : Confined scope system (system.awaitExit caller id host) := by
  unfold awaitExit
  split
  · exact confined_returnTo caller
  · have joined : Confined scope system _ :=
      confined_mark found own host.join rfl (fun halted => halted) rfl
    refine joined.trans (confined_recall_of_subset ?_ ?_)
    · intro call listed owner _
      exact ⟨call, List.mem_append_left _ listed, owner, rfl⟩
    · intro call listed owner
      rcases List.mem_append.1 listed with earlier | last
      · exact ⟨call, earlier, owner, rfl⟩
      · rw [List.mem_singleton.1 last] at owner
        cases owner

theorem confined_leave (own : scope.schedulers id) (caller : Caller) :
    Confined scope system (system.leave caller id) := by
  unfold leave
  split
  · exact confined_returnTo caller
  · split
    · exact confined_returnTo caller
    · rename_i found
      exact confined_awaitExit found own caller

/-- Somebody gives up a scheduler, a cache, or neither. -/
theorem confined_erase (owned : system.Owned) (covers : scope.Covers system) (label : Label)
    {schedulerLabels : Std.TreeMap Label SchedulerId} {cacheLabels : Std.TreeMap Label CacheId}
    (schedulers : schedulerLabels = system.schedulerLabels ∨
      schedulerLabels = system.schedulerLabels.erase label ∧
        ∀ {id}, system.schedulerLabels[label]? = some id → scope.schedulers id)
    (caches : cacheLabels = system.cacheLabels ∨ cacheLabels = system.cacheLabels.erase label ∧
      ∀ {place}, system.cacheLabels[label]? = some place → scope.caches place) :
    Confined scope system ({ system with schedulerLabels, cacheLabels } : System V).sweep := by
  have relabelled : Confined scope system _ := (Grows.refl system).relabel system.caches
    schedulerLabels cacheLabels (fun found => found) ?_ ?_ ?_ ?_ ?_ ?_
  · exact relabelled.sweep owned covers
  · intro other id named
    rcases schedulers with rfl | ⟨rfl, displaced⟩
    · exact .inr named
    · rw [getElem?_erase_label]
      split
      · rename_i same
        subst same
        exact .inl (displaced named)
      · exact .inr named
  · intro other place named
    rcases caches with rfl | ⟨rfl, displaced⟩
    · exact .inr named
    · rw [getElem?_erase_label]
      split
      · rename_i same
        subst same
        exact .inl (displaced named)
      · exact .inr named
  · intro other id host named _
    rcases schedulers with rfl | ⟨rfl, _⟩
    · exact keepsScheduler_of_label named
    · rw [getElem?_erase_label] at named
      split at named
      · cases named
      · exact keepsScheduler_of_label named
  · intro place cache host found used _
    exact keepsScheduler_iff.2 (.inr (.inl ⟨place, cache, found, used, rfl⟩))
  · intro other place cache named found gone
    refine ⟨.inl ⟨other, ?_⟩, cache, found, gone⟩
    rcases caches with rfl | ⟨rfl, _⟩
    · exact named
    · rw [getElem?_erase_label] at named
      split at named
      · cases named
      · exact named
  · exact fun absent found => by cases absent.symm.trans found

theorem confined_part? (owned : system.Owned) (covers : scope.Covers system) {parting : Parting}
    (admits : scope.Admits system (.part parting))
    (begun : system.part? caller parting = .ok after) : Confined scope system after := by
  cases parting with
  | shutdown label =>
      simp only [part?] at begun
      split at begun <;> cases begun
      rename_i located
      have named := label_of_schedulerAt? located
      unfold shutdown
      split
      · refine Confined.trans (confined_mark (scheduler?_of_schedulerAt? located)
          (admits.schedulers rfl named) _ ?_ (fun halted => ?_) ?_) (confined_returnTo caller)
        · unfold Scheduler.stopInside
          split <;> rfl
        · unfold Scheduler.stopInside at halted
          split at halted <;> exact halted
        · unfold Scheduler.stopInside
          split <;> rfl
      · refine confined_recall ?_ fun call listed owner => ?_
        · rintro id ⟨call, listed, owner, rfl⟩ _
          exact ⟨call, List.mem_append_left _ listed, owner, rfl⟩
        · rcases List.mem_append.1 listed with earlier | last
          · exact keepsScheduler_iff.2 (.inr (.inr ⟨call, earlier, owner, rfl⟩))
          · rw [List.mem_singleton.1 last]
            exact keepsScheduler_of_label named
  | release label =>
      simp only [part?] at begun
      split at begun <;> cases begun
      rename_i named
      refine (confined_erase owned covers label (.inr ⟨rfl, ?_⟩) (.inl rfl)).trans
        (confined_leave (admits.schedulers rfl named) caller)
      exact fun named => admits.schedulers rfl named
  | releaseCache label =>
      simp only [part?] at begun
      split at begun <;> cases begun
      rename_i place cache located
      have own := admits.caches rfl (label_of_cacheAt? located)
      have swept : Confined scope system (System.sweep
          { system with cacheLabels := system.cacheLabels.erase label }) :=
        confined_erase owned covers label (.inl rfl)
          (.inr ⟨rfl, fun named => admits.caches rfl named⟩)
      unfold releaseCache
      dsimp only
      split
      · exact swept.trans (confined_returnTo caller)
      · exact swept.trans (confined_leave (covers (cache?_of_cacheAt? located) own) caller)

variable {position : Nat} {call : Call}

theorem confined_setStage (found : system.calls[position]? = some call) (stage : Stage) :
    Confined scope system (system.setStage position call stage) := by
  have listed := List.mem_of_getElem? found
  refine confined_recall_of_subset (fun other held owner _ => ?_) fun other held owner => ?_
  · obtain ⟨index, inside, rfl⟩ := List.getElem_of_mem held
    by_cases same : index = position
    · subst same
      rw [List.getElem?_eq_getElem inside] at found
      cases found
      exact ⟨_, List.mem_set inside _, owner, rfl⟩
    · refine ⟨system.calls[index], ?_, owner, rfl⟩
      exact List.mem_of_getElem? ((List.getElem?_set_ne (Ne.symm same)).trans
        (List.getElem?_eq_getElem inside))
  · rcases List.mem_or_eq_of_mem_set held with earlier | rfl
    · exact ⟨other, earlier, owner, rfl⟩
    · exact ⟨call, listed, owner, rfl⟩

theorem confined_eraseCall (found : system.calls[position]? = some call)
    (own : scope.schedulers call.scheduler) :
    Confined scope system { system with calls := system.calls.eraseIdx position } := by
  refine confined_recall_of_subset (fun other held owner apart => ?_) fun other held owner =>
    ⟨other, List.mem_of_mem_eraseIdx held, owner, rfl⟩
  obtain ⟨index, inside, rfl⟩ := List.getElem_of_mem held
  refine ⟨_, List.mem_eraseIdx_iff_getElem.2 ⟨index, inside, ?_, rfl⟩, owner, rfl⟩
  rintro rfl
  rw [List.getElem?_eq_getElem inside] at found
  cases found
  exact apart own

theorem confined_moveCall? (owned : system.Owned) (covers : scope.Covers system)
    (found : system.calls[position]? = some call) (own : scope.schedulers call.scheduler)
    (move : system.moveCall? position = some moved) : Confined scope system moved := by
  obtain ⟨_, same, onTarget⟩ := Option.bind_eq_some_iff.1 move
  cases found.symm.trans same
  obtain ⟨scheduler, target, taken⟩ := Option.bind_eq_some_iff.1 onTarget
  split at taken
  · split at taken
    · have closed : Confined scope system
          (system.putScheduler call.scheduler scheduler.close) := by
        refine confined_mark target own _ ?_ (fun halted => ?_) ?_
        · unfold Scheduler.close
          split <;> rfl
        · unfold Scheduler.close at halted
          split at halted <;> exact halted
        · unfold Scheduler.close
          split <;> rfl
      dsimp only at taken
      split at taken <;> cases taken
      · exact ((closed.trans (confined_eraseCall found own)).sweep owned covers).trans
          (confined_returnTo _)
      · have joined := closed.trans (confined_mark (scheduler?_putScheduler_self target _) own
          scheduler.close.join rfl (fun halted => halted) rfl)
        rw [putScheduler_putScheduler] at joined
        have still : (system.putScheduler call.scheduler scheduler.close.join).calls[position]? =
          some call := found
        exact joined.trans (confined_setStage still .joining)
    · cases taken
      exact confined_setStage found _
  · split at taken <;> cases taken
    exact confined_setStage found _
  · split at taken <;> cases taken
    exact ((confined_eraseCall found own).sweep owned covers).trans (confined_returnTo _)

end Calls

section Moves

variable {task : TaskId}

/-- A worker that parks, wakes or looks leaves no deletion. -/
theorem confined_goOn (found : system.scheduler? id = some host) (own : scope.schedulers id)
    {new : Scheduler (Work V)} (continues : Scheduler.Continues host new)
    (hands : ∀ task place key generation, host.worker ≠ .busy task (.deletion place key generation)) :
    Confined scope system (system.putScheduler id new) :=
  confined_put found own new continues.settings continues.halted.symm.trans
    fun held => absurd held (hands _ _ _ _)

theorem confined_moveLooking (found : system.scheduler? id = some host) (own : scope.schedulers id)
    (looking : host.worker = .looking) : Confined scope system (system.moveLooking id host) := by
  have looked : Confined scope system (system.putScheduler id (host.look system.now)) :=
    confined_goOn found own (Scheduler.continues_look host _) fun _ _ _ _ held => by
      cases looking.symm.trans held
  unfold moveLooking
  dsimp only
  split
  · exact looked.trans (confined_of_eq rfl rfl rfl rfl rfl rfl rfl)
  · exact looked

theorem confined_failTask (found : system.scheduler? id = some host) (own : scope.schedulers id)
    {label handle : Label} {script : Script V}
    (busy : host.worker = .busy task (.task label handle script)) (message : String) :
    Confined scope system (system.failTask id host task message) := by
  have failed : Scheduler.Continues host (host.fail task message).finish := by
    refine Scheduler.Continues.trans ?_ (Scheduler.continues_finish _)
    unfold Scheduler.fail
    dsimp only
    split <;> exact ⟨rfl, rfl, .inl, rfl, List.Subset.refl _⟩
  have finished := confined_goOn found own failed fun _ _ _ _ held => by
    cases busy.symm.trans held
  unfold failTask
  dsimp only
  split
  · exact finished
  · exact finished.trans (confined_of_eq rfl rfl rfl rfl rfl rfl rfl)

theorem admits_put {demand : Demand V} (admits : scope.Admits system demand)
    (found : system.scheduler? id = some host) {new : Scheduler (Work V)}
    (settings : new.settings = host.settings) :
    scope.Admits (system.putScheduler id new) demand where
  caches := admits.caches
  schedulers := admits.schedulers
  token := admits.token
  cancels {token other third} named seen configured := by
    by_cases same : other = id
    · subst same
      cases (scheduler?_putScheduler_self found new).symm.trans seen
      exact admits.cancels named found ((congrArg Settings.token settings).symm.trans configured)
    · rw [scheduler?_putScheduler_of_ne system same] at seen
      exact admits.cancels named seen configured

theorem confined_moveTask? (owned : system.Owned) (tame : system.Tame)
    (covers : scope.Covers system) (found : system.scheduler? id = some host)
    (own : scope.schedulers id) {label handle : Label} {script : Script V}
    (busy : host.worker = .busy task (.task label handle script))
    (admits : ∀ {demand}, script.demand? = some demand → scope.Admits system demand)
    (move : system.moveTask? id host task label handle script = some moved) :
    Confined scope system moved := by
  have apart (task : TaskId) (place : CacheId) (key : String) (generation : Nat) :
      host.worker ≠ .busy task (.deletion place key generation) := fun held => by
    cases busy.symm.trans held
  have proceeds (rest : Script V) :
      Confined scope system (system.proceedTask id host task label handle rest) :=
    confined_put found own _ rfl (fun halted => halted) fun held => absurd held (apart _ _ _ _)
  have still (rest : Script V) : (system.proceedTask id host task label handle rest).Owned :=
    owned.put found _ (fun halted => halted) fun held _ _ => by cases busy.symm.trans held
  have calm (rest : Script V) : (system.proceedTask id host task label handle rest).Tame :=
    fun place stray => tame place ((proceeds rest).strays stray)
  have reported {after : System V} (ends : Confined scope system after) (event : Event V) :
      Confined scope system (after.report event) :=
    ends.trans (confined_of_eq rfl rfl rfl rfl rfl rfl rfl)
  cases script with
  | done =>
      cases move
      exact confined_goOn found own (Scheduler.continues_finish host) apart
  | panic payload =>
      cases move
      exact confined_failTask found own busy _
  | wait gate rest =>
      simp only [moveTask?] at move
      split at move <;> cases move
      exact proceeds rest
  | threadName rest =>
      cases move
      exact reported (proceeds rest) _
  | submit target name due act rest =>
      cases move
      refine reported ((proceeds rest).trans (confined_submit ?_ _ _ _)) _
      exact admits_put (admits rfl) found rfl
  | request request rest =>
      obtain ⟨⟨reply, answered⟩, answer, same⟩ := Option.map_eq_some_iff.1 move
      cases same
      refine reported ((proceeds rest).trans (confined_answer? (still rest) (calm rest) covers ?_
        answer)) _
      exact admits_put (admits rfl) found rfl
  | part parting rest =>
      simp only [moveTask?] at move
      split at move <;> cases move
      · exact reported (proceeds rest) _
      · rename_i begun
        exact (proceeds rest).trans (confined_part? (still rest) covers
          (admits_put (admits rfl) found rfl) begun)

theorem confined_moveDeletion? (owned : system.Owned) (covers : scope.Covers system)
    (found : system.scheduler? id = some host) (own : scope.schedulers id) {key : String}
    {generation : Nat} (busy : host.worker = .busy task (.deletion place key generation))
    (touched : scope.caches place)
    (move : system.moveDeletion? id host place key generation = some moved) :
    Confined scope system moved := by
  have finishes {system : System V} (found : system.scheduler? id = some host) :
      Confined scope system (system.finishTask id host) :=
    confined_put found own _ (Scheduler.continues_finish host).settings
      (Scheduler.continues_finish host).halted.symm.trans fun held => by
        cases busy.symm.trans held
        exact .inl touched
  unfold moveDeletion? at move
  split at move
  · cases move
    exact finishes found
  · rename_i cache present
    split at move
    · cases move
      exact finishes found
    · split at move <;> cases move
      refine Confined.sweep (Confined.trans (confined_putCache present touched _ ?_ ?_)
        (finishes found)) owned covers
      · exact Cache.scheduler_expire ..
      · exact Cache.dropped_expire ..

end Moves

section Steps

theorem covers_scope (system : System V) (operation : Operation V) :
    (operation.scope system).Covers system :=
  fun found touched => .cache touched found

theorem admits_scope {operation : Operation V} {demand : Demand V}
    (demanded : operation.demand? system = some demand) :
    (operation.scope system).Admits system demand where
  caches called named := .demand demanded called named
  schedulers called named := .demand demanded called named
  token {token} called := by
    cases demand with
    | request request =>
        cases request with
        | cancelToken other =>
            cases called
            exact demanded
        | _ => cases called
    | _ => cases called
  cancels called found configured := .token demanded called found configured

theorem confined_moveWorker? (owned : system.Owned) (tame : system.Tame)
    (move : system.moveWorker? id = some moved) :
    Confined ((Operation.worker id).scope system) system moved := by
  obtain ⟨host, found, taken⟩ := Option.bind_eq_some_iff.1 move
  have own : ((Operation.worker id).scope system).schedulers id := .worker id
  have covers : Scope.Covers _ system := covers_scope system (.worker id)
  have wakes {woken : Scheduler (Work V)} (woke : host.wake? system.now = some woken) :
      Confined ((Operation.worker id).scope system) system (system.putScheduler id woken) := by
    have wakes := Scheduler.wakes_of_wake? woke
    exact confined_goOn found own wakes.continues fun _ _ _ _ held => absurd held wakes.ne_busy
  split at taken
  · rename_i looking
    cases taken
    exact confined_moveLooking found own looking
  · rename_i task label handle script busy
    split at taken
    · rename_i position awaited
      obtain ⟨call, listed, _⟩ := Option.bind_eq_some_iff.1 taken
      exact confined_moveCall? owned covers listed (.own awaited listed) taken
    · rename_i free
      refine confined_moveTask? owned tame covers found own busy (fun demanded => ?_) taken
      refine admits_scope ?_
      have held := (hand?_of_found found).trans (Worker.hand?_eq_some_iff.2 busy)
      simp only [Operation.demand?, script?, free, held, Option.bind_some]
      exact demanded
  · rename_i task place key generation busy
    have held := (hand?_of_found found).trans (Worker.hand?_eq_some_iff.2 busy)
    exact confined_moveDeletion? owned covers found own busy (.deletion held) taken
  · obtain ⟨woken, woke, same⟩ := Option.map_eq_some_iff.1 taken
    cases same
    exact wakes woke

/-- Every operation stays within its scope. -/
theorem Does.confined {operation : Operation V} (owned : system.Owned) (tame : system.Tame)
    (does : system.Does operation after) : Confined (operation.scope system) system after := by
  have covers : Scope.Covers _ system := covers_scope system operation
  cases does with
  | deed deed =>
      cases deed with
      | submit scheduler handle due script => exact confined_submit (admits_scope rfl) _ _ _
      | request request =>
          simp only [Session.perform]
          cases answer : system.answer? request with
          | none => exact confined_of_eq rfl rfl rfl rfl rfl rfl rfl
          | some answered => exact confined_answer? owned tame covers (admits_scope rfl) answer
      | part parting helper =>
          simp only [Session.perform]
          split
          · exact confined_of_eq rfl rfl rfl rfl rfl rfl rfl
          · rename_i begun
            exact confined_part? owned covers (admits_scope rfl) begun
  | book located _ booked =>
      exact confined_book located (.book (label_of_cacheAt? located)) booked
  | confirm _ => exact confined_confirm owned covers (.confirm _)
  | worker move => exact confined_moveWorker? owned tame move
  | call move =>
      obtain ⟨call, listed, _⟩ := Option.bind_eq_some_iff.1 move
      exact confined_moveCall? owned covers listed (.call listed) move
  | pass _ => exact confined_of_eq rfl rfl rfl rfl rfl rfl rfl

/-- No cache that is held has been dropped. -/
theorem Reachable.tame (reachable : Reachable system) : system.Tame := by
  induction reachable with
  | start =>
      rintro place ⟨_, cache, found, _⟩
      simp [cache?] at found
  | step reached step inductionHypothesis =>
      obtain ⟨operation, does⟩ := step.exists_does
      exact fun place stray => inductionHypothesis place
        ((does.confined reached.owned inductionHypothesis).strays stray)

theorem Reachable.confined {operation : Operation V} (reachable : Reachable system)
    (does : system.Does operation after) : Confined (operation.scope system) system after :=
  does.confined reachable.owned reachable.tame

end Steps

end System

end Agenda
