import Agenda.System.Answering
import Agenda.System.Calls
import Agenda.System.Quiescence.Sums
import Agenda.System.Quiescence.Worker

/-!
What calls on a system add to the bounds on its moves.
-/

namespace Agenda

universe u

variable {V : Type u}

/-- A change of a system that adds at most `moves` to its stock and at most `calls` to the calls
that it can have. -/
structure Costs (before after : System V) (moves calls : Nat) : Prop where
  stock : after.stock ≤ before.stock + moves
  partings : after.partings ≤ before.partings + calls

namespace Costs

theorem refl (system : System V) : Costs system system 0 0 := ⟨Nat.le_refl _, Nat.le_refl _⟩

theorem trans {first second third : System V} {moves moves' calls calls' : Nat}
    (before : Costs first second moves calls) (after : Costs second third moves' calls') :
    Costs first third (moves + moves') (calls + calls') := by
  obtain ⟨_, _⟩ := before
  obtain ⟨_, _⟩ := after
  constructor <;> omega

theorem mono {before after : System V} {moves moves' calls calls' : Nat}
    (costs : Costs before after moves calls) (more : moves ≤ moves') (later : calls ≤ calls') :
    Costs before after moves' calls' := by
  obtain ⟨_, _⟩ := costs
  constructor <;> omega

theorem then_free {first second third : System V} {moves calls : Nat}
    (before : Costs first second moves calls) (after : Costs second third 0 0) :
    Costs first third moves calls := before.trans after

theorem after_free {first second third : System V} {moves calls : Nat}
    (before : Costs first second 0 0) (after : Costs second third moves calls) :
    Costs first third moves calls := (before.trans after).mono (by omega) (by omega)

end Costs

namespace System

variable (system : System V)

theorem getElem?_schedulers {id : SchedulerId} {scheduler : Scheduler (Work V)}
    (found : system.scheduler? id = some scheduler) :
    system.schedulers.toList[id.index]? = some scheduler := by
  simpa [scheduler?] using found

theorem stock_putScheduler {id : SchedulerId} {old : Scheduler (Work V)}
    (new : Scheduler (Work V)) (found : system.scheduler? id = some old) :
    (system.putScheduler id new).stock + old.weight system.now
      = system.stock + new.weight system.now := by
  have changed := total_set (fun scheduler => scheduler.weight system.now) new
    (system.getElem?_schedulers found)
  simp only [stock, putScheduler, Array.toList_setIfInBounds]
  omega

theorem partings_putScheduler {id : SchedulerId} {old : Scheduler (Work V)}
    (new : Scheduler (Work V)) (found : system.scheduler? id = some old) :
    (system.putScheduler id new).partings + old.partings = system.partings + new.partings := by
  have changed := total_set Scheduler.partings new (system.getElem?_schedulers found)
  simp only [partings, putScheduler, Array.toList_setIfInBounds]
  omega

theorem costs_putScheduler {id : SchedulerId} {old new : Scheduler (Work V)} {moves calls : Nat}
    (found : system.scheduler? id = some old)
    (weight : new.weight system.now ≤ old.weight system.now + moves)
    (partings : new.partings ≤ old.partings + calls) :
    Costs system (system.putScheduler id new) moves calls := by
  have stock := system.stock_putScheduler new found
  have stored := system.partings_putScheduler new found
  constructor <;> omega

theorem costs_sweep : Costs system system.sweep 0 0 := by
  constructor
  · have halted := total_mapIdx_le (fun scheduler => scheduler.weight system.now)
      (fun index (scheduler : Scheduler (Work V)) =>
        if system.sweepCaches.keepsScheduler ⟨index⟩ then scheduler else scheduler.halt)
      (fun index scheduler => by
        split
        · exact Nat.le_refl _
        · exact scheduler.weight_halt_le system.now)
      system.schedulers.toList
    simp only [stock, sweep, sweepSchedulers, sweepCaches, Array.toList_mapIdx] at halted ⊢
    omega
  · have halted := total_mapIdx_le Scheduler.partings
      (fun index (scheduler : Scheduler (Work V)) =>
        if system.sweepCaches.keepsScheduler ⟨index⟩ then scheduler else scheduler.halt)
      (fun index scheduler => by
        split
        · exact Nat.le_refl _
        · exact Nat.le_of_eq scheduler.partings_halt)
      system.schedulers.toList
    simp only [partings, sweep, sweepSchedulers, sweepCaches, Array.toList_mapIdx] at halted ⊢
    omega

theorem costs_cancelToken (label : Label) : Costs system (system.cancelToken label) 0 0 := by
  constructor
  · have halted := total_map_le
      (f := fun scheduler : Scheduler (Work V) => scheduler.weight system.now)
      (fun scheduler => if scheduler.settings.token = .named label then scheduler.halt
        else scheduler)
      (fun scheduler => by
        split
        · exact scheduler.weight_halt_le system.now
        · exact Nat.le_refl _)
      system.schedulers.toList
    simp only [stock, cancelToken, Array.toList_map]
    omega
  · have halted := total_map_le (f := Scheduler.partings)
      (fun scheduler : Scheduler (Work V) =>
        if scheduler.settings.token = .named label then scheduler.halt else scheduler)
      (fun scheduler => by split <;> simp)
      system.schedulers.toList
    simp only [partings, cancelToken, Array.toList_map]
    omega

theorem costs_createScheduler (settings : Settings) :
    Costs system (system.createScheduler settings).2 6 0 := by
  constructor
  · simp only [stock, createScheduler, Array.toList_push, total_append, total_cons, total_nil,
      Scheduler.start, Scheduler.weight_eq, Worker.weight, TaskQueue.weight_empty]
    split <;> simp <;> omega
  · simp [partings, createScheduler, Scheduler.start, Scheduler.partings, Worker.partings]

theorem costs_submit? {system filled : System V} {id : SchedulerId} {due : Int} {work : Work V}
    {task : TaskId} (accepted : system.submit? id due work = some (task, filled)) :
    Costs system filled (work.weight + 5) work.partings := by
  unfold submit? at accepted
  obtain ⟨scheduler, found, accepted⟩ := Option.bind_eq_some_iff.1 accepted
  obtain ⟨⟨number, full⟩, taken, same⟩ := Option.map_eq_some_iff.1 accepted
  cases same
  refine system.costs_putScheduler found ?_ ?_
  · have := Scheduler.weight_submit?_le system.now taken
    omega
  · exact Nat.le_of_eq (Scheduler.partings_submit? taken)

theorem costs_cancelTask (id : SchedulerId) (task : TaskId) :
    Costs system (system.cancelTask id task).2 0 0 := by
  unfold cancelTask
  split
  · exact Costs.refl system
  · rename_i scheduler found
    exact system.costs_putScheduler found (by simp) (by simp)

theorem costs_putCache (id : CacheId) (cache : Cache V) :
    Costs system (system.putCache id cache) 0 0 := ⟨Nat.le_refl _, Nat.le_refl _⟩

theorem costs_report (event : Event V) : Costs system (system.report event) 0 0 :=
  ⟨Nat.le_refl _, Nat.le_refl _⟩

theorem costs_unlock (booking : Booking V) : Costs system (system.unlock booking) 0 0 :=
  ⟨Nat.le_refl _, Nat.le_refl _⟩

theorem costs_book {system locked : System V} {id : CacheId} {cache : Cache V} {key : String}
    {access : Access V} {booking : Booking V}
    (booked : system.book id cache key access = .ok (booking, locked)) :
    Costs system locked 0 0 := by
  unfold book at booked
  split at booked
  · cases booked
  · cases booked
  · cases booked
    exact ⟨Nat.le_refl _, Nat.le_refl _⟩

theorem costs_extend (booking : Booking V) (cache : Cache V) (lease : Lease V)
    (deletion : TaskId) (deadline : Int) :
    Costs system (system.extend booking cache lease deletion deadline) 0 0 :=
  (system.costs_cancelTask cache.scheduler lease.deletion).then_free (costs_putCache _ _ _)

theorem costs_replace (booking : Booking V) (cache : Cache V) (value : V) (deletion : TaskId)
    (deadline : Int) :
    Costs system (system.replace booking cache value deletion deadline).2 0 0 := by
  unfold replace
  dsimp only
  split
  · exact costs_putCache _ _ _
  · exact (costs_putCache _ _ _).then_free (costs_cancelTask _ _ _)

theorem costs_fulfil (booking : Booking V) (cache : Cache V) (deletion : TaskId)
    (deadline : Int) :
    Costs system (system.fulfil booking cache deletion deadline).2 0 0 := by
  unfold fulfil
  split
  · split
    · exact Costs.refl system
    · exact costs_extend _ _ _ _ _ _
  · exact costs_replace _ _ _ _ _ _
  · exact costs_replace _ _ _ _ _ _

theorem costs_decline (booking : Booking V) (cache : Cache V) (error : SchedulerError) :
    Costs system (system.decline booking cache error).2 0 0 := by
  unfold decline
  split
  · exact costs_putCache _ _ _
  · exact Costs.refl system

theorem costs_resolve (booking : Booking V) : Costs system (system.resolve booking).2 6 0 := by
  have free : Costs system system 6 0 := (Costs.refl system).mono (by omega) (by omega)
  unfold resolve
  split
  · exact free
  · exact free
  · split
    · exact free
    · split
      · exact (costs_decline _ _ _ _).mono (by omega) (by omega)
      · rename_i accepted
        exact (costs_submit? accepted).then_free (costs_fulfil _ _ _ _ _)

theorem costs_confirm (booking : Booking V) : Costs system (system.confirm booking).2 6 0 :=
  ((system.costs_resolve booking).then_free (costs_unlock _ _)).then_free (costs_sweep _)

theorem costs_delete (id : CacheId) (cache : Cache V) (key : String) :
    Costs system (system.delete id cache key).2 0 0 := by
  unfold delete
  split
  · exact Costs.refl system
  · exact (costs_cancelTask _ _ _).then_free (costs_putCache _ _ _)

theorem costs_submit (scheduler handle : Label) (due : Due) (script : Script V) :
    Costs system (system.submit scheduler handle due script).2 (script.weight + 5)
      script.partings := by
  have free : Costs system system (script.weight + 5) script.partings :=
    (Costs.refl system).mono (by omega) (by omega)
  unfold submit
  split
  · exact free
  · split
    · exact free
    · split
      · exact free
      · rename_i accepted
        exact (costs_submit? accepted).then_free ⟨Nat.le_refl _, Nat.le_refl _⟩

theorem costs_cancel (scheduler handle : Label) :
    Costs system (system.cancel scheduler handle).2 0 0 := by
  unfold cancel
  split
  · exact Costs.refl system
  · exact Costs.refl system
  · rename_i found _
    split
    · exact costs_cancelTask _ _ _
    · exact system.costs_putScheduler (scheduler?_of_schedulerAt? found) (by simp [Scheduler.disown])
        (by simp [Scheduler.disown])

theorem costs_labelScheduler (label : Label) (id : SchedulerId) :
    Costs system (system.labelScheduler label id) 0 0 := by
  have labelled : Costs system
      { system with schedulerLabels := system.schedulerLabels.insert label id } 0 0 :=
    ⟨Nat.le_refl _, Nat.le_refl _⟩
  exact labelled.then_free (costs_sweep _)

theorem costs_labelNewCache (label : Label) (scheduler : SchedulerId) :
    Costs system (system.labelNewCache label scheduler) 0 0 := by
  have labelled : Costs system
      { (system.createCache scheduler).2 with
        cacheLabels := system.cacheLabels.insert label (system.createCache scheduler).1 } 0 0 :=
    ⟨Nat.le_refl _, Nat.le_refl _⟩
  exact labelled.then_free (costs_sweep _)

theorem costs_create (label : Label) (settings : Settings) :
    Costs system (system.create label settings).2 6 0 :=
  (system.costs_createScheduler settings).then_free (costs_labelScheduler _ _ _)

theorem costs_createCacheOn (label scheduler : Label) :
    Costs system (system.createCacheOn label scheduler).2 0 0 := by
  unfold createCacheOn
  split
  · exact Costs.refl system
  · exact costs_labelNewCache _ _ _

theorem costs_createCacheAlone (label : Label) (settings : Settings) :
    Costs system (system.createCacheAlone label settings).2 6 0 :=
  (system.costs_createScheduler settings).then_free (costs_labelNewCache _ _ _)

theorem costs_schedulerOf (cache scheduler : Label) :
    Costs system (system.schedulerOf cache scheduler).2 0 0 := by
  unfold schedulerOf
  split
  · exact Costs.refl system
  · exact costs_labelScheduler _ _ _

variable {system}

theorem costs_access? {after : System V} {label : Label} {key : String} {access : Access V}
    {reply : Reply V} (answered : system.access? label key access = some (reply, after)) :
    Costs system after 6 0 := by
  unfold access? at answered
  split at answered
  · cases answered
    exact (Costs.refl system).mono (by omega) (by omega)
  · split at answered
    · split at answered
      · cases answered
        exact (Costs.refl system).mono (by omega) (by omega)
      · rename_i booking _ booked
        rw [← snd_eq_of_some answered]
        exact (costs_book booked).after_free (costs_confirm _ booking)
    · cases answered

theorem costs_delete? {after : System V} {label : Label} {key : String} {reply : Reply V}
    (answered : system.delete? label key = some (reply, after)) : Costs system after 0 0 := by
  unfold delete? at answered
  split at answered
  · cases answered
    exact Costs.refl system
  · split at answered
    · rw [← snd_eq_of_some answered]
      exact costs_delete _ _ _ _
    · cases answered

theorem costs_answer? {after : System V} {request : Request V} {reply : Reply V}
    (answered : system.answer? request = some (reply, after)) : Costs system after 6 0 := by
  have free : Costs system system 6 0 := (Costs.refl system).mono (by omega) (by omega)
  cases request with
  | create label settings =>
      exact snd_eq_of_some answered ▸ (costs_create _ _ _).mono (by omega) (by omega)
  | inspect scheduler query => exact snd_eq_of_some answered ▸ free
  | cancel scheduler handle =>
      exact snd_eq_of_some answered ▸ (costs_cancel _ _ _).mono (by omega) (by omega)
  | fateOf handle => exact snd_eq_of_some answered ▸ free
  | cancelToken token =>
      exact snd_eq_of_some answered ▸ (costs_cancelToken _ _).mono (by omega) (by omega)
  | isCancelled token => exact snd_eq_of_some answered ▸ free
  | openGate gate => exact snd_eq_of_some answered ▸ ⟨free.stock, free.partings⟩
  | createCacheOn label scheduler =>
      exact snd_eq_of_some answered ▸ (costs_createCacheOn _ _ _).mono (by omega) (by omega)
  | createCacheAlone label settings =>
      exact snd_eq_of_some answered ▸ (costs_createCacheAlone _ _ _).mono (by omega) (by omega)
  | schedulerOf cache scheduler =>
      exact snd_eq_of_some answered ▸ (costs_schedulerOf _ _ _).mono (by omega) (by omega)
  | access label key access => exact costs_access? answered
  | delete label key => exact (costs_delete? answered).mono (by omega) (by omega)
  | consult label query =>
      obtain ⟨_, _, equal⟩ := Option.map_eq_some_iff.1 answered
      cases equal
      exact free

variable (system)

theorem costs_returnTo (caller : Caller) : Costs system (system.returnTo caller) 0 0 := by
  cases caller <;> exact ⟨Nat.le_refl _, Nat.le_refl _⟩

theorem costs_addCall (call : Call) :
    Costs system { system with calls := system.calls ++ [call] } call.weight 1 := by
  constructor
  · simp only [stock, total_append, total_cons, total_nil]
    omega
  · simp only [partings, List.length_append, List.length_cons, List.length_nil]
    omega

variable {system}

theorem costs_awaitExit (caller : Caller) {id : SchedulerId} {scheduler : Scheduler (Work V)}
    (found : system.scheduler? id = some scheduler) :
    Costs system (system.awaitExit caller id scheduler) 1 1 := by
  unfold awaitExit
  split
  · exact (costs_returnTo _ _).mono (by omega) (by omega)
  · have joined : Costs system (system.putScheduler id scheduler.join) 0 0 :=
      system.costs_putScheduler found (by simp) (by simp)
    exact joined.after_free (costs_addCall _ ⟨caller, id, false, .joining⟩)

variable (system)

theorem costs_leave (caller : Caller) (id : SchedulerId) :
    Costs system (system.leave caller id) 1 1 := by
  unfold leave
  split
  · exact (costs_returnTo _ _).mono (by omega) (by omega)
  · split
    · exact (costs_returnTo _ _).mono (by omega) (by omega)
    · rename_i found
      exact costs_awaitExit caller found

theorem costs_release (caller : Caller) (label : Label) (id : SchedulerId) :
    Costs system (system.release caller label id) 1 1 := by
  have unlabelled : Costs system
      { system with schedulerLabels := system.schedulerLabels.erase label } 0 0 :=
    ⟨Nat.le_refl _, Nat.le_refl _⟩
  exact (unlabelled.then_free (costs_sweep _)).after_free (costs_leave _ _ _)

theorem costs_releaseCache (caller : Caller) (label : Label) (id : CacheId)
    (scheduler : SchedulerId) :
    Costs system (system.releaseCache caller label id scheduler) 1 1 := by
  have unlabelled : Costs system
      { system with cacheLabels := system.cacheLabels.erase label } 0 0 :=
    ⟨Nat.le_refl _, Nat.le_refl _⟩
  have swept := unlabelled.then_free (costs_sweep _)
  unfold releaseCache
  dsimp only
  split
  · exact (swept.then_free (costs_returnTo _ _)).mono (by omega) (by omega)
  · exact swept.after_free (costs_leave _ _ _)

variable {system}

theorem costs_shutdown (caller : Caller) {id : SchedulerId} {scheduler : Scheduler (Work V)}
    (found : system.scheduler? id = some scheduler) :
    Costs system (system.shutdown caller id scheduler) 4 1 := by
  unfold shutdown
  split
  · have stopped : Costs system (system.putScheduler id scheduler.stopInside) 0 0 :=
      system.costs_putScheduler found (by simp) (by simp)
    exact (stopped.then_free (costs_returnTo _ _)).mono (by omega) (by omega)
  · exact costs_addCall _ _

theorem costs_part? {after : System V} {caller : Caller} {parting : Parting}
    (begun : system.part? caller parting = .ok after) : Costs system after 4 1 := by
  cases parting with
  | shutdown label =>
      simp only [part?] at begun
      split at begun <;> cases begun
      rename_i found
      exact costs_shutdown caller (scheduler?_of_schedulerAt? found)
  | release label =>
      simp only [part?] at begun
      split at begun <;> cases begun
      exact (costs_release _ _ _ _).mono (by omega) (by omega)
  | releaseCache label =>
      simp only [part?] at begun
      split at begun <;> cases begun
      exact (costs_releaseCache _ _ _ _ _).mono (by omega) (by omega)

end System

end Agenda
