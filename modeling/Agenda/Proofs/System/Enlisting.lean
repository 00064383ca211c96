import Agenda.Proofs.Scheduler.Continuing
import Agenda.Proofs.System.Change

/-!
# Which tasks come in

The number of tasks that a scheduler has accepted grows by the tasks it is given, and nothing else
joins its queue.  Only a submission gives a scheduler a task: whatever else is done to a system leaves
the number as it is, and what is queued was queued before.
-/

namespace Agenda.System

universe u

variable {V : Type u} {system before after : System V} {id : SchedulerId}
  {host : Scheduler (Work V)}

def issued (system : System V) (id : SchedulerId) : Nat :=
  ((system.scheduler? id).map fun host => host.roster.count).getD 0

def queued (system : System V) (id : SchedulerId) : List (Entry (Work V)) :=
  ((system.scheduler? id).map fun host => host.queue.toList).getD []

/-- From the first system to the second the schedulers are given these tasks, and no others. -/
structure Enlists (tasks : List (SchedulerId × Entry (Work V))) (before after : System V) : Prop where
  issued : ∀ id, after.issued id = before.issued id + tasks.countP fun task => task.1 = id
  queued : ∀ id, ∀ entry ∈ after.queued id, (id, entry) ∈ tasks ∨ entry ∈ before.queued id

theorem issued_of_found (found : system.scheduler? id = some host) :
    system.issued id = host.roster.count := by
  rw [issued, found]
  rfl

theorem queued_of_found (found : system.scheduler? id = some host) :
    system.queued id = host.queue.toList := by
  rw [queued, found]
  rfl

@[simp]
theorem queued_sweep (system : System V) (id : SchedulerId) :
    system.sweep.queued id = system.queued id := by
  have same : system.sweepCaches.scheduler? id = system.scheduler? id := rfl
  rw [queued, queued, sweep, scheduler?_sweepSchedulers, same]
  cases system.scheduler? id with
  | none => rfl
  | some host =>
      rw [Option.map_some]
      split <;> rfl

namespace Enlists

theorem refl (system : System V) : Enlists [] system system := ⟨fun _ => rfl, fun _ _ => .inr⟩

theorem trans {first second third : System V} {early late : List (SchedulerId × Entry (Work V))}
    (before : Enlists early first second) (after : Enlists late second third) :
    Enlists (early ++ late) first third where
  issued id := by
    rw [after.issued, before.issued, List.countP_append, Nat.add_assoc]
  queued id entry held := by
    rw [List.mem_append]
    rcases after.queued id entry held with new | held
    · exact .inl (.inr new)
    · exact (before.queued id entry held).imp_left .inl

theorem of_eq (schedulers : after.schedulers = before.schedulers) : Enlists [] before after where
  issued id := by
    rw [System.issued, scheduler?, schedulers]
    rfl
  queued id entry held := by
    rw [System.queued, scheduler?, schedulers] at held
    exact .inr held

theorem of_aside {middle : System V} {tasks : List (SchedulerId × Entry (Work V))}
    (enlists : Enlists tasks middle after) (schedulers : middle.schedulers = before.schedulers) :
    Enlists tasks before after :=
  (of_eq schedulers).trans enlists

theorem aside {middle : System V} {tasks : List (SchedulerId × Entry (Work V))}
    (enlists : Enlists tasks before middle) (schedulers : after.schedulers = middle.schedulers) :
    Enlists tasks before after := by
  have both := enlists.trans (of_eq schedulers)
  rwa [List.append_nil] at both

theorem put (found : system.scheduler? id = some host) {new : Scheduler (Work V)}
    (entries : List (Entry (Work V))) (count : new.roster.count = host.roster.count + entries.length)
    (queue : ∀ entry ∈ new.queue.toList, entry ∈ entries ∨ entry ∈ host.queue.toList) :
    Enlists (entries.map fun entry => (id, entry)) system (system.putScheduler id new) where
  issued other := by
    rw [List.countP_map]
    by_cases own : other = id
    · subst own
      rw [issued_of_found (scheduler?_putScheduler_self found new), issued_of_found found, count]
      simp [Function.comp_def]
    · rw [System.issued, scheduler?_putScheduler_of_ne system own]
      simp [Function.comp_def, Ne.symm own, System.issued]
  queued other entry held := by
    by_cases own : other = id
    · subst own
      rw [queued_of_found (scheduler?_putScheduler_self found new)] at held
      rw [queued_of_found found]
      exact (queue entry held).imp_left fun new => List.mem_map.2 ⟨entry, new, rfl⟩
    · rw [System.queued, scheduler?_putScheduler_of_ne system own] at held
      exact .inr held

theorem still (found : system.scheduler? id = some host) {new : Scheduler (Work V)}
    (count : new.roster.count = host.roster.count) (queue : new.queue.toList ⊆ host.queue.toList) :
    Enlists [] system (system.putScheduler id new) :=
  put found [] count fun _ held => .inr (queue held)

/-- A worker that goes on is given nothing. -/
theorem goOn (found : system.scheduler? id = some host) {new : Scheduler (Work V)}
    (continues : host.Continues new) : Enlists [] system (system.putScheduler id new) :=
  still found continues.count continues.queue

theorem each {schedulers : Array (Scheduler (Work V))}
    (change : SchedulerId → Scheduler (Work V) → Scheduler (Work V))
    (roster : ∀ id host, (change id host).roster = host.roster)
    (queue : ∀ id host, (change id host).queue = host.queue)
    (changed : ∀ id, ({ system with schedulers } : System V).scheduler? id =
      (system.scheduler? id).map (change id)) : Enlists [] system { system with schedulers } where
  issued id := by
    rw [System.issued, System.issued, changed]
    cases system.scheduler? id with
    | none => rfl
    | some host => exact congrArg Roster.count (roster id host)
  queued id entry held := by
    rw [System.queued, changed] at held
    rw [System.queued]
    cases found : system.scheduler? id with
    | none =>
        rw [found] at held
        cases held
    | some host =>
        rw [found, Option.map_some, Option.map_some, Option.getD_some, queue] at held
        exact .inr held

theorem sweep (system : System V) : Enlists [] system system.sweep := by
  have kept : Enlists [] system system.sweepCaches := .of_eq rfl
  refine kept.trans (.each (fun id scheduler =>
    if system.sweepCaches.keepsScheduler id then scheduler else scheduler.halt) ?_ ?_ ?_)
  · intro id host
    split <;> rfl
  · intro id host
    split <;> rfl
  · intro id
    simp [scheduler?]

theorem cancelToken (system : System V) (label : Label) :
    Enlists [] system (system.cancelToken label) := by
  have halted : Enlists [] system { system with
      schedulers := system.schedulers.map fun scheduler =>
        if scheduler.settings.token = .named label then scheduler.halt else scheduler } := by
    refine .each (fun _ scheduler =>
      if scheduler.settings.token = .named label then scheduler.halt else scheduler) ?_ ?_ ?_
    · intro id host
      split <;> rfl
    · intro id host
      split <;> rfl
    · intro id
      simp [scheduler?]
  exact halted.aside rfl

theorem createScheduler (system : System V) (settings : Settings) :
    Enlists [] system (system.createScheduler settings).2 where
  issued id := by
    simp only [System.issued, scheduler?, System.createScheduler, Array.getElem?_push]
    split
    · rename_i new
      rw [new, Array.getElem?_eq_none (Nat.le_refl _)]
      rfl
    · rfl
  queued id entry held := by
    simp only [System.queued, scheduler?, System.createScheduler, Array.getElem?_push] at held
    split at held
    · cases held
    · exact .inr held

theorem submit? {filled : System V} {due : Int} {work : Work V} {task : TaskId}
    (accepted : system.submit? id due work = some (task, filled)) :
    Enlists [(id, ⟨due, task, work⟩)] system filled := by
  obtain ⟨host, found, accepted⟩ := Option.bind_eq_some_iff.1 accepted
  obtain ⟨⟨number, filled⟩, taken, same⟩ := Option.map_eq_some_iff.1 accepted
  cases same
  obtain ⟨_, rfl, _, _, _, same⟩ := Scheduler.eq_of_submit? taken
  refine .put found [⟨due, host.roster.nextId, work⟩] ?_ ?_
  · rw [same]
    exact Roster.count_accept _
  · intro entry held
    rw [same] at held
    exact (Heap.mem_insert_iff.1 held).imp_left List.mem_singleton.2

theorem cancelTask (system : System V) (id : SchedulerId) (task : TaskId) :
    Enlists [] system (system.cancelTask id task).2 := by
  unfold System.cancelTask
  split
  · exact .refl system
  · rename_i host found
    refine .still found ?_ ?_
    · rw [Scheduler.roster_cancel, Roster.count_resolve]
    · rw [Scheduler.queue_cancel]
      exact List.Subset.refl _

theorem book {locked : System V} {cacheId : CacheId} {cache : Cache V} {key : String}
    {access : Access V} {booking : Booking V}
    (booked : system.book cacheId cache key access = .ok (booking, locked)) :
    Enlists [] system locked := by
  obtain ⟨_, _, _, rfl⟩ := eq_of_book booked
  exact .of_eq rfl

theorem delete (system : System V) (cacheId : CacheId) (cache : Cache V) (key : String) :
    Enlists [] system (system.delete cacheId cache key).2 := by
  unfold System.delete
  split
  · exact .refl system
  · exact (cancelTask _ _ _).aside rfl

theorem cancel (system : System V) (scheduler handle : Label) :
    Enlists [] system (system.cancel scheduler handle).2 := by
  unfold System.cancel
  split
  · exact .refl system
  · exact .refl system
  · rename_i located _
    split
    · exact cancelTask _ _ _
    · exact .still (scheduler?_of_schedulerAt? located) rfl (List.Subset.refl _)

theorem labelScheduler (system : System V) (label : Label) (id : SchedulerId) :
    Enlists [] system (system.labelScheduler label id) :=
  (sweep _).of_aside rfl

theorem labelNewCache (system : System V) (label : Label) (id : SchedulerId) :
    Enlists [] system (system.labelNewCache label id) :=
  (sweep _).of_aside rfl

theorem createCacheOn (system : System V) (label scheduler : Label) :
    Enlists [] system (system.createCacheOn label scheduler).2 := by
  unfold System.createCacheOn
  split
  · exact .refl system
  · exact labelNewCache _ _ _

theorem schedulerOf (system : System V) (cache scheduler : Label) :
    Enlists [] system (system.schedulerOf cache scheduler).2 := by
  unfold System.schedulerOf
  split
  · exact .refl system
  · exact labelScheduler _ _ _

theorem delete? {label : Label} {key : String} {reply : Reply V}
    (answered : system.delete? label key = some (reply, after)) : Enlists [] system after := by
  unfold System.delete? at answered
  split at answered
  · cases answered
    exact .refl system
  · split at answered
    · rw [← snd_eq_of_some answered]
      exact delete _ _ _ _
    · cases answered

/-- No request but an access to a cache gives a scheduler a task. -/
theorem answer? {request : Request V} {reply : Reply V}
    (other : ∀ label key access, request ≠ .access label key access)
    (answered : system.answer? request = some (reply, after)) : Enlists [] system after := by
  cases request with
  | create label settings =>
      cases answered
      exact (createScheduler system settings).trans (labelScheduler _ _ _)
  | cancel scheduler handle =>
      rw [← snd_eq_of_some answered]
      exact cancel _ _ _
  | cancelToken token =>
      cases answered
      exact cancelToken _ _
  | openGate gate =>
      cases answered
      exact .of_eq rfl
  | createCacheOn label scheduler =>
      rw [← snd_eq_of_some answered]
      exact createCacheOn _ _ _
  | createCacheAlone label settings =>
      cases answered
      exact (createScheduler system settings).trans (labelNewCache _ _ _)
  | schedulerOf cache scheduler =>
      rw [← snd_eq_of_some answered]
      exact schedulerOf _ _ _
  | access label key access => exact absurd rfl (other label key access)
  | delete label key => exact delete? answered
  | consult label query =>
      obtain ⟨_, _, equal⟩ := Option.map_eq_some_iff.1 answered
      cases equal
      exact .refl system
  | _ =>
      cases answered
      exact .refl system

section Calls

theorem returnTo (system : System V) (caller : Caller) :
    Enlists [] system (system.returnTo caller) := by
  cases caller <;> exact .of_eq rfl

theorem leave (system : System V) (caller : Caller) (id : SchedulerId) :
    Enlists [] system (system.leave caller id) := by
  unfold System.leave
  split
  · exact returnTo _ _
  · split
    · exact returnTo _ _
    · rename_i host found
      unfold awaitExit
      split
      · exact returnTo _ _
      · have joined : Enlists [] system (system.putScheduler id host.join) :=
          .still found rfl (List.Subset.refl _)
        exact joined.aside rfl

theorem part? {caller : Caller} {parting : Parting}
    (begun : system.part? caller parting = .ok after) : Enlists [] system after := by
  cases parting with
  | shutdown label =>
      simp only [System.part?] at begun
      split at begun <;> cases begun
      rename_i id host located
      have found := scheduler?_of_schedulerAt? located
      unfold shutdown
      split
      · have stopped : Enlists [] system (system.putScheduler id host.stopInside) := by
          refine .still found ?_ ?_ <;>
            · unfold Scheduler.stopInside
              split <;> simp [Scheduler.note]
        exact stopped.trans (returnTo _ _)
      · exact .of_eq rfl
  | release label =>
      simp only [System.part?] at begun
      split at begun <;> cases begun
      exact ((sweep _).trans (leave _ _ _)).of_aside rfl
  | releaseCache label =>
      simp only [System.part?] at begun
      split at begun <;> cases begun
      unfold releaseCache
      dsimp only
      split
      · exact ((sweep _).trans (returnTo _ _)).of_aside rfl
      · exact ((sweep _).trans (leave _ _ _)).of_aside rfl

theorem endCall (system : System V) (position : Nat) (call : Call) :
    Enlists [] system (system.endCall position call) :=
  ((sweep _).trans (returnTo _ _)).of_aside rfl

theorem moveCall? {position : Nat} (move : system.moveCall? position = some after) :
    Enlists [] system after := by
  obtain ⟨call, found, onTarget⟩ := Option.bind_eq_some_iff.1 move
  obtain ⟨host, target, taken⟩ := Option.bind_eq_some_iff.1 onTarget
  have closes {new : Scheduler (Work V)} (roster : new.roster = host.close.roster)
      (queue : new.queue = host.close.queue) :
      Enlists [] system (system.putScheduler call.scheduler new) := by
    refine .still target ?_ ?_
    · rw [roster]
      unfold Scheduler.close
      split <;> rfl
    · rw [queue]
      unfold Scheduler.close
      split <;> exact List.Subset.refl _
  split at taken
  · split at taken
    · dsimp only at taken
      split at taken <;> cases taken
      · exact (closes rfl rfl).trans (endCall _ _ _)
      · have joined : Enlists [] system (system.putScheduler call.scheduler host.close.join) :=
          closes rfl rfl
        exact joined.aside rfl
    · cases taken
      exact .of_eq rfl
  · split at taken <;> cases taken
    exact .of_eq rfl
  · split at taken <;> cases taken
    exact endCall _ _ _

end Calls

section Workers

theorem finishTask (found : system.scheduler? id = some host) :
    Enlists [] system (system.finishTask id host) :=
  .goOn found (Scheduler.continues_finish host)

theorem moveLooking (found : system.scheduler? id = some host) :
    Enlists [] system (system.moveLooking id host) := by
  have looked : Enlists [] system (system.putScheduler id (host.look system.now)) :=
    .goOn found (Scheduler.continues_look host system.now)
  unfold System.moveLooking
  dsimp only
  split
  · exact looked.aside rfl
  · exact looked

theorem failTask (found : system.scheduler? id = some host) (task : TaskId) (message : String) :
    Enlists [] system (system.failTask id host task message) := by
  have continues := Scheduler.continues_finish (host.fail task message)
  have failed : Enlists [] system (system.finishTask id (host.fail task message)) := by
    refine .still found ?_ ?_
    · rw [continues.count, Scheduler.roster_fail]
    · refine List.Subset.trans continues.queue ?_
      rw [Scheduler.queue_fail]
      exact List.Subset.refl _
  unfold System.failTask
  dsimp only
  split
  · exact failed
  · exact failed.aside rfl

theorem proceedTask (found : system.scheduler? id = some host) (task : TaskId)
    (label handle : Label) (rest : Script V) :
    Enlists [] system (system.proceedTask id host task label handle rest) :=
  .still found rfl (List.Subset.refl _)

theorem moveDeletion? (found : system.scheduler? id = some host) {cacheId : CacheId} {key : String}
    {generation : Nat} (move : system.moveDeletion? id host cacheId key generation = some after) :
    Enlists [] system after := by
  unfold System.moveDeletion? at move
  split at move
  · cases move
    exact finishTask found
  · split at move
    · cases move
      exact finishTask found
    · split at move <;> cases move
      refine .of_aside (.trans (finishTask ?_) (sweep _)) rfl
      exact found

end Workers

end Enlists

end Agenda.System
