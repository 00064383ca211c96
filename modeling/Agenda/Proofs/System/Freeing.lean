import Agenda.Proofs.System.Working

/-!
# Who goes on waiting

A worker that waits for a call goes on waiting through what others do: its call ends in a move of its
own, or in a move that the call makes by itself.
-/

namespace Agenda.System

universe u

variable {V : Type u} {system before middle after moved : System V} {id other : SchedulerId}
  {host : Scheduler (Work V)}

theorem callOf?_eq_none_iff : system.callOf? id = none ↔ system.Free id := by
  refine ⟨free_of_callOf?, fun free => List.findIdx?_eq_none_iff.2 fun call listed => ?_⟩
  cases named : call.caller with
  | helper label => rfl
  | worker own label handle =>
      refine decide_eq_false fun same => free call listed ?_
      rw [named, same]
      rfl

/-- Whoever is free in the end was free before. -/
def Detains (id : SchedulerId) (before after : System V) : Prop := after.Free id → before.Free id

theorem Detains.of_eq (calls : after.calls = before.calls) : Detains id before after := by
  intro free call listed
  exact free call (calls ▸ listed)

theorem Quiet.detains (quiet : Quiet before after) : Detains id before after := .of_eq quiet.calls

theorem Parts.detains {caller : Caller} (parts : Parts caller before after) :
    Detains id before after := by
  cases parts with
  | told _ _ calls => exact .of_eq calls
  | waits call _ _ _ calls =>
      intro free earlier listed
      exact free earlier (by rw [calls]; exact List.mem_append_left _ listed)

section Calls

variable {position : Nat} {call : Call}

theorem subset_setStage (system : System V) (stage : Stage) :
    ∀ other ∈ system.calls.eraseIdx position,
      other ∈ (system.setStage position call stage).calls := by
  intro other remains
  have same : (system.calls.set position { call with stage }).eraseIdx position =
      system.calls.eraseIdx position := List.eraseIdx_set_eq
  rw [← same] at remains
  exact (List.eraseIdx_sublist _ position).subset remains

theorem subset_endCall (system : System V) :
    ∀ other ∈ system.calls.eraseIdx position, other ∈ (system.endCall position call).calls := by
  intro other remains
  rw [endCall]
  cases call.caller <;> exact remains

/-- The move of a call leaves the other calls as they are. -/
theorem subset_moveCall? (move : system.moveCall? position = some moved) :
    ∀ other ∈ system.calls.eraseIdx position, other ∈ moved.calls := by
  obtain ⟨call, _, onTarget⟩ := Option.bind_eq_some_iff.1 move
  obtain ⟨scheduler, _, taken⟩ := Option.bind_eq_some_iff.1 onTarget
  split at taken
  · split at taken
    · dsimp only at taken
      split at taken <;> cases taken
      · exact subset_endCall (system.putScheduler call.scheduler scheduler.close)
      · exact subset_setStage (system.putScheduler call.scheduler scheduler.close.join) .joining
    · cases taken
      exact subset_setStage system _
  · split at taken <;> cases taken
    exact subset_setStage system .checking
  · split at taken <;> cases taken
    exact subset_endCall system

/-- The move of a call ends nobody else's call. -/
theorem detains_moveCall? (found : system.calls[position]? = some call)
    (move : system.moveCall? position = some moved) (apart : call.caller.worker? ≠ some id) :
    Detains id system moved := by
  intro free other listed own
  obtain ⟨inside, same⟩ := List.getElem?_eq_some_iff.1 found
  have split := (List.getElem_cons_eraseIdx_perm inside).mem_iff.2 listed
  rw [same] at split
  rcases List.mem_cons.1 split with rfl | remains
  · exact apart own
  · exact free other (subset_moveCall? move other remains) own

/-- When no worker has a move, the call of none of them is about to end. -/
theorem detains_of_stuck {turn : SchedulerId} (manned : system.Manned)
    (stuck : system.moveWorkers? turn = none) (move : system.moveCall? position = some moved) :
    Detains id system moved := by
  intro free
  rw [← callOf?_eq_none_iff, Option.eq_none_iff_forall_ne_some]
  intro place waits
  obtain ⟨call, label, handle, found, own⟩ := eq_of_callOf? waits
  obtain ⟨task, script, held⟩ := manned.hands call (List.mem_of_getElem? found) own
  obtain ⟨host, hosted, working⟩ := hand?_eq_some_iff.1 held
  have still : system.moveWorker? id = none := by
    have listed : id ∈ turn :: (List.range system.schedulers.size).map SchedulerId.mk := by
      obtain ⟨inside, _⟩ := Array.getElem?_eq_some_iff.1 hosted
      exact List.mem_cons_of_mem _ (List.mem_map.2 ⟨id.index, List.mem_range.2 inside, rfl⟩)
    exact Option.map_eq_none_iff.1 (List.findSome?_eq_none_iff.1 stuck id listed)
  have stands : system.moveCall? place = none := by
    rw [← still, moveWorker?, hosted, Option.bind_some, working]
    dsimp only
    rw [waits]
  have apart : place ≠ position := by
    rintro rfl
    cases stands.symm.trans move
  have remains : call ∈ system.calls.eraseIdx position :=
    List.mem_eraseIdx_iff_getElem?.2 ⟨place, apart, found⟩
  exact free call (subset_moveCall? move call remains) (congrArg Caller.worker? own)

end Calls

section Workers

theorem detains_moveLooking (system : System V) (place : SchedulerId) (host : Scheduler (Work V)) :
    Detains id system (system.moveLooking place host) := by
  unfold moveLooking
  dsimp only
  split <;> exact .of_eq rfl

theorem detains_moveTask? {place : SchedulerId} {task : TaskId} {label handle : Label}
    {script : Script V}
    (move : system.moveTask? place host task label handle script = some moved) :
    Detains id system moved := by
  cases script with
  | done =>
      cases move
      exact .of_eq rfl
  | panic payload =>
      cases move
      unfold failTask
      dsimp only
      split <;> exact .of_eq rfl
  | wait gate rest =>
      simp only [moveTask?] at move
      split at move <;> cases move
      exact .of_eq rfl
  | threadName rest =>
      cases move
      exact .of_eq rfl
  | submit target name due act rest =>
      cases move
      exact (Quiet.submit (system.proceedTask place host task label handle rest) _ _ _ _).detains
  | request request rest =>
      obtain ⟨⟨reply, answered⟩, answer, same⟩ := Option.map_eq_some_iff.1 move
      cases same
      exact (Quiet.answer? answer).detains
  | part parting rest =>
      simp only [moveTask?] at move
      split at move <;> cases move
      · exact .of_eq rfl
      · rename_i begun
        exact (parts_part? begun).detains

theorem detains_moveDeletion? {place : SchedulerId} {cacheId : CacheId} {key : String}
    {generation : Nat}
    (move : system.moveDeletion? place host cacheId key generation = some moved) :
    Detains id system moved := by
  unfold moveDeletion? at move
  split at move
  · cases move
    exact .of_eq rfl
  · split at move
    · cases move
      exact .of_eq rfl
    · split at move <;> cases move
      exact .of_eq rfl

/-- A worker goes on waiting through the moves of other workers. -/
theorem detains_moveWorker? (move : system.moveWorker? other = some moved) (apart : other ≠ id) :
    Detains id system moved := by
  obtain ⟨host, _, taken⟩ := Option.bind_eq_some_iff.1 move
  have wakes (woken : Scheduler (Work V)) : Detains id system (system.putScheduler other woken) :=
    .of_eq rfl
  split at taken
  · cases taken
    exact detains_moveLooking system other host
  · split at taken
    · rename_i waits
      obtain ⟨call, label, handle, listed, own⟩ := eq_of_callOf? waits
      refine detains_moveCall? listed taken fun same => apart ?_
      rw [own] at same
      exact Option.some.inj same
    · exact detains_moveTask? taken
  · exact detains_moveDeletion? taken
  · obtain ⟨woken, _, same⟩ := Option.map_eq_some_iff.1 taken
    cases same
    exact wakes woken

theorem detains_perform (system : System V) (deed : Session.Deed V) :
    Detains id system (Session.perform system deed).2 := by
  rcases quiet_or_parts_perform system deed with quiet | ⟨_, parts⟩
  · exact quiet.detains
  · exact parts.detains

end Workers

end Agenda.System
