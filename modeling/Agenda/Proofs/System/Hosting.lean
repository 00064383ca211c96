import Agenda.Proofs.Scheduler.Choice
import Agenda.System.Moves

/-!
# Systems with one scheduler

What a system with one scheduler finds under its number and its label, and how the worker of that
scheduler moves on.
-/

namespace Agenda

universe u

variable {V : Type u}

/-- A system with one scheduler and without calls under way. -/
structure System.Hosts (label : Label) (system : System V) (scheduler : Scheduler (Work V)) :
    Prop where
  only : system.schedulers = #[scheduler]
  label : system.schedulerLabels[label]? = some ⟨0⟩
  calls : system.calls = []

namespace System

variable {system : System V} {id : SchedulerId} {scheduler : Scheduler (Work V)}

theorem moveLooking_of_task {task : TaskId} {label handle : Label} {script : Script V}
    (busy : (scheduler.look system.now).worker = .busy task (.task label handle script)) :
    system.moveLooking id scheduler = (system.putScheduler id (scheduler.look system.now)).report
      (.began label handle (Clock.toMillis system.now)) := by
  simp only [moveLooking, busy]
  rfl

theorem moveLooking_of_rest (rest : (scheduler.look system.now).worker.isBusy = false) :
    system.moveLooking id scheduler = system.putScheduler id (scheduler.look system.now) := by
  unfold moveLooking
  cases place : (scheduler.look system.now).worker with
  | busy task work => simp [place, Worker.isBusy] at rest
  | _ => simp only [place]

end System

namespace System.Hosts

variable {label : Label} {system : System V} {scheduler : Scheduler (Work V)}

theorem scheduler? (hosts : system.Hosts label scheduler) (id : SchedulerId) :
    system.scheduler? id = if id = ⟨0⟩ then some scheduler else none := by
  obtain ⟨index⟩ := id
  rw [System.scheduler?, hosts.only]
  cases index <;> simp

theorem found (hosts : system.Hosts label scheduler) : system.scheduler? ⟨0⟩ = some scheduler := by
  rw [hosts.scheduler?, if_pos rfl]

theorem schedulerAt? (hosts : system.Hosts label scheduler) :
    system.schedulerAt? label = some (⟨0⟩, scheduler) := by
  rw [System.schedulerAt?, hosts.label]
  simp [hosts.found]

theorem putScheduler (hosts : system.Hosts label scheduler) (changed : Scheduler (Work V)) :
    (system.putScheduler ⟨0⟩ changed).Hosts label changed := by
  refine ⟨?_, hosts.label, hosts.calls⟩
  rw [System.putScheduler, hosts.only]
  rfl

theorem moveCall? (hosts : system.Hosts label scheduler) (position : Nat) :
    system.moveCall? position = none := by
  rw [System.moveCall?, hosts.calls]
  rfl

theorem callOf? (hosts : system.Hosts label scheduler) (id : SchedulerId) :
    system.callOf? id = none := by
  rw [System.callOf?, hosts.calls]
  rfl

end System.Hosts

end Agenda
