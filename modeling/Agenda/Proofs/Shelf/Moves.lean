import Agenda.Proofs.Shelf.Tidy

/-!
# Tidy systems stay tidy

No move of a tidy system, and no harmless call, disturbs the caches.  Only a deletion changes one of
them, and then the deadline of the entry that it takes out has come.
-/

namespace Agenda

universe u

variable {V : Type u}

namespace System

variable {label : Label} {token : Token} {system moved : System V}
  {before after : Scheduler (Work V)}

theorem Undisturbed.trans {middle : System V} (first : Undisturbed label token system middle)
    (second : Undisturbed label token middle moved) : Undisturbed label token system moved :=
  ⟨first.spares.trans second.spares, second.tidy⟩

namespace Tidy

theorem undisturbed (tidy : system.Tidy label token before) :
    Undisturbed label token system system := ⟨.refl system, before, tidy⟩

theorem look (tidy : system.Tidy label token before) (looking : before.worker = .looking) :
    Undisturbed label token system (system.moveLooking ⟨0⟩ before) := by
  have hosts := tidy.putScheduler (before.look system.now)
  have shape : Spares system (system.moveLooking ⟨0⟩ before) ∧
      (system.moveLooking ⟨0⟩ before).Hosts label (before.look system.now) ∧
      (system.moveLooking ⟨0⟩ before).handles = system.handles := by
    unfold moveLooking
    dsimp only
    split
    · exact ⟨⟨rfl, rfl, rfl, rfl⟩, ⟨hosts.only, hosts.label, hosts.calls⟩, rfl⟩
    · exact ⟨⟨rfl, rfl, rfl, rfl⟩, hosts, rfl⟩
  obtain ⟨spares, hosts, handles⟩ := shape
  apply tidy.spare spares hosts (tidy.clean.look looking _)
    (tidy.handled.goOn handles (Scheduler.continues_look ..))
  intro cache id found _ tends
  rw [Scheduler.look, if_neg (by simp [tidy.clean.halted])]
  exact tends.choose tidy.clean.sound looking (Scheduler.chooses_choose before system.now)

theorem wake (tidy : system.Tidy label token before) (wakes : Scheduler.Wakes before after) :
    Undisturbed label token system (system.putScheduler ⟨0⟩ after) := by
  apply tidy.spare (spares_putScheduler ..) (tidy.putScheduler after) (tidy.clean.wake wakes)
    (tidy.handled.goOn rfl wakes.continues)
  intro cache id found _ tends
  apply tends.undisturbed wakes.queue wakes.roster
  · intro task key generation busy
    exact wakes.ne_busy busy
  · intro task key generation busy
    cases wakes.worker.symm.trans busy

/-- A change of the scheduler that concerns neither the queue nor the tasks, while the worker is in
the middle of a submitted task. -/
theorem during (tidy : system.Tidy label token before) (spares : Spares system moved)
    (hosts : moved.Hosts label after) (handles : moved.handles = system.handles)
    (clean : after.Clean token system.caches.size) (queue : after.queue = before.queue)
    (roster : after.roster = before.roster) {task : TaskId} {own handle : Label}
    {script : Script V} (busy : before.worker = .busy task (.task own handle script))
    (last : ∀ task id key generation, after.worker ≠ .busy task (.deletion id key generation)) :
    Undisturbed label token system moved := by
  apply tidy.spare spares hosts clean
  · intro handle held found
    rw [handles] at found
    rw [queue, roster]
    exact tidy.handled handle held found
  · intro cache id found _ tends
    apply tends.undisturbed queue roster
    · intro task key generation running
      cases busy.symm.trans running
    · exact fun task key generation => last task id key generation

theorem proceed (tidy : system.Tidy label token before) {task : TaskId} {own handle : Label}
    {script rest : Script V} (busy : before.worker = .busy task (.task own handle script))
    (harmless : rest.IsHarmless token) :
    Undisturbed label token system (system.proceedTask ⟨0⟩ before task own handle rest) :=
  tidy.during ⟨rfl, rfl, rfl, rfl⟩ (tidy.putScheduler _) rfl
    (tidy.clean.proceed busy harmless) rfl rfl busy nofun

theorem report (tidy : system.Tidy label token before) (event : Event V) :
    Undisturbed label token system (system.report event) := by
  have spares : Spares system (system.report event) := ⟨rfl, rfl, rfl, rfl⟩
  exact tidy.spare spares ⟨tidy.only, tidy.label, tidy.calls⟩ tidy.clean tidy.handled
    fun _ tends => tends

theorem finish (tidy : system.Tidy label token before) {task : TaskId} {own handle : Label}
    {script : Script V} (busy : before.worker = .busy task (.task own handle script)) :
    Undisturbed label token system (system.finishTask ⟨0⟩ before) := by
  refine tidy.during ⟨rfl, rfl, rfl, rfl⟩ (tidy.putScheduler _) rfl tidy.clean.finish
    (Scheduler.queue_signalDrained _) (Scheduler.roster_signalDrained _) busy ?_
  intro task id key generation running
  rw [Scheduler.finish, Scheduler.worker_signalDrained] at running
  cases running

theorem fail (tidy : system.Tidy label token before) {task : TaskId} {own handle : Label}
    {script : Script V} (busy : before.worker = .busy task (.task own handle script))
    (message : String) :
    Undisturbed label token system (system.failTask ⟨0⟩ before task message) := by
  have finished : Undisturbed label token system
      (system.finishTask ⟨0⟩ (before.fail task message)) := by
    refine tidy.during ⟨rfl, rfl, rfl, rfl⟩ (tidy.putScheduler _) rfl
      (tidy.clean.fail task message).finish ?_ ?_ busy ?_
    · rw [Scheduler.finish, Scheduler.queue_signalDrained]
      exact Scheduler.queue_fail ..
    · rw [Scheduler.finish, Scheduler.roster_signalDrained]
      exact Scheduler.roster_fail ..
    · intro task id key generation running
      rw [Scheduler.finish, Scheduler.worker_signalDrained] at running
      cases running
  unfold failTask
  dsimp only
  split
  · exact finished
  · obtain ⟨scheduler, failed⟩ := finished.tidy
    exact finished.trans (failed.report _)

theorem submit (tidy : system.Tidy label token before) (target handle : Label) (due : Due)
    {script : Script V} (harmless : script.IsHarmless token) :
    Undisturbed label token system (system.submit target handle due script).2 := by
  unfold System.submit
  split
  · exact tidy.undisturbed
  · rename_i id found known
    have only := scheduler?_of_schedulerAt? known
    rw [tidy.scheduler?] at only
    split at only
    · rename_i same
      cases only
      subst same
      split
      · exact tidy.undisturbed
      · rename_i instant reached
        obtain ⟨after, accepted⟩ := tidy.clean.accepts instant (.task target handle script)
        rw [submit?_of_found tidy.found, accepted]
        have spares : Spares system { system.putScheduler ⟨0⟩ after with
            handles := system.handles.insert handle ⟨⟨0⟩, before.roster.nextId⟩ } :=
          ⟨rfl, rfl, rfl, rfl⟩
        have hosts := tidy.putScheduler after
        have handled : (system.putScheduler ⟨0⟩ after).Handled after :=
          tidy.handled.accept rfl accepted
        have fits : (Work.task target handle script).IsHarmless token system.caches.size := harmless
        exact tidy.spare spares ⟨hosts.only, hosts.label, hosts.calls⟩
          (tidy.clean.submit fits accepted)
          (handled.insert tidy.clean.sound accepted rfl rfl)
          fun _ tends => tends.submit accepted nofun
    · cases only

theorem cancel (tidy : system.Tidy label token before) (target handle : Label) :
    Undisturbed label token system (system.cancel target handle).2 := by
  unfold System.cancel
  split
  · exact tidy.undisturbed
  · exact tidy.undisturbed
  · rename_i id found held known handled
    have only := scheduler?_of_schedulerAt? known
    rw [tidy.scheduler?] at only
    split at only
    · rename_i same
      cases only
      subst same
      split
      · rw [cancelTask_of_found tidy.found]
        apply tidy.spare (spares_putScheduler ..) (tidy.putScheduler _)
          (tidy.clean.cancel held.id) (tidy.handled.cancel rfl held.id)
        intro cache id found _ tends
        apply tends.cancel
        intro key lease _ queued same
        have task := (tidy.handled handle held handled).2 _ queued same
        cases task
      · exact tidy.spare (spares_putScheduler ..) (tidy.putScheduler _) (tidy.clean.note _)
          tidy.handled fun _ tends => tends.congr rfl rfl fun _ _ _ => .rfl
    · cases only

theorem cancelToken (tidy : system.Tidy label token before) {other : Label}
    (different : token ≠ .named other) :
    Undisturbed label token system (system.cancelToken other) := by
  have spares : Spares system (system.cancelToken other) := ⟨rfl, rfl, rfl, rfl⟩
  have only : (system.cancelToken other).schedulers = #[before] := by
    simp [System.cancelToken, tidy.only, tidy.clean.own, different]
  exact tidy.spare spares ⟨only, tidy.label, tidy.calls⟩ tidy.clean tidy.handled
    fun _ tends => tends

theorem answer (tidy : system.Tidy label token before) {request : Request V}
    (harmless : request.IsHarmless token) {reply : Reply V}
    (answered : system.answer? request = some (reply, moved)) :
    Undisturbed label token system moved := by
  cases request with
  | inspect target query =>
      cases answered
      exact tidy.undisturbed
  | fateOf handle =>
      cases answered
      exact tidy.undisturbed
  | isCancelled other =>
      cases answered
      exact tidy.undisturbed
  | openGate gate =>
      cases answered
      have spares : Spares system (system.openGate gate) := ⟨rfl, rfl, rfl, rfl⟩
      exact tidy.spare spares ⟨tidy.only, tidy.label, tidy.calls⟩ tidy.clean tidy.handled
        fun _ tends => tends
  | cancel target handle =>
      cases snd_eq_of_some answered
      exact tidy.cancel target handle
  | cancelToken other =>
      cases answered
      exact tidy.cancelToken harmless
  | _ => exact harmless.elim

theorem moveTask (tidy : system.Tidy label token before) {task : TaskId} {own handle : Label}
    {script : Script V} (busy : before.worker = .busy task (.task own handle script))
    (move : system.moveTask? ⟨0⟩ before task own handle script = some moved) :
    Undisturbed label token system moved := by
  have harmless : script.IsHarmless token := tidy.clean.bears.busy busy
  unfold moveTask? at move
  cases script with
  | done =>
      cases move
      exact tidy.finish busy
  | panic payload =>
      cases move
      exact tidy.fail busy payload.message
  | wait gate rest => exact harmless.elim
  | threadName rest =>
      cases move
      have proceeded := tidy.proceed busy (show rest.IsHarmless token from harmless)
      obtain ⟨_, onward⟩ := proceeded.tidy
      exact proceeded.trans (onward.report _)
  | submit target name due act rest =>
      cases move
      have proceeded := tidy.proceed busy harmless.2
      obtain ⟨_, onward⟩ := proceeded.tidy
      have submitted := onward.submit target name due harmless.1
      obtain ⟨_, further⟩ := submitted.tidy
      exact (proceeded.trans submitted).trans (further.report _)
  | request asked rest =>
      obtain ⟨answer, answered, same⟩ := Option.map_eq_some_iff.1 move
      cases same
      have proceeded := tidy.proceed busy harmless.2
      obtain ⟨_, onward⟩ := proceeded.tidy
      have replied := onward.answer harmless.1 answered
      obtain ⟨_, further⟩ := replied.tidy
      exact (proceeded.trans replied).trans (further.report _)
  | part parting rest => exact harmless.elim

end Tidy

end System

end Agenda
