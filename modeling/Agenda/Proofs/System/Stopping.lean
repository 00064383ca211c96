import Agenda.Proofs.System.Owning
import Agenda.Proofs.System.Shutdown

/-!
# What the stop signal does

From the stop signal on a scheduler takes nothing and begins nothing.  When the task under way has
ended and the worker has done all it can, every queued task is cancelled, the worker has exited,
and all who waited for the scheduler have been let go.
-/

namespace Agenda.System

universe u

variable {V : Type u} {system later : System V} {id : SchedulerId}
  {host last : Scheduler (Work V)}

/-- What has become of the scheduler `id` that was `host` when it had its stop signal. -/
structure Halted (later : System V) (id : SchedulerId) (host last : Scheduler (Work V))
    (record : List Occurrence) : Prop where
  halted : last.halted = true
  isStopped : last.isStopped = true
  refuses : later.Refuses id
  /-- No task has begun, due or not. -/
  begun : last.begun = host.begun ∧ ∀ task time, .began task time ∉ record
  fired : ∀ task, last.roster.fate? task = some .fired ↔ host.roster.fate? task = some .fired
  /-- The task under way goes on to its end, and no other one gets under way. -/
  running : ∀ {task}, host.worker.task? = some task →
    last.roster.fate? task = some .fired ∧ (last.worker.task? = some task ∨ .ended task ∈ record)
  alone : ∀ {task}, last.worker.task? = some task → host.worker.task? = some task

/-- What is left of it when nothing runs and the worker has done all it can. -/
structure Abandoned (system later : System V) (id : SchedulerId)
    (host last : Scheduler (Work V)) (record : List Occurrence) : Prop where
  /-- Every queued task is cancelled: live, due or cancelled before. -/
  entries : ∀ entry ∈ host.queue.toList, last.roster.fate? entry.id = some .cancelled
  resolved : ∀ task, last.roster.fate? task ≠ some .pending
  vacant : last.queue.toList = []
  stopped : last.stopped = true
  exited : last.worker = .exited
  ended : ∀ {task}, host.worker.task? = some task → .ended task ∈ record
  released : Released system later id

theorem halted_of_run {now time : Int} {record : List Occurrence}
    (run : Run ⟨now, host⟩ record ⟨time, last⟩) (sound : host.Sound)
    (halted : host.halted = true) (seen : later.scheduler? id = some last) :
    Halted later id host last record := by
  have halts := run.halts halted
  have still := run.remembers.halted halted
  have stopped := Scheduler.isStopped_of_halted still
  refine ⟨still, stopped, refuses_of_isStopped seen stopped, ⟨halts.begun, ?_⟩, halts.fired_iff,
    ?_, ?_⟩
  · intro task moment began
    have begun := run.begun
    rw [halts.begun, List.self_eq_append_right, List.filterMap_eq_nil_iff] at begun
    cases begun _ began
  · intro task running
    have fired : host.roster.fate? task = some .fired := by
      cases worker : host.worker with
      | busy other work =>
          rw [worker] at running
          cases running
          exact sound.busy worker
      | _ =>
          rw [worker] at running
          cases running
    refine ⟨(halts.fired_iff task).2 fired, ?_⟩
    exact halts.task.imp (fun same => same.trans running) fun free => free.2 task running
  · intro task running
    rcases halts.task with same | ⟨free, _⟩
    · exact same.symm.trans running
    · cases free.symm.trans running

/-- When the worker has done all it can after the stop signal, nothing is left. -/
theorem Halted.abandoned {record : List Occurrence} (halted : Halted later id host last record)
    (halts : Scheduler.Halts record host last) (sound : host.Sound) (later_sound : last.Sound)
    (seen : later.scheduler? id = some last) (settled : later.IsSettled)
    (free : last.worker.isBusy = false) (released : later.IsDrained id → Released system later id) :
    Abandoned system later id host last record := by
  have exited := settled.exited_of_halted seen halted.halted free
  obtain ⟨empty, stopped⟩ := later_sound.exited exited
  have past : last.IsOver := ⟨exited, Scheduler.toList_eq_nil_iff.2 empty, stopped⟩
  have resolved := past.closed.resolved later_sound
  refine ⟨?_, resolved, past.queue, stopped, exited, ?_, ?_⟩
  · intro entry held
    rcases sound.stored.waiting entry held with pending | cancelled
    · exact ((halts.fates pending).resolve_left (resolved entry.id)).2
    · exact (halts.fates cancelled).resolve_right fun other => nomatch other.1
  · intro task running
    refine (halted.running running).2.resolve_left ?_
    rw [Worker.task?_eq_none free]
    nofun
  · exact released ⟨last, seen, past.closed.isDrained⟩

/-- What a hard stop of a scheduler means: who gives the stop signal, and what follows it. -/
structure HardStops (system : System V) (id : SchedulerId) (host : Scheduler (Work V)) : Prop where
  /-- The token of the scheduler's settings has been cancelled, by whomever. -/
  token : system.isCancelled host.settings.token = true → host.halted = true
  /-- The last owner has let go. -/
  owner : system.keepsScheduler id = false → host.halted = true
  final : host.halted = true → ∀ {later}, Leads system later → ∃ last record,
    later.scheduler? id = some last ∧ Run ⟨system.now, host⟩ record ⟨later.now, last⟩ ∧
      Halted later id host last record ∧
      (later.IsSettled → last.worker.isBusy = false → Abandoned system later id host last record)

/-- A stop signal ends everything but the task under way. -/
theorem Reachable.hardStops (reachable : Reachable system)
    (found : system.scheduler? id = some host) : system.HardStops id host where
  token := reachable.obeyed.halted found
  owner := reachable.owned.halted found
  final halted later leads := by
    obtain ⟨record, last, seen, run⟩ := leads.evolves.old found
    have sound := reachable.sound found
    have after := reachable.leads leads
    have stopping := halted_of_run run sound halted seen
    refine ⟨last, record, seen, run, stopping, fun settled free => ?_⟩
    refine stopping.abandoned (run.halts halted) sound (after.sound seen) seen settled free ?_
    exact fun drained =>
      leads.informs.released (after.attended.shutdowns_eq_nil settled drained)

/-- The token is cancelled while a task runs, another one is due and a shutdown waits. -/
theorem hardStops_of_cancelled_token :
    ∃ (system later : System Nat) (host last : Scheduler (Work Nat)) (record : List Occurrence),
      Reachable system ∧ system.scheduler? ⟨0⟩ = some host ∧ system.HardStops ⟨0⟩ host ∧
        system.isCancelled host.settings.token = true ∧ host.worker.task? = some ⟨1⟩ ∧
        host.waiting.length = 2 ∧ (system.shutdowns ⟨0⟩).length = 1 ∧ Leads system later ∧
        Halted later ⟨0⟩ host last record ∧ Abandoned system later ⟨0⟩ host last record := by
  have empty : Reachable ({} : System Nat) := .start
  have created := empty.step (.deed _ (.request (.create "main" { token := .named "stop" })))
  have first := created.step (.deed _ (.submit "main" "first" (.at 0) (.wait "gate" .done)))
  have second := first.step (.deed _ (.submit "main" "second" (.at 0) .done))
  have third := second.step (.deed _ (.submit "main" "third" (.at 50) .done))
  have cancelled := third.step (.deed _ (.request (.cancel "main" "third")))
  have called := cancelled.step (.deed _ (.part (.shutdown "main") "closer"))
  generalize given : (Session.perform (Session.perform (Session.perform (Session.perform
    (Session.perform (Session.perform ({} : System Nat)
      (.request (.create "main" { token := .named "stop" }))).2
      (.submit "main" "first" (.at 0) (.wait "gate" .done))).2
      (.submit "main" "second" (.at 0) .done)).2 (.submit "main" "third" (.at 50) .done)).2
      (.request (.cancel "main" "third"))).2 (.part (.shutdown "main") "closer")).2 = start
    at called
  have course : ((start.moveWorker? ⟨0⟩).bind (·.moveWorker? ⟨0⟩)).any (fun begun =>
      ((Session.perform begun (.request (.cancelToken "stop"))).2.scheduler? ⟨0⟩).any (fun host =>
        (Session.perform begun (.request (.cancelToken "stop"))).2.isCancelled host.settings.token
          && host.worker.task? == some ⟨1⟩ && host.waiting.length == 2) &&
        ((Session.perform begun (.request (.cancelToken "stop"))).2.shutdowns ⟨0⟩).length == 1 &&
        ((Session.perform (Session.perform begun (.request (.cancelToken "stop"))).2
          (.request (.openGate "gate"))).2.settle.scheduler? ⟨0⟩).any
            fun last => !last.worker.isBusy) = true := by
    rw [← given]
    cbv
  obtain ⟨begun, moves, course⟩ := (Option.any_eq_true _ _).1 course
  obtain ⟨up, starts, begins⟩ := Option.bind_eq_some_iff.1 moves
  have reachable := ((called.step (.worker starts)).step (.worker begins)).step
    (.deed _ (.request (.cancelToken "stop")))
  generalize (Session.perform begun (.request (.cancelToken "stop"))).2 = system
    at course reachable
  simp only [Bool.and_eq_true, beq_iff_eq] at course
  obtain ⟨⟨shown, one⟩, ends⟩ := course
  obtain ⟨host, found, shown⟩ := (Option.any_eq_true _ _).1 shown
  simp only [Bool.and_eq_true, beq_iff_eq] at shown
  obtain ⟨⟨cancelled, running⟩, queued⟩ := shown
  obtain ⟨other, hosted, free⟩ := (Option.any_eq_true _ _).1 ends
  rw [Bool.not_eq_true'] at free
  have stops := Reachable.hardStops reachable found
  have leads : Leads system (Session.perform system (.request (.openGate "gate"))).2.settle :=
    .head (.deed system _) (leads_settle _)
  obtain ⟨last, record, seen, _, halted, abandoned⟩ := stops.final (stops.token cancelled) leads
  cases hosted.symm.trans seen
  exact ⟨system, _, host, other, record, reachable, found, stops, cancelled, running, queued, one,
    leads, halted, abandoned (isSettled_settle _) free⟩

end Agenda.System
