import Agenda.Proofs.Scheduler.Leaving
import Agenda.Proofs.System.Shutdown

/-!
# What a graceful stop leaves to do

A task that shuts its own scheduler down is answered at once.  From then on the scheduler takes
nothing, but without a stop signal no task is lost: what was accepted and not cancelled runs when
it is due, and the worker exits after the last of it.
-/

namespace Agenda.System

universe u

variable {V : Type u} {system : System V} {id : SchedulerId} {host : Scheduler (Work V)}
  {record : List Occurrence}

/-- A task that is due has run, if the worker is not inside another one. -/
structure HasRun (system : System V) (host : Scheduler (Work V)) (record : List Occurrence)
    (task : TaskId) (due time : Int) : Prop where
  timely : due ≤ time
  past : time ≤ system.now
  /-- The journal shows the beginning of the task once. -/
  once : (host.begun.filter fun began => began.1 = task) = [(task, time)]
  fired : host.roster.fate? task = some .fired
  ended : host.worker.task? = some task ∨ .ended task ∈ record

/-- What holds of the scheduler `id`, which is `host` and has had this record since its first moment,
as long as it has no stop signal. -/
structure Graceful (system : System V) (id : SchedulerId) (host : Scheduler (Work V))
    (first : Moment (Work V)) (record : List Occurrence) : Prop where
  /-- A shutdown that a task calls on its own scheduler is answered at once: the task goes on. -/
  returns : ∀ {task label handle target rest},
    host.worker = .busy task (.task label handle (.part (.shutdown target) rest)) →
      system.schedulerAt? target = some (id, host) → system.callOf? id = none →
        ∃ moved left, system.moveWorker? id = some moved ∧ moved.calls = system.calls ∧
          moved.events = system.events.push (.answered label handle .ok) ∧
          moved.scheduler? id = some left ∧ left.stopped = true ∧ left.halted = host.halted ∧
          left.worker = .busy task (.task label handle rest) ∧ left.queue = host.queue ∧
          left.roster = host.roster
  /-- Once stopped it takes nothing any more. -/
  refuses : host.isStopped = true → ∀ {later}, Leads system later →
    ∃ last, later.scheduler? id = some last ∧ last.isStopped = true ∧
      last.roster.count = host.roster.count ∧ later.Refuses id
  /-- What was accepted and not cancelled runs when it is due. -/
  runs : host.halted = false → system.IsSettled → ∀ {task due}, .accepted task due ∈ record →
    .cancelAnswered task true ∉ record → due ≤ system.now →
      (∀ other, host.worker.task? = some other → other = task) →
        ∃ time, HasRun system host record task due time
  /-- The worker has left a stopped scheduler with an empty queue. -/
  leaves : host.halted = false → host.worker = .exited → ∃ moment earlier later,
    Run first earlier moment ∧ Scheduler.Leaves moment ∧
      Run ⟨moment.now, moment.scheduler.look moment.now⟩ later ⟨system.now, host⟩
  exits : system.IsSettled → host.stopped = true → host.queue.toList = [] →
    host.worker.isBusy = false → host.worker = .exited
  /-- Only a cancellation that was answered so has cancelled a task. -/
  cancelled : host.halted = false → ∀ {task}, host.roster.fate? task = some .cancelled →
    .cancelAnswered task true ∈ record

/-- A shutdown from a task of the scheduler itself is a step of that task. -/
theorem moveWorker?_of_shutdown {task : TaskId} {label handle target : Label} {rest : Script V}
    (found : system.scheduler? id = some host)
    (busy : host.worker = .busy task (.task label handle (.part (.shutdown target) rest)))
    (located : system.schedulerAt? target = some (id, host)) (free : system.callOf? id = none) :
    system.moveWorker? id = some ((system.putScheduler id
      (host.proceed task (.task label handle rest)).stopInside).report
        (.answered label handle .ok)) := by
  obtain ⟨number, labelled, same⟩ := Option.bind_eq_some_iff.1 located
  obtain ⟨_, _, same⟩ := Option.map_eq_some_iff.1 same
  cases same
  have proceeded : (system.proceedTask id host task label handle rest).schedulerAt? target =
      some (id, host.proceed task (.task label handle rest)) := by
    have kept : (system.proceedTask id host task label handle rest).schedulerLabels[target]? =
        some id := labelled
    rw [schedulerAt?, kept, Option.bind_some, proceedTask, scheduler?_putScheduler_self found,
      Option.map_some]
  have begun : (system.proceedTask id host task label handle rest).part?
      (.worker id label handle) (.shutdown target) = .ok ((system.putScheduler id
        (host.proceed task (.task label handle rest)).stopInside).report
          (.answered label handle .ok)) := by
    have own : (Caller.worker id label handle).isWorkerOf id = true := decide_eq_true rfl
    simp only [part?, proceeded, shutdown, own, if_true]
    rw [proceedTask, putScheduler_putScheduler]
    rfl
  simp only [moveWorker?, found, Option.bind_some, busy, free, moveTask?, begun]

/-- In a settled system no task is left in the queue that is due, unless the worker is busy. -/
theorem IsSettled.runs (settled : system.IsSettled) (found : system.scheduler? id = some host)
    {settings : Settings} {halted : Bool} {now : Int}
    (run : Run ⟨now, Scheduler.start settings halted⟩ record ⟨system.now, host⟩)
    (running : host.halted = false) {task : TaskId} {due : Int}
    (accepted : .accepted task due ∈ record) (kept : .cancelAnswered task true ∉ record)
    (ripe : due ≤ system.now)
    (alone : ∀ other, host.worker.task? = some other → other = task) :
    ∃ time, HasRun system host record task due time := by
  have start := Scheduler.sound_start (ω := Work V) settings halted
  have sound := run.sound start
  have chronicle := run.chronicle start (.empty settings halted)
  rw [List.nil_append] at chronicle
  have only {other : Int} (again : .accepted task other ∈ record) : other = due := by
    have same := eq_of_countP_le_one (chronicle.acceptedOnce task) again accepted
      (by simp [Occurrence.accepts]) (by simp [Occurrence.accepts])
    cases same
    rfl
  have known := chronicle.known_of_accepted accepted
  have fired : host.roster.fate? task = some .fired := by
    obtain ⟨fate, shown⟩ := Option.ne_none_iff_exists'.1 known
    cases fate with
    | fired => exact shown
    | cancelled =>
        have abandoned := (run.settles.cancelled shown).resolve_left kept
        rw [run.halted_of_abandoned abandoned] at running
        cases running
    | pending =>
        obtain ⟨entry, held, rfl⟩ := sound.stored.queued task shown
        have free : host.worker.isBusy = false := by
          rw [← Bool.not_eq_true, Worker.isBusy_iff]
          rintro ⟨other, work, busy⟩
          have same := alone other (by rw [busy]; rfl)
          rw [← same, sound.busy busy] at shown
          cases shown
        obtain ⟨awake, still⟩ := still_of_moveWorker? found (settled.moveWorker?_eq_none id) free
        have early := Scheduler.not_overdue (sound.parked awake still free) held
        rw [only (chronicle.noted entry held)] at early
        omega
  obtain ⟨⟨time, began⟩, ended⟩ := run.settles.fired fired
  obtain ⟨other, noted, timely⟩ := chronicle.timely began
  rw [only noted] at timely
  exact ⟨time, timely, run.began_le start began, run.filter_begun began, fired, ended.symm⟩

/-- A graceful stop loses nothing. -/
theorem Reachable.graceful (reachable : Reachable system)
    (found : system.scheduler? id = some host) :
    (∃ now settings halted record,
      Run ⟨now, Scheduler.start settings halted⟩ record ⟨system.now, host⟩) ∧
    ∀ {now settings halted record},
      Run ⟨now, Scheduler.start settings halted⟩ record ⟨system.now, host⟩ →
        system.Graceful id host ⟨now, Scheduler.start settings halted⟩ record := by
  refine ⟨reachable.run found, fun {now settings halted record} run => ?_⟩
  have start := Scheduler.sound_start (ω := Work V) settings halted
  refine ⟨?_, ?_, ?_, ?_, ?_, ?_⟩
  · intro task label handle target rest busy located free
    have move := moveWorker?_of_shutdown found busy located free
    refine ⟨_, _, move, rfl, rfl, scheduler?_putScheduler_self found _, ?_⟩
    unfold Scheduler.stopInside
    split
    · rename_i stopped
      exact ⟨stopped, rfl, rfl, rfl, rfl⟩
    · exact ⟨rfl, rfl, rfl, rfl, rfl⟩
  · intro stopped later leads
    obtain ⟨_, last, seen, onward⟩ := leads.evolves.old found
    have still := onward.remembers.isStopped stopped
    exact ⟨last, seen, still, onward.count_of_isStopped stopped, refuses_of_isStopped seen still⟩
  · intro running settled task due accepted kept ripe alone
    exact settled.runs found run running accepted kept ripe alone
  · intro running exited
    exact run.leaves start nofun exited running
  · intro settled stopped vacant free
    exact settled.exited_of_stopped found (reachable.sound found) stopped vacant free
  · intro running task cancelled
    refine (run.settles.cancelled cancelled).resolve_right fun abandoned => ?_
    rw [run.halted_of_abandoned abandoned] at running
    cases running

/-- The first task shuts its scheduler down, and the second one runs all the same; a third one, which
the first submits after that, is refused. -/
theorem graceful_of_inner_shutdown :
    ∃ (system : System Nat) (host : Scheduler (Work Nat)) (first : Moment (Work Nat))
      (record : List Occurrence), Reachable system ∧ system.scheduler? ⟨0⟩ = some host ∧
        Run first record ⟨system.now, host⟩ ∧ host.halted = false ∧ host.stopped = true ∧
        host.worker = .exited ∧ host.begun.map Prod.fst = [⟨1⟩, ⟨2⟩] ∧ host.roster.count = 2 ∧
        system.Graceful ⟨0⟩ host first record := by
  have empty : Reachable ({} : System Nat) := .start
  have created := empty.step (.deed _ (.request (.create "main" {})))
  have first := created.step (.deed _ (.submit "main" "first" (.at 0)
    (.part (.shutdown "main") (.submit "main" "third" (.at 0) .done .done))))
  have second := first.step (.deed _ (.submit "main" "second" (.at 50) .done))
  generalize given : (Session.perform (Session.perform (Session.perform ({} : System Nat)
    (.request (.create "main" {}))).2 (.submit "main" "first" (.at 0)
      (.part (.shutdown "main") (.submit "main" "third" (.at 0) .done .done)))).2
    (.submit "main" "second" (.at 50) .done)).2 = start at second
  have later : start.settle.now ≤ start.settle.now + Clock.ofMillis 50 0 :=
    Int.le_add_of_nonneg_right (by decide)
  have course : (({ start.settle with
      now := start.settle.now + Clock.ofMillis 50 0 } : System Nat).settle.scheduler? ⟨0⟩).any
        (fun host => !host.halted && host.stopped && host.worker.isExited &&
          host.begun.map Prod.fst == [⟨1⟩, ⟨2⟩] && host.roster.count == 2) = true := by
    rw [← given]
    cbv
  obtain ⟨host, found, shown⟩ := (Option.any_eq_true _ _).1 course
  simp only [Bool.and_eq_true, beq_iff_eq, Bool.not_eq_true'] at shown
  obtain ⟨⟨⟨⟨running, stopped⟩, exits⟩, begun⟩, two⟩ := shown
  have reachable := ((second.leads (leads_settle start)).step (.pass later)).leads (leads_settle _)
  obtain ⟨⟨now, settings, halted, record, run⟩, graceful⟩ := Reachable.graceful reachable found
  exact ⟨_, host, _, record, reachable, found, run, running, stopped, Worker.isExited_iff.1 exits,
    begun, two, graceful run⟩

end Agenda.System
