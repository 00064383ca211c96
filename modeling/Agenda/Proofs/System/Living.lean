import Agenda.Proofs.System.Enlisting
import Agenda.Proofs.System.Independence
import Agenda.Proofs.System.Milestones

/-!
# The life of a scheduler in a system

From the operations of a run one can read off the milestones of each scheduler: which of them it came
to, in which order, and how many entries were queued at that moment.  After the exit of its worker a
scheduler comes to no milestone any more, whatever is done to the system.
-/

namespace Agenda

universe u

variable {V : Type u}

def Operation.abandons (system : System V) (id : SchedulerId) (operation : Operation V) : Bool :=
  operation.looks system id && (system.scheduler? id).any Scheduler.halted

namespace System

variable {system first last after : System V} {operation : Operation V} {id : SchedulerId}
  {host : Scheduler (Work V)} {record : List (System V × Operation V)} {notice : Notice}

/-- What a scheduler has made known of its life at the end of a run. -/
structure LivesOut (record : List (System V × Operation V)) (last : System V) (id : SchedulerId)
    (host : Scheduler (Work V)) : Prop where
  /-- The milestones are those of the operations, one after the other. -/
  told : host.milestones = record.flatMap fun entry => entry.2.milestones entry.1 id
  lives : host.Lives
  /-- The start of the worker comes first, or next to a shutdown from outside. -/
  first : host.worker.phase ≠ .starting → ∃ rest,
    host.milestones = .started :: rest ∨ host.milestones = .shuttingDown :: .started :: rest
  forestalled : host.milestones.head? = some .shuttingDown ↔
    ∃ entry ∈ record, entry.2.shutsOutside entry.1 id = true ∧
      ∃ shut, entry.1.scheduler? id = some shut ∧ shut.stopped = false ∧ shut.worker = .starting
  started : host.milestones.count .started = if host.worker.phase = .starting then 0 else 1
  requested : host.milestones.countP Notice.asksToStop ≤ 1
  abandoned : host.milestones.countP Notice.isAbandonment ≤ 1
  stopped : host.milestones.count .stopped = if host.worker.phase = .exited then 1 else 0
  /-- A scheduler drains what is queued when the first of its tasks shuts it down. -/
  drains : ∀ {queued}, .stopping queued ∈ host.milestones ↔
    ∃ entry ∈ record, entry.2.shutsInside entry.1 id = true ∧
      ∃ shut, entry.1.scheduler? id = some shut ∧ shut.stopped = false ∧ queued = shut.size
  /-- A shutdown from outside stops it when nothing is queued and nothing runs. -/
  closes : .shuttingDown ∈ host.milestones ↔
    ∃ entry ∈ record, entry.2.shutsOutside entry.1 id = true ∧
      ∃ shut, entry.1.scheduler? id = some shut ∧ shut.stopped = false
  /-- It gives up what is queued, cancelled or not, when its worker finds the stop signal. -/
  abandons : ∀ {ids}, .abandoned ids ∈ host.milestones ↔
    ∃ entry ∈ record, entry.2.abandons entry.1 id = true ∧ ids = (entry.1.queued id).map Entry.id
  /-- The worker has exited because its token was cancelled, by anybody or by the last owner when it let
  go. -/
  token : (∃ ids, .abandoned ids ∈ host.milestones) ↔
    host.worker = .exited ∧ ∃ entry ∈ record, entry.2.looks entry.1 id = true ∧
      ∃ ended, entry.1.scheduler? id = some ended ∧
        (entry.1.isCancelled ended.settings.token = true ∨ entry.1.keepsScheduler id = false)
  /-- Nothing follows the exit of the worker. -/
  final : host.worker = .exited → ∀ {later}, Leads last later →
    ∃ still, later.scheduler? id = some still ∧ still.worker = .exited ∧
      still.milestones = host.milestones

/-- The milestones of a scheduler grow by those that it comes to in the operations of a run. -/
theorem Course.milestones (course : Course first record last) (id : SchedulerId) :
    last.milestones id =
      first.milestones id ++ record.flatMap fun entry => entry.2.milestones entry.1 id := by
  induction course with
  | rest => exact (List.append_nil _).symm
  | step _ does inductionHypothesis =>
      rw [does.milestones, inductionHypothesis, List.flatMap_append, List.flatMap_singleton,
        List.append_assoc]

theorem Reachable.lives (reachable : Reachable system)
    (found : system.scheduler? id = some host) : host.Lives := by
  obtain ⟨now, settings, halted, record, run⟩ := reachable.run found
  exact run.lives (Scheduler.lives_start settings halted)

/-- The stop signal is given exactly when the token is cancelled or there is no owner. -/
theorem Reachable.halted_iff (reachable : Reachable system)
    (found : system.scheduler? id = some host) : host.halted = true ↔
      system.isCancelled host.settings.token = true ∨ system.keepsScheduler id = false :=
  ⟨reachable.cause found, fun caused =>
    caused.elim (reachable.obeyed.halted found) (reachable.owned.halted found)⟩

theorem Reachable.abandons_iff (reachable : Reachable system) :
    operation.abandons system id = true ↔ operation.looks system id = true ∧
      ∃ host, system.scheduler? id = some host ∧
        (system.isCancelled host.settings.token = true ∨ system.keepsScheduler id = false) := by
  rw [Operation.abandons, Bool.and_eq_true, Option.any_eq_true]
  refine and_congr_right fun _ => exists_congr fun host => and_congr_right fun found => ?_
  exact reachable.halted_iff found

theorem mem_noted_iff {notices : Scheduler (Work V) → List Notice} :
    notice ∈ system.noted id notices ↔
      ∃ host, system.scheduler? id = some host ∧ notice ∈ notices host := by
  rw [noted]
  cases system.scheduler? id <;> simp

theorem mem_milestones_iff : notice ∈ operation.milestones system id ↔
    operation.wakes system id = true ∧
      (∃ host, system.scheduler? id = some host ∧ notice ∈ host.arrival) ∨
    operation.shutsInside system id = true ∧
      (∃ host, system.scheduler? id = some host ∧ notice ∈ host.request (.stopping host.size)) ∨
    operation.shutsOutside system id = true ∧
      (∃ host, system.scheduler? id = some host ∧ notice ∈ host.request .shuttingDown) ∨
    operation.looks system id = true ∧
      (∃ host, system.scheduler? id = some host ∧ notice ∈ host.farewell system.now) := by
  simp only [Operation.milestones, List.mem_append, List.mem_ite_nil_right, mem_noted_iff, or_assoc]

theorem stopping_mem_milestones_iff {queued : Nat} :
    .stopping queued ∈ operation.milestones system id ↔
      operation.shutsInside system id = true ∧
        ∃ host, system.scheduler? id = some host ∧ host.stopped = false ∧ queued = host.size := by
  have farewell (host : Scheduler (Work V)) : .stopping queued ∉ host.farewell system.now :=
    fun noted => nomatch Scheduler.asksToStop_of_mem_farewell noted
  simp only [mem_milestones_iff, Scheduler.mem_arrival_iff, Scheduler.mem_request_iff, farewell,
    Notice.stopping.injEq, reduceCtorEq, and_false, exists_false, false_or, or_false]

theorem shuttingDown_mem_milestones_iff : .shuttingDown ∈ operation.milestones system id ↔
    operation.shutsOutside system id = true ∧
      ∃ host, system.scheduler? id = some host ∧ host.stopped = false := by
  have farewell (host : Scheduler (Work V)) : .shuttingDown ∉ host.farewell system.now :=
    fun noted => nomatch Scheduler.asksToStop_of_mem_farewell noted
  simp only [mem_milestones_iff, Scheduler.mem_arrival_iff, Scheduler.mem_request_iff, farewell,
    reduceCtorEq, and_false, exists_false, false_or, or_false, and_true]

theorem abandoned_mem_milestones_iff {ids : List TaskId} :
    .abandoned ids ∈ operation.milestones system id ↔
      operation.abandons system id = true ∧ ids = (system.queued id).map Entry.id := by
  simp only [mem_milestones_iff, Scheduler.mem_arrival_iff, Scheduler.mem_request_iff,
    Scheduler.abandoned_mem_farewell_iff, reduceCtorEq, and_false, exists_false, false_or]
  rw [Operation.abandons]
  cases found : system.scheduler? id with
  | none => simp
  | some host => simp [queued_of_found found, Scheduler.waiting, and_assoc]

/-- Nothing but the shutdown is told when one from outside comes before the worker. -/
theorem milestones_of_starting (found : system.scheduler? id = some host)
    (starting : host.worker = .starting) (running : host.stopped = false)
    (shuts : operation.shutsOutside system id = true) :
    operation.milestones system id = [.shuttingDown] := by
  have asked : host.request .shuttingDown = [.shuttingDown] := by simp [Scheduler.request, running]
  cases operation with
  | worker own =>
      by_cases same : own = id
      · subst same
        have held := hand?_of_found found
        rw [starting] at held
        simp [Operation.shutsOutside, Operation.call?, held, Worker.hand?] at shuts
      · simp [Operation.milestones, Operation.wakes, Operation.shutsInside, Operation.looks, same, shuts,
          noted_of_found found, asked]
  | call position =>
      simp [Operation.milestones, Operation.wakes, Operation.shutsInside, Operation.looks, shuts,
        noted_of_found found, asked]
  | _ => cases shuts

theorem Course.told (course : Course {} record last) (found : last.scheduler? id = some host) :
    host.milestones = record.flatMap fun entry => entry.2.milestones entry.1 id := by
  rw [← milestones_of_found found, course.milestones]
  rfl

/-- The start of a worker does not come first exactly if a shutdown did before it. -/
theorem Course.forestalled_iff (course : Course {} record last)
    (found : last.scheduler? id = some host) : host.milestones.head? = some .shuttingDown ↔
      ∃ entry ∈ record, entry.2.shutsOutside entry.1 id = true ∧
        ∃ shut, entry.1.scheduler? id = some shut ∧ shut.stopped = false ∧
          shut.worker = .starting := by
  rw [course.told found]
  constructor
  · intro first
    rw [List.head?_flatMap, List.findSome?_eq_some_iff] at first
    obtain ⟨early, entry, late, rfl, first, silent⟩ := first
    have before : Course {} early entry.1 := course.split.1
    obtain ⟨shuts, shut, there, running⟩ :=
      shuttingDown_mem_milestones_iff.1 (List.mem_of_head? first)
    have untold : shut.milestones = [] := by
      rw [before.told there, List.flatMap_eq_nil_iff]
      exact fun earlier listed => List.head?_eq_none_iff.1 (silent earlier listed)
    have lives := (Reachable.start.leads before.leads).lives there
    rw [Scheduler.Lives, untold] at lives
    exact ⟨entry, by simp, shuts, shut, there, running,
      Worker.phase_eq_starting_iff.1 lives.phase_of_nil⟩
  · rintro ⟨entry, done, shuts, shut, there, running, starting⟩
    obtain ⟨early, late, _, rfl, before, _⟩ := course.split_of_mem done
    have lives := (Reachable.start.leads before.leads).lives there
    rw [Scheduler.Lives, running, starting] at lives
    have untold := lives.eq_nil_of_starting
    rw [before.told there] at untold
    rw [List.flatMap_append, untold, List.flatMap_cons,
      milestones_of_starting there starting running shuts]
    rfl

/-- In every run each scheduler goes through one life, and says so. -/
theorem Course.livesOut (course : Course {} record last) (found : last.scheduler? id = some host) :
    LivesOut record last id host := by
  have reachable : Reachable last := Reachable.start.leads course.leads
  have before {entry : System V × Operation V} (done : entry ∈ record) : Reachable entry.1 := by
    obtain ⟨_, _, _, _, earlier, _⟩ := course.split_of_mem done
    exact Reachable.start.leads earlier.leads
  have lives := reachable.lives found
  have told := course.told found
  have abandons {ids : List TaskId} : .abandoned ids ∈ host.milestones ↔
      ∃ entry ∈ record, entry.2.abandons entry.1 id = true ∧
        ids = (entry.1.queued id).map Entry.id := by
    simp only [told, List.mem_flatMap, abandoned_mem_milestones_iff]
  refine ⟨told, lives, lives.started_first, course.forestalled_iff found, lives.count_started,
    lives.countP_asksToStop_le, lives.countP_isAbandonment_le, lives.count_stopped, ?_, ?_, abandons,
    ?_, ?_⟩
  · intro queued
    simp only [told, List.mem_flatMap, stopping_mem_milestones_iff]
  · simp only [told, List.mem_flatMap, shuttingDown_mem_milestones_iff]
  · constructor
    · rintro ⟨ids, listed⟩
      obtain ⟨entry, done, ended, _⟩ := abandons.1 listed
      exact ⟨Worker.phase_eq_exited_iff.1 (lives.exited_of_abandoned listed), entry, done,
        (before done).abandons_iff.1 ended⟩
    · rintro ⟨_, entry, done, ended⟩
      exact ⟨_, abandons.2 ⟨entry, done, (before done).abandons_iff.2 ended, rfl⟩⟩
  · intro exited later leads
    obtain ⟨_, still, seen, run⟩ := leads.evolves.old found
    obtain ⟨out, same⟩ := run.milestones_of_exited lives exited
    exact ⟨still, seen, out, same⟩

end System

end Agenda
