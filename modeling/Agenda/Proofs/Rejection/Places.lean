import Agenda.Proofs.Rejection.Gaps

/-!
# A step in a script

A piece can be inserted at a place in the script of a task.  Until the task comes to the place, two
systems differ in that script only, whatever the piece is.
-/

namespace Agenda

universe u

variable {V : Type u}

namespace Script

inductive Place where
  | here
  /-- After the first step. -/
  | later (place : Place)
  /-- In the task that the first step submits. -/
  | inside (place : Place)
  deriving DecidableEq, Repr

/-- The script with a piece before what stands at a place, if it has the place. -/
def insert (piece : Script V → Script V) : Place → Script V → Script V
  | .here, script => piece script
  | .later place, script => script.onward (insert piece place)
  | .inside place, .submit scheduler handle due act rest =>
      .submit scheduler handle due (insert piece place act) rest
  | .inside _, script => script

end Script

/-- A place in what a task has still to do. -/
structure Mark where
  scheduler : SchedulerId
  task : TaskId
  place : Script.Place
  deriving DecidableEq, Repr

namespace Guise

def marked (piece : Script V → Script V) : Option Mark → Guise V
  | none => plain
  | some mark => plain.retell mark.scheduler mark.task (Script.insert piece mark.place)

theorem retell_retell (guise : Guise V) (id : SchedulerId) (task : TaskId)
    (first second : Script V → Script V) :
    (guise.retell id task first).retell id task second = guise.retell id task second := by
  refine congrArg (fun script => { guise with script }) ?_
  funext place number
  by_cases own : place = id ∧ number = task
  · exact (if_pos own).trans (if_pos own).symm
  · exact (if_neg own).trans ((if_neg own).trans (if_neg own).symm)

theorem retell_plain (id : SchedulerId) (task : TaskId) :
    (plain : Guise V).retell id task (fun script => script) = plain := retell_self rfl

theorem retell_marked (piece : Script V → Script V) (mark : Mark) :
    (marked piece (some mark)).retell mark.scheduler mark.task (fun script => script) = plain :=
  (retell_retell _ _ _ _ _).trans (retell_plain _ _)

end Guise

namespace System

variable {guise : Guise V} {image system before after : System V} {id : SchedulerId}
  {host : Scheduler (Work V)} {task : TaskId} {reading piece : Script V → Script V} {mark : Mark}

def Knows (system : System V) (mark : Mark) : Prop :=
  ∃ host, system.scheduler? mark.scheduler = some host ∧ host.roster.fate? mark.task ≠ none

def Awaits (system : System V) (mark : Mark) : Prop :=
  ∃ host, system.scheduler? mark.scheduler = some host ∧
    host.roster.fate? mark.task = some .pending

structure Arrived (system : System V) (mark : Mark) : Prop where
  here : mark.place = .here
  hand : ∃ label handle rest,
    system.hand? mark.scheduler = some (mark.task, .task label handle rest)
  free : system.Free mark.scheduler

theorem Awaits.knows (awaits : system.Awaits mark) : system.Knows mark := by
  obtain ⟨host, found, pending⟩ := awaits
  exact ⟨host, found, by rw [pending]; exact Option.some_ne_none _⟩

theorem Knows.leads (knows : before.Knows mark) (leads : Leads before after) :
    after.Knows mark := by
  obtain ⟨host, found, known⟩ := knows
  obtain ⟨_, changed, again, run⟩ := leads.evolves.old found
  exact ⟨changed, again, Roster.known_of_count_le run.count_le known⟩

theorem Awaits.not_arrived (awaits : system.Awaits mark)
    (sound : ∀ {id host}, system.scheduler? id = some host → host.Sound) :
    ¬ system.Arrived mark := by
  intro arrived
  obtain ⟨host, found, pending⟩ := awaits
  obtain ⟨_, _, _, held⟩ := arrived.hand
  rw [hand?_of_found found, Worker.hand?_eq_some_iff] at held
  cases ((sound found).busy held).symm.trans pending

theorem suits_marked {mark : Option Mark} (knows : ∀ {m}, mark = some m → system.Knows m) :
    (Guise.marked piece mark).Suits system := by
  cases mark with
  | none => exact suits_plain system
  | some mark =>
      refine ⟨fun {id task script} different => ?_, fun _ _ => rfl, fun _ _ _ => rfl⟩
      have own : id = mark.scheduler ∧ task = mark.task := by
        by_contra apart
        exact different (congrFun (Guise.script_retell_of_ne apart) script)
      rw [own.1, own.2]
      exact knows rfl

namespace Mirrors

/-- It makes no difference how a task is read that is neither queued nor in progress. -/
theorem retell_unused (mirrors : Mirrors guise image system)
    (queued : ∀ {host}, system.scheduler? id = some host → ∀ entry ∈ host.queue.toList,
      entry.id ≠ task)
    (busy : ∀ {host number work}, system.scheduler? id = some host →
      host.worker = .busy number work → number ≠ task) :
    Mirrors (guise.retell id task reading) image system := by
  refine { mirrors with scheduler? := fun other => ?_ }
  rw [mirrors.scheduler?]
  cases found : system.scheduler? other with
  | none => rfl
  | some host =>
      refine congrArg some (Scheduler.recast_congr (fun entry held => ?_) fun {number work} running => ?_)
      · refine (congrFun (Guise.work_retell_of_ne fun own => ?_) entry.work).symm
        obtain ⟨rfl, same⟩ := own
        exact queued found entry held same
      · refine (congrFun (Guise.work_retell_of_ne fun own => ?_) work).symm
        obtain ⟨rfl, same⟩ := own
        exact busy found running same

theorem retell_unknown (mirrors : Mirrors guise image system)
    (sound : ∀ {host}, system.scheduler? id = some host → host.Sound)
    (unknown : ∀ {host}, system.scheduler? id = some host → host.roster.fate? task = none) :
    Mirrors (guise.retell id task reading) image system := by
  refine mirrors.retell_unused (fun found entry held same => ?_) fun found running same => ?_
  · have known := (sound found).stored.known held
    rw [same] at known
    exact known (unknown found)
  · have fired := (sound found).busy running
    rw [same, unknown found] at fired
    cases fired

end Mirrors

theorem submit_cases (system : System V) (scheduler handle : Label) (due : Due) (script : Script V) :
    (system.submit scheduler handle due script).2 = system ∨
      ∃ id host, system.schedulerAt? scheduler = some (id, host) ∧
        (system.submit scheduler handle due script).2.Awaits ⟨id, host.roster.nextId, .here⟩ := by
  unfold submit
  cases located : system.schedulerAt? scheduler with
  | none => exact .inl rfl
  | some held =>
      obtain ⟨id, host⟩ := held
      have found := scheduler?_of_schedulerAt? located
      dsimp only
      cases due.instant? system.now with
      | none => exact .inl rfl
      | some instant =>
          dsimp only
          rw [submit?_of_found found]
          cases accepted : host.submit? instant (.task scheduler handle script) with
          | none => exact .inl rfl
          | some filled =>
              obtain ⟨task, full⟩ := filled
              obtain ⟨_, rfl, ready, interrupt, journal, rfl⟩ := Scheduler.eq_of_submit? accepted
              refine .inr ⟨id, host, rfl, _, scheduler?_putScheduler_self found _, ?_⟩
              exact (Roster.fate?_accept ..).trans (if_pos rfl)

theorem fate?_nextId_of_found {other : Scheduler (Work V)}
    (found : system.scheduler? id = some host) (seen : system.scheduler? id = some other) :
    other.roster.fate? host.roster.nextId = none := by
  cases found.symm.trans seen
  exact Roster.fate?_nextId _

/-- A task is submitted with a piece in its script.  If it is accepted, the mark is in it. -/
theorem submit_marked (sound : ∀ {id host}, system.scheduler? id = some host → host.Sound)
    (scheduler handle : Label) (due : Due) (script : Script V) (place : Script.Place) :
    ∃ mark : Option Mark,
      (∀ piece image, Mirrors Guise.plain image system →
        Agrees (Guise.marked piece mark)
          (image.submit scheduler handle due (script.insert piece place))
          (system.submit scheduler handle due script)) ∧
      ∀ {m}, mark = some m → (system.submit scheduler handle due script).2.Awaits m := by
  have told (piece : Script V → Script V) {image : System V} {id : SchedulerId}
      {host : Scheduler (Work V)} (mirrors : Mirrors Guise.plain image system)
      (located : system.schedulerAt? scheduler = some (id, host)) :
      Agrees (Guise.marked piece (some ⟨id, host.roster.nextId, place⟩))
        (image.submit scheduler handle due (script.insert piece place))
        (system.submit scheduler handle due script) := by
    have found := scheduler?_of_schedulerAt? located
    refine (mirrors.retell_unknown sound (fate?_nextId_of_found found)).submitTold scheduler handle
      due fun again => ?_
    cases located.symm.trans again
    rw [Guise.work, Guise.script_retell_self]
  cases located : system.schedulerAt? scheduler with
  | none =>
      refine ⟨none, fun piece image mirrors => ?_, fun same => absurd same.symm (Option.some_ne_none _)⟩
      refine mirrors.submitTold scheduler handle due fun again => ?_
      cases located.symm.trans again
  | some held =>
      obtain ⟨id, host⟩ := held
      rcases submit_cases system scheduler handle due script with same | ⟨_, _, again, awaits⟩
      · refine ⟨none, fun piece image mirrors => ?_, fun same => absurd same.symm (Option.some_ne_none _)⟩
        obtain ⟨reply, alike⟩ := told piece mirrors located
        refine ⟨reply, ?_⟩
        rw [same] at alike ⊢
        have found := scheduler?_of_schedulerAt? located
        have plain : Mirrors ((Guise.plain.retell id host.roster.nextId _).retell id
            host.roster.nextId fun script => script) _ system :=
          alike.retell_unknown sound (fate?_nextId_of_found found)
        rw [Guise.retell_retell, Guise.retell_plain] at plain
        exact plain
      · cases located.symm.trans again
        refine ⟨some ⟨id, host.roster.nextId, place⟩, fun piece image mirrors => told piece mirrors located,
          fun {m} same => ?_⟩
        cases same
        exact awaits

end System

end Agenda
