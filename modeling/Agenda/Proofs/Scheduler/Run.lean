import Agenda.Proofs.Scheduler.Choice
import Agenda.Scheduler.Intake

/-!
# Runs of a scheduler

A run is any order of what callers, tasks and the worker can do to one scheduler, with the clock
moving on in between.  It leaves a record of what became of the tasks.
-/

namespace Agenda

universe u

variable {ω : Type u}

inductive Occurrence where
  | accepted (id : TaskId) (due : Int)
  /-- The worker began to run the task when the clock showed `now`. -/
  | began (id : TaskId) (now : Int)
  | ended (id : TaskId)
  /-- Somebody asked to cancel the task and got this answer. -/
  | cancelAnswered (id : TaskId) (answer : Bool)
  /-- The stop signal ended the task while it was pending. -/
  | abandoned (id : TaskId)
  deriving DecidableEq, Repr

namespace Scheduler

def outlook (scheduler : Scheduler ω) (now : Int) : List Occurrence :=
  if scheduler.halted then
    ((scheduler.queue.toList.map Entry.id).filter scheduler.roster.isPending).map .abandoned
  else
    match (scheduler.choose now).worker with
    | .busy id _ => [.began id now]
    | _ => []

/-- One change of a scheduler at the time `now`, and what happens to the tasks in it. -/
inductive Step (now : Int) : Scheduler ω → List Occurrence → Scheduler ω → Prop where
  | submit {before after : Scheduler ω} {due : Int} {work : ω} {id : TaskId} :
      before.submit? due work = some (id, after) → Step now before [.accepted id due] after
  | cancel (before : Scheduler ω) (id : TaskId) :
      Step now before [.cancelAnswered id (before.cancel id).1] (before.cancel id).2
  | disown (before : Scheduler ω) (id : TaskId) : Step now before [] (before.disown id).2
  | halt (before : Scheduler ω) : Step now before [] before.halt
  /-- Only a running task can stop its own scheduler. -/
  | stopInside {before : Scheduler ω} :
      before.worker.isBusy = true → Step now before [] before.stopInside
  | close {before : Scheduler ω} : before.isDrained = true → Step now before [] before.close
  | join (before : Scheduler ω) : Step now before [] before.join
  | look {before : Scheduler ω} :
      before.worker = .looking → Step now before (before.outlook now) (before.look now)
  | wake {before after : Scheduler ω} : before.wake? now = some after → Step now before [] after
  | proceed {before : Scheduler ω} {id : TaskId} {work : ω} (rest : ω) :
      before.worker = .busy id work → Step now before [] (before.proceed id rest)
  | fail {before : Scheduler ω} {id : TaskId} {work : ω} (message : String) :
      before.worker = .busy id work → Step now before [] (before.fail id message)
  | finish {before : Scheduler ω} {id : TaskId} {work : ω} :
      before.worker = .busy id work → Step now before [.ended id] before.finish

end Scheduler

structure Moment (ω : Type u) where
  now : Int
  scheduler : Scheduler ω

inductive Run (first : Moment ω) : List Occurrence → Moment ω → Prop where
  | rest : Run first [] first
  | step {record occurred : List Occurrence} {last : Moment ω} {after : Scheduler ω} :
      Run first record last → last.scheduler.Step last.now occurred after →
      Run first (record ++ occurred) ⟨last.now, after⟩
  | pass {record : List Occurrence} {last : Moment ω} {later : Int} :
      Run first record last → last.now ≤ later → Run first record ⟨later, last.scheduler⟩

namespace Run

theorem single {now : Int} {before after : Scheduler ω} {occurred : List Occurrence}
    (step : before.Step now occurred after) : Run ⟨now, before⟩ occurred ⟨now, after⟩ :=
  Run.step .rest step

theorem trans {first middle last : Moment ω} {record later : List Occurrence}
    (before : Run first record middle) (after : Run middle later last) :
    Run first (record ++ later) last := by
  induction after with
  | rest =>
      rw [List.append_nil]
      exact before
  | step _ step inductionHypothesis =>
      rw [← List.append_assoc]
      exact inductionHypothesis.step step
  | pass _ order inductionHypothesis => exact inductionHypothesis.pass order

/-- What every step keeps is kept by a run. -/
theorem keeps {motive : Scheduler ω → Prop} {first last : Moment ω} {record : List Occurrence}
    (run : Run first record last)
    (step : ∀ {now before occurred after}, motive before → Scheduler.Step now before occurred after →
      motive after)
    (start : motive first.scheduler) : motive last.scheduler := by
  induction run with
  | rest => exact start
  | step _ taken inductionHypothesis => exact step inductionHypothesis taken
  | pass _ _ inductionHypothesis => exact inductionHypothesis

end Run

end Agenda
