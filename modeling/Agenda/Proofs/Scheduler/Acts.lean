import Agenda.Heap.Steps
import Agenda.Proofs.Scheduler.Run
import Mathlib.Data.List.Induction

/-!
# What is done to a scheduler, by name

An act is what a caller, a running task or the worker does to a scheduler in one step.  What comes
of it is determined, and so is the use that it makes of the queue.
-/

namespace Agenda

universe u

variable {ω : Type u}

namespace Scheduler

inductive Act (ω : Type u) where
  | submit (due : Int) (work : ω)
  | cancel (id : TaskId)
  | disown (id : TaskId)
  | halt
  | stopInside
  | close
  | join
  | look
  | wake
  | proceed (rest : ω)
  | fail (message : String)
  | finish
  deriving DecidableEq, Repr

namespace Act

def result? (now : Int) (scheduler : Scheduler ω) : Act ω → Option (Scheduler ω)
  | .submit due work => (scheduler.submit? due work).map Prod.snd
  | .cancel id => some (scheduler.cancel id).2
  | .disown id => some (scheduler.disown id).2
  | .halt => some scheduler.halt
  | .stopInside => if scheduler.worker.isBusy then some scheduler.stopInside else none
  | .close => if scheduler.isDrained then some scheduler.close else none
  | .join => some scheduler.join
  | .look =>
      match scheduler.worker with
      | .looking => some (scheduler.look now)
      | _ => none
  | .wake => scheduler.wake? now
  | .proceed rest =>
      match scheduler.worker with
      | .busy id _ => some (scheduler.proceed id rest)
      | _ => none
  | .fail message =>
      match scheduler.worker with
      | .busy id _ => some (scheduler.fail id message)
      | _ => none
  | .finish =>
      match scheduler.worker with
      | .busy _ _ => some scheduler.finish
      | _ => none

/-- What an act does with the queue.  A look takes entries out one by one, or all at once when the
stop signal was given.  A cancellation leaves the queue alone. -/
def uses (now : Int) (scheduler : Scheduler ω) : Act ω → List (Heap.Step (Entry ω))
  | .submit due work => [.insert [⟨due, scheduler.roster.nextId, work⟩]]
  | .look =>
      if scheduler.halted then [.drain none]
      else List.replicate (scheduler.size - (scheduler.choose now).size) .pop
  | _ => []

variable {now : Int} {before after : Scheduler ω} {act : Act ω}

theorem looking_of_result? (done : Act.look.result? now before = some after) :
    before.worker = .looking ∧ after = before.look now := by
  simp only [result?] at done
  split at done
  · rename_i looking
    cases done
    exact ⟨looking, rfl⟩
  · cases done

/-- What an act does to a task in the hands of the worker needs such a task. -/
theorem busy_of_result? {change : TaskId → Scheduler ω}
    (done : (match before.worker with
      | .busy id _ => some (change id)
      | _ => none) = some after) :
    ∃ id work, before.worker = .busy id work ∧ after = change id := by
  split at done
  · rename_i id work busy
    cases done
    exact ⟨id, work, busy, rfl⟩
  · cases done

theorem exists_step (done : act.result? now before = some after) :
    ∃ occurred, before.Step now occurred after := by
  cases act with
  | submit due work =>
      obtain ⟨⟨id, _⟩, accepted, rfl⟩ := Option.map_eq_some_iff.1 done
      exact ⟨_, .submit accepted⟩
  | cancel id =>
      cases done
      exact ⟨_, .cancel before id⟩
  | disown id =>
      cases done
      exact ⟨_, .disown before id⟩
  | halt =>
      cases done
      exact ⟨_, .halt before⟩
  | stopInside =>
      obtain ⟨busy, same⟩ := Option.ite_none_right_eq_some.1 done
      cases same
      exact ⟨_, .stopInside busy⟩
  | close =>
      obtain ⟨drained, same⟩ := Option.ite_none_right_eq_some.1 done
      cases same
      exact ⟨_, .close drained⟩
  | join =>
      cases done
      exact ⟨_, .join before⟩
  | look =>
      obtain ⟨looking, rfl⟩ := looking_of_result? done
      exact ⟨_, .look looking⟩
  | wake => exact ⟨_, .wake done⟩
  | proceed rest =>
      obtain ⟨id, work, busy, rfl⟩ := busy_of_result? done
      exact ⟨_, .proceed rest busy⟩
  | fail message =>
      obtain ⟨id, work, busy, rfl⟩ := busy_of_result? done
      exact ⟨_, .fail message busy⟩
  | finish =>
      obtain ⟨id, work, busy, rfl⟩ := busy_of_result? done
      exact ⟨_, .finish busy⟩

theorem exists_of_step {occurred : List Occurrence} (step : before.Step now occurred after) :
    ∃ act : Act ω, act.result? now before = some after := by
  cases step with
  | @submit _ due work id accepted =>
      refine ⟨.submit due work, ?_⟩
      rw [result?, accepted, Option.map_some]
  | cancel id => exact ⟨.cancel id, rfl⟩
  | disown id => exact ⟨.disown id, rfl⟩
  | halt => exact ⟨.halt, rfl⟩
  | stopInside busy => exact ⟨.stopInside, if_pos busy⟩
  | close drained => exact ⟨.close, if_pos drained⟩
  | join => exact ⟨.join, rfl⟩
  | look looking =>
      refine ⟨.look, ?_⟩
      rw [result?, looking]
  | wake woke => exact ⟨.wake, woke⟩
  | proceed rest busy =>
      refine ⟨.proceed rest, ?_⟩
      rw [result?, busy]
  | fail message busy =>
      refine ⟨.fail message, ?_⟩
      rw [result?, busy]
  | finish busy =>
      refine ⟨.finish, ?_⟩
      rw [result?, busy]

end Act

/-- The acts are the steps. -/
theorem exists_act_iff {now : Int} {before after : Scheduler ω} :
    (∃ act : Act ω, act.result? now before = some after) ↔
      ∃ occurred, before.Step now occurred after :=
  ⟨fun ⟨_, done⟩ => Act.exists_step done, fun ⟨_, step⟩ => Act.exists_of_step step⟩

end Scheduler

inductive History (first : Moment ω) : List (Heap.Step (Entry ω)) → Moment ω → Prop where
  | rest : History first [] first
  | act {uses : List (Heap.Step (Entry ω))} {last : Moment ω} {after : Scheduler ω}
      (act : Scheduler.Act ω) :
      History first uses last → act.result? last.now last.scheduler = some after →
      History first (uses ++ act.uses last.now last.scheduler) ⟨last.now, after⟩
  | pass {uses : List (Heap.Step (Entry ω))} {last : Moment ω} {later : Int} :
      History first uses last → last.now ≤ later → History first uses ⟨later, last.scheduler⟩

def Moment.trace? (first : Moment ω) (acts : List (Int × Scheduler.Act ω)) :
    Option (List (Heap.Step (Entry ω)) × Moment ω) :=
  acts.foldlM (fun (uses, last) (now, act) =>
    if last.now ≤ now then
      (act.result? now last.scheduler).map fun after =>
        (uses ++ act.uses now last.scheduler, ⟨now, after⟩)
    else none) ([], first)

theorem History.of_trace? {first last : Moment ω} {acts : List (Int × Scheduler.Act ω)}
    {uses : List (Heap.Step (Entry ω))} (traced : first.trace? acts = some (uses, last)) :
    History first uses last := by
  induction acts using List.reverseRecOn generalizing uses last with
  | nil =>
      cases traced
      exact .rest
  | append_singleton acts timed inductionHypothesis =>
      obtain ⟨now, act⟩ := timed
      rw [Moment.trace?, List.foldlM_append] at traced
      obtain ⟨⟨early, middle⟩, before, ends⟩ := Option.bind_eq_some_iff.1 traced
      rw [List.foldlM_cons, Option.bind_eq_bind] at ends
      obtain ⟨⟨all, moment⟩, done, same⟩ := Option.bind_eq_some_iff.1 ends
      cases same
      obtain ⟨order, done⟩ := Option.ite_none_right_eq_some.1 done
      obtain ⟨after, result, same⟩ := Option.map_eq_some_iff.1 done
      cases same
      exact ((inductionHypothesis before).pass order).act act result

/-- Every run has such a history, and every history is one of a run. -/
theorem exists_history_iff {first last : Moment ω} :
    (∃ uses, History first uses last) ↔ ∃ record, Run first record last := by
  constructor
  · rintro ⟨uses, history⟩
    induction history with
    | rest => exact ⟨[], .rest⟩
    | act act _ done inductionHypothesis =>
        obtain ⟨record, run⟩ := inductionHypothesis
        obtain ⟨occurred, step⟩ := Scheduler.exists_act_iff.1 ⟨act, done⟩
        exact ⟨_, run.step step⟩
    | pass _ order inductionHypothesis =>
        obtain ⟨record, run⟩ := inductionHypothesis
        exact ⟨record, run.pass order⟩
  · rintro ⟨record, run⟩
    induction run with
    | rest => exact ⟨[], .rest⟩
    | step _ step inductionHypothesis =>
        obtain ⟨uses, history⟩ := inductionHypothesis
        obtain ⟨act, done⟩ := Scheduler.exists_act_iff.2 ⟨_, step⟩
        exact ⟨_, history.act act done⟩
    | pass _ order inductionHypothesis =>
        obtain ⟨uses, history⟩ := inductionHypothesis
        exact ⟨uses, history.pass order⟩

end Agenda
