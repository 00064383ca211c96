import Agenda.Proofs.Scheduler.Completing
import Mathlib.Data.List.Nodup

/-!
# What becomes of a queued task

A pending task stays in the queue, with its due time, until it begins at that time or later, or is
cancelled.
-/

namespace Agenda

universe u

variable {ω : Type u} {before after : Scheduler ω} {entry : Entry ω} {now : Int}
  {record occurred : List Occurrence}

namespace Scheduler

inductive Fares (entry : Entry ω) (record : List Occurrence) (scheduler : Scheduler ω) : Prop where
  | waits : entry ∈ scheduler.queue.toList → scheduler.roster.fate? entry.id = some .pending →
      Fares entry record scheduler
  | began {time : Int} : .began entry.id time ∈ record → entry.due ≤ time →
      scheduler.roster.fate? entry.id = some .fired → Fares entry record scheduler
  | cancelled : scheduler.roster.fate? entry.id = some .cancelled → Fares entry record scheduler

end Scheduler

/-- A task that is still pending is still queued. -/
theorem Explains.queued (explains : Explains before after occurred) (sound : before.Sound)
    (later : after.Sound) (queued : entry ∈ before.queue.toList)
    (pending : after.roster.fate? entry.id = some .pending) : entry ∈ after.queue.toList := by
  obtain ⟨other, held, same⟩ := later.stored.queued entry.id pending
  rcases explains.noted other held with old | accepted
  · rwa [List.inj_on_of_nodup_map sound.stored.distinct queued old same.symm]
  · obtain ⟨fate, known⟩ := Option.ne_none_iff_exists'.1 (sound.stored.known queued)
    have none := explains.accepted entry.id
    rw [known, pending] at none
    have zero : occurred.countP (Occurrence.accepts entry.id) = 0 := by
      simpa [acceptances] using none
    rw [List.countP_eq_zero] at zero
    exact absurd (by simp [Occurrence.accepts, same]) (zero _ accepted)

namespace Scheduler

/-- A step begins a task that is due, or cancels it, or leaves it pending. -/
theorem Effect.fares (effect : Effect now before after occurred) (sound : before.Sound)
    (later : after.Sound) (queued : entry ∈ before.queue.toList)
    (pending : before.roster.fate? entry.id = some .pending) : Fares entry occurred after := by
  have stays (same : after.roster.fate? entry.id = before.roster.fate? entry.id) :
      Fares entry occurred after :=
    .waits (effect.explains.queued sound later queued (same.trans pending)) (same.trans pending)
  have resolved {id : TaskId} (roster : after.roster = before.roster.resolve id .cancelled) :
      Fares entry occurred after := by
    have fate := Roster.fate?_resolve before.roster id entry.id .cancelled
    rw [← roster] at fate
    split at fate
    · exact .cancelled fate
    · exact stays fate
  cases effect with
  | quiet roster => exact stays (congrArg (Roster.fate? · _) roster)
  | accepted roster =>
      refine stays ?_
      rw [roster, Roster.fate?_accept_of_some pending, pending]
  | cancelAnswered id roster => exact resolved roster
  | @began head held _ due roster =>
      have fate := Roster.fate?_resolve before.roster head.id entry.id .fired
      rw [← roster] at fate
      split at fate
      · rename_i own
        have same := List.inj_on_of_nodup_map sound.stored.distinct queued held own.1
        subst same
        exact .began List.mem_cons_self due fate
      · exact stays fate
  | abandoned _ _ fates =>
      have fate := fates entry.id
      split at fate
      · exact .cancelled fate
      · exact stays fate
  | ended roster => exact stays (congrArg (Roster.fate? · _) roster)

end Scheduler

/-- In every run a queued task waits, or has begun when it was due, or is cancelled. -/
theorem Run.fares {first last : Moment ω} (run : Run first record last)
    (sound : first.scheduler.Sound) (queued : entry ∈ first.scheduler.queue.toList)
    (pending : first.scheduler.roster.fate? entry.id = some .pending) :
    Scheduler.Fares entry record last.scheduler := by
  induction run with
  | rest => exact .waits queued pending
  | @step record occurred last after earlier step inductionHypothesis =>
      have middle := earlier.sound sound
      have effect := step.effect middle
      have lasting {fate : Fate} (known : last.scheduler.roster.fate? entry.id = some fate)
          (final : fate ≠ .pending) : after.roster.fate? entry.id = some fate :=
        (effect.explains.lasting known).resolve_left final
      cases inductionHypothesis with
      | waits held waiting =>
          cases effect.fares middle (middle.step step) held waiting with
          | waits held waiting => exact .waits held waiting
          | began began due fired => exact .began (List.mem_append_right _ began) due fired
          | cancelled cancelled => exact .cancelled cancelled
      | began began due fired =>
          exact .began (List.mem_append_left _ began) due (lasting fired nofun)
      | cancelled cancelled => exact .cancelled (lasting cancelled nofun)
  | pass _ _ inductionHypothesis => exact inductionHypothesis

end Agenda
