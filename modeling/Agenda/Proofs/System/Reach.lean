import Agenda.Proofs.System.Evolution
import Agenda.Session.Run

/-!
# What a system can become

`System.Step` is one change of a system by anybody: a caller from outside, an access that takes
its lock or goes on, a worker, a call under way, or the clock.  `Reachable` systems come about
by steps in any order.  To each scheduler of a system the steps are a run of its own, so what holds
of all runs of a scheduler holds in every reachable system.
-/

namespace Agenda.System

universe u

variable {V : Type u}

inductive Step : System V → System V → Prop where
  | deed (system : System V) (deed : Session.Deed V) :
      Step system (Session.perform system deed).2
  | book {system locked : System V} {label : Label} {id : CacheId} {cache : Cache V}
      {key : String} {access : Access V} {booking : Booking V} :
      system.cacheAt? label = some (id, cache) → system.isAccessible id key access = true →
      system.book id cache key access = .ok (booking, locked) → Step system locked
  | confirm {system : System V} {booking : Booking V} :
      booking ∈ system.bookings → Step system (system.confirm booking).2
  | worker {system moved : System V} {id : SchedulerId} :
      system.moveWorker? id = some moved → Step system moved
  | call {system moved : System V} {position : Nat} :
      system.moveCall? position = some moved → Step system moved
  | pass {system : System V} {later : Int} :
      system.now ≤ later → Step system { system with now := later }

/-- The systems that come about from the empty one by any steps in any order. -/
inductive Reachable : System V → Prop where
  | start : Reachable {}
  | step {before after : System V} : Reachable before → Step before after → Reachable after

theorem changes_perform (system : System V) (deed : Session.Deed V) :
    Changes system (Session.perform system deed).2 := by
  cases deed with
  | submit scheduler handle due script => exact changes_submit _ _ _ _ _
  | request request =>
      simp only [Session.perform]
      cases answer : system.answer? request with
      | none => exact .refl
      | some answered => exact changes_answer? answer
  | part parting helper =>
      simp only [Session.perform]
      split
      · exact .refl
      · rename_i begun
        refine changes_part? ?_ begun
        intro id scheduler own
        cases own

/-- In a step either the clock stands still or nothing else changes. -/
theorem Step.changes_or_passes {before after : System V} (step : Step before after) :
    Changes before after ∨ ∃ later, before.now ≤ later ∧ after = { before with now := later } := by
  cases step with
  | deed deed => exact .inl (changes_perform before deed)
  | book located accessible booked =>
      exact .inl (.single (.book (cache?_of_cacheAt? located) accessible booked))
  | confirm held => exact .inl (changes_confirm held)
  | worker move => exact .inl (changes_moveWorker? move)
  | call move => exact .inl (changes_moveCall? move)
  | pass order => exact .inr ⟨_, order, rfl⟩

/-- What every change keeps, and time does not take, is kept by a step. -/
theorem Step.keeps {motive : System V → Prop} {before after : System V} (step : Step before after)
    (change : ∀ {before after}, motive before → Change before after → motive after)
    (pass : ∀ {system later}, motive system → system.now ≤ later →
      motive { system with now := later })
    (start : motive before) : motive after := by
  rcases step.changes_or_passes with changes | ⟨later, order, rfl⟩
  · exact changes.keeps change start
  · exact pass start order

theorem Step.evolves {before after : System V} (step : Step before after) :
    Evolves before after := by
  rcases step.changes_or_passes with changes | ⟨later, order, rfl⟩
  · exact changes.evolves
  · exact .pass before order

namespace Reachable

/-- What every change keeps, and time does not take, holds of every reachable system if it holds
of the empty one. -/
theorem keeps {motive : System V → Prop} {system : System V} (reachable : Reachable system)
    (change : ∀ {before after}, motive before → Change before after → motive after)
    (pass : ∀ {system later}, motive system → system.now ≤ later →
      motive { system with now := later })
    (start : motive {}) : motive system := by
  induction reachable with
  | start => exact start
  | step _ step inductionHypothesis => exact step.keeps change pass inductionHypothesis

variable {system : System V} {id : SchedulerId} {scheduler : Scheduler (Work V)}

/-- Every scheduler of a reachable system has had a run from its start. -/
theorem run (reachable : Reachable system) (found : system.scheduler? id = some scheduler) :
    ∃ now settings halted record,
      Run ⟨now, Scheduler.start settings halted⟩ record ⟨system.now, scheduler⟩ := by
  induction reachable generalizing scheduler with
  | start => simp [scheduler?] at found
  | @step before after _ step inductionHypothesis =>
      cases earlier : before.scheduler? id with
      | none => exact step.evolves.new earlier found
      | some old =>
          obtain ⟨now, settings, halted, record, run⟩ := inductionHypothesis earlier
          obtain ⟨further, changed, seen, onward⟩ := step.evolves.old earlier
          rw [found] at seen
          cases seen
          exact ⟨now, settings, halted, record ++ further, run.trans onward⟩

theorem sound (reachable : Reachable system) (found : system.scheduler? id = some scheduler) :
    scheduler.Sound := by
  obtain ⟨now, settings, halted, record, run⟩ := reachable.run found
  exact run.sound (Scheduler.sound_start settings halted)

end Reachable

end Agenda.System
