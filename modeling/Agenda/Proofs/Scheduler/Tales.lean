import Agenda.Proofs.Scheduler.Milestones

/-!
# The tale of a scheduler

The log lines of the milestones, word for word: how the scheduler began, who shut it down, what was given
up, and whether its worker has stopped.
-/

namespace Agenda

inductive Shutdown where
  | outside
  /-- By one of the scheduler's own tasks, while this many entries were queued. -/
  | inside (queued : Nat)

/-- What there is to tell of a scheduler whose worker has started. -/
structure Tale where
  /-- A shutdown from outside came before the start of the worker. -/
  forestalled : Bool := false
  shutdown : Option Shutdown := none
  /-- The number of entries that were given up because of the stop signal. -/
  abandoned : Option Nat := none
  stopped : Bool := false
  once : forestalled = true → shutdown = none := by nofun

namespace Tale

def lines (tale : Tale) (name : String) : List String :=
  (if tale.forestalled then ["INFO Task manager '" ++ name ++ "' shutting down"] else []) ++
    ["INFO Task manager '" ++ name ++ "' started"] ++
    (match tale.shutdown with
      | none => []
      | some .outside => ["INFO Task manager '" ++ name ++ "' shutting down"]
      | some (.inside queued) =>
          ["INFO Task manager '" ++ name ++ "' stopping from inside a task, draining "
            ++ toString queued ++ " task(s)"]) ++
    (match tale.abandoned with
      | none => []
      | some queued =>
          ["INFO Task manager '" ++ name ++ "' cancelled via token, abandoned "
            ++ toString queued ++ " task(s)"]) ++
    if tale.stopped then ["INFO Task manager '" ++ name ++ "' stopped"] else []

end Tale

def Notice.story (name : String) (notices : List Notice) : List String :=
  (notices.filterMap (Notice.line? name)).map LogLine.render

/-- The tale has what the milestones say, and its lines are theirs. -/
structure Tale.Tells (tale : Tale) (name : String) (milestones : List Notice) : Prop where
  lines : Notice.story name milestones = tale.lines name
  forestalled : tale.forestalled = true ↔ milestones.head? = some .shuttingDown
  outside : tale.forestalled = true ∨ tale.shutdown = some .outside ↔ .shuttingDown ∈ milestones
  inside : ∀ {queued}, tale.shutdown = some (.inside queued) ↔ .stopping queued ∈ milestones
  abandoned : ∀ {queued}, tale.abandoned = some queued ↔
    ∃ ids, .abandoned ids ∈ milestones ∧ queued = ids.length
  stopped : tale.stopped = true ↔ .stopped ∈ milestones

theorem Notice.story_append (name : String) (first second : List Notice) :
    story name (first ++ second) = story name first ++ story name second := by
  rw [story, story, story, List.filterMap_append, List.map_append]

namespace Tale.Tells

variable {tale : Tale} {name : String} {milestones : List Notice}

theorem forestalled_append (tells : tale.Tells name milestones) {farewell : List Notice}
    (silent : farewell.head? ≠ some .shuttingDown) :
    tale.forestalled = true ↔ (milestones ++ farewell).head? = some .shuttingDown := by
  rw [tells.forestalled, List.head?_append]
  cases milestones.head? with
  | none => simp [silent]
  | some notice => rfl

theorem drain (tells : tale.Tells name milestones) (kept : tale.abandoned = none)
    (runs : tale.stopped = false) :
    ({ tale with stopped := true } : Tale).Tells name (milestones ++ [.stopped]) where
  lines := by
    rw [Notice.story_append, tells.lines]
    simp [Tale.lines, kept, runs, Notice.story, Notice.line?, LogLine.render, Level.name,
      ← String.append_assoc]
  forestalled := tells.forestalled_append (by simp)
  outside := by simp [tells.outside]
  inside := by simp [tells.inside]
  abandoned := by simp [tells.abandoned]
  stopped := by simp

theorem abandon (tells : tale.Tells name milestones) (kept : tale.abandoned = none)
    (runs : tale.stopped = false) (ids : List TaskId) :
    ({ tale with abandoned := some ids.length, stopped := true } : Tale).Tells name
      (milestones ++ [.abandoned ids, .stopped]) where
  lines := by
    rw [Notice.story_append, tells.lines]
    simp [Tale.lines, kept, runs, Notice.story, Notice.line?, LogLine.render, Level.name,
      ← String.append_assoc]
  forestalled := tells.forestalled_append (by simp)
  outside := by simp [tells.outside]
  inside := by simp [tells.inside]
  abandoned := by
    intro queued
    have none (others : List TaskId) : .abandoned others ∉ milestones := by
      intro given
      have told := tells.abandoned.2 ⟨others, given, rfl⟩
      rw [kept] at told
      cases told
    simp [none, eq_comm]
  stopped := by simp

end Tale.Tells

variable {phase : Phase} {stopped : Bool} {opening milestones : List Notice}

theorem Opening.exists_tale (opens : Opening stopped opening) (name : String) :
    ∃ tale : Tale, tale.Tells name opening ∧ tale.abandoned = none ∧ tale.stopped = false := by
  cases opens with
  | running =>
      refine ⟨{}, ⟨?_, ?_, ?_, ?_, ?_, ?_⟩, rfl, rfl⟩ <;>
        simp [Tale.lines, Notice.story, Notice.line?, LogLine.render, Level.name,
          ← String.append_assoc]
  | forestalled =>
      refine ⟨{ forestalled := true, once := fun _ => rfl }, ⟨?_, ?_, ?_, ?_, ?_, ?_⟩, rfl, rfl⟩ <;>
        simp [Tale.lines, Notice.story, Notice.line?, LogLine.render, Level.name,
          ← String.append_assoc]
  | asked asks =>
      obtain rfl | ⟨queued, rfl⟩ := Notice.asksToStop_iff.1 asks
      · refine ⟨{ shutdown := some .outside }, ⟨?_, ?_, ?_, ?_, ?_, ?_⟩, rfl, rfl⟩ <;>
          simp [Tale.lines, Notice.story, Notice.line?, LogLine.render, Level.name,
            ← String.append_assoc]
      · refine ⟨{ shutdown := some (.inside queued) }, ⟨?_, ?_, ?_, ?_, ?_, ?_⟩, rfl, rfl⟩ <;>
          simp [Tale.lines, Notice.story, Notice.line?, LogLine.render, Level.name,
            ← String.append_assoc, eq_comm]

theorem Life.exists_tale (life : Life phase stopped milestones) (up : phase ≠ .starting)
    (name : String) : ∃ tale : Tale, tale.Tells name milestones := by
  cases life with
  | waiting | forestalled => exact absurd rfl up
  | opened opens =>
      obtain ⟨tale, tells, _⟩ := opens.exists_tale name
      exact ⟨tale, tells⟩
  | drained opens =>
      obtain ⟨tale, tells, kept, runs⟩ := opens.exists_tale name
      exact ⟨_, tells.drain kept runs⟩
  | abandoned ids opens =>
      obtain ⟨tale, tells, kept, runs⟩ := opens.exists_tale name
      exact ⟨_, tells.abandon kept runs ids⟩

end Agenda
