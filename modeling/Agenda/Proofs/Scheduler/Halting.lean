import Agenda.Proofs.Scheduler.Completing

/-!
# After the stop signal

A halted scheduler accepts nothing and begins nothing.  Its pending tasks can only become
cancelled, and the task under way goes on to its end.
-/

namespace Agenda

universe u

variable {ω : Type u}

namespace Scheduler

structure Halts (record : List Occurrence) (before after : Scheduler ω) : Prop where
  /-- Nothing has been accepted. -/
  count : after.roster.count = before.roster.count
  begun : after.begun = before.begun
  fates : ∀ {id fate}, before.roster.fate? id = some fate → after.roster.fate? id = some fate ∨
    fate = .pending ∧ after.roster.fate? id = some .cancelled
  /-- The task under way is the same, or none is and that one has ended. -/
  task : after.worker.task? = before.worker.task? ∨
    after.worker.task? = none ∧ ∀ id, before.worker.task? = some id → .ended id ∈ record

variable {before middle after : Scheduler ω} {record further : List Occurrence} {now : Int}

theorem isStopped_of_stopped (stopped : before.stopped = true) : before.isStopped = true := by
  rw [isStopped, stopped, Bool.or_true]

theorem isStopped_of_halted (halted : before.halted = true) : before.isStopped = true := by
  rw [isStopped, halted, Bool.true_or]

theorem submit?_of_isStopped (stopped : before.isStopped = true) (due : Int) (work : ω) :
    before.submit? due work = none := by
  rw [submit?, if_pos stopped]

namespace Halts

theorem of_eq (roster : after.roster = before.roster)
    (task : after.worker.task? = before.worker.task?) (begun : after.begun = before.begun) :
    Halts record before after := by
  refine ⟨congrArg Roster.count roster, begun, fun known => .inl ?_, .inl task⟩
  rwa [roster]

theorem refl (scheduler : Scheduler ω) : Halts [] scheduler scheduler := of_eq rfl rfl rfl

theorem trans (first : Halts record before middle) (second : Halts further middle after) :
    Halts (record ++ further) before after := by
  refine ⟨second.count.trans first.count, second.begun.trans first.begun, ?_, ?_⟩
  · intro id fate known
    rcases first.fates known with kept | ⟨pending, cancelled⟩
    · exact second.fates kept
    · refine .inr ⟨pending, ?_⟩
      exact (second.fates cancelled).resolve_right fun other => nomatch other.1
  · rcases second.task with same | ⟨free, ended⟩
    · rw [same]
      exact first.task.imp_right fun ⟨free, ended⟩ =>
        ⟨free, fun id running => List.mem_append_left _ (ended id running)⟩
    · refine .inr ⟨free, fun id running => ?_⟩
      rcases first.task with same | ⟨_, earlier⟩
      · exact List.mem_append_right _ (ended id (same.trans running))
      · exact List.mem_append_left _ (earlier id running)

/-- The fate of a known task stays, unless the task was pending and is cancelled. -/
theorem resolve (pending : ∀ id, after.roster.fate? id = before.roster.fate? id ∨
      before.roster.fate? id = some .pending ∧ after.roster.fate? id = some .cancelled)
    (count : after.roster.count = before.roster.count) (begun : after.begun = before.begun)
    (task : after.worker.task? = before.worker.task?) : Halts record before after := by
  refine ⟨count, begun, fun {id fate} known => ?_, .inl task⟩
  rcases pending id with same | ⟨waited, cancelled⟩
  · exact .inl (same.trans known)
  · cases known.symm.trans waited
    exact .inr ⟨rfl, cancelled⟩

theorem fired_iff (halts : Halts record before after) (id : TaskId) :
    after.roster.fate? id = some .fired ↔ before.roster.fate? id = some .fired := by
  cases known : before.roster.fate? id with
  | none =>
      have unknown : after.roster.fate? id = none := by
        rw [Roster.fate?_eq_none_iff, halts.count, ← Roster.fate?_eq_none_iff]
        exact known
      rw [unknown]
  | some fate =>
      rcases halts.fates known with kept | ⟨rfl, cancelled⟩
      · rw [kept]
      · rw [cancelled]
        exact ⟨nofun, nofun⟩

theorem cancel (id : TaskId) (begun : (before.cancel id).2.begun = before.begun) :
    Halts record before (before.cancel id).2 := by
  refine resolve (fun other => ?_) ?_ begun (by rw [worker_cancel])
  · rw [roster_cancel, Roster.fate?_resolve]
    split
    · rename_i decided
      rw [decided.1]
      exact .inr ⟨decided.2, rfl⟩
    · exact .inl rfl
  · rw [roster_cancel, Roster.count_resolve]

theorem abandon (looking : before.worker = .looking)
    (begun : before.abandon.begun = before.begun) : Halts record before before.abandon := by
  refine resolve (fun id => ?_) (Roster.count_cancelAll ..) begun (by rw [looking]; rfl)
  have shown := Roster.fate?_cancelAll (before.queue.toList.map Entry.id) before.roster id
  split at shown
  · rename_i decided
    exact .inr ⟨decided.2, shown⟩
  · exact .inl shown

end Halts

theorem Step.halts {occurred : List Occurrence} (step : before.Step now occurred after)
    (halted : before.halted = true) : Halts occurred before after := by
  have begun := step.begun
  cases step with
  | submit accepted =>
      rw [submit?_of_isStopped (isStopped_of_halted halted)] at accepted
      cases accepted
  | cancel id => exact .cancel id (begun.trans (List.append_nil _))
  | stopInside _ =>
      refine .of_eq ?_ ?_ (begun.trans (List.append_nil _)) <;>
        · unfold Scheduler.stopInside
          split <;> rfl
  | close _ =>
      refine .of_eq ?_ ?_ (begun.trans (List.append_nil _)) <;>
        · unfold Scheduler.close
          split <;> rfl
  | look looking =>
      have outlook : (before.outlook now).filterMap Occurrence.begun? = [] := by
        rw [outlook, if_pos halted, List.filterMap_map]
        exact List.filterMap_eq_nil_iff.2 fun _ _ => rfl
      rw [outlook, List.append_nil] at begun
      rw [Scheduler.look, if_pos halted] at begun ⊢
      exact .abandon looking begun
  | wake woke =>
      have wakes := wakes_of_wake? woke
      refine .of_eq wakes.roster ?_ wakes.begun
      rw [wakes.worker]
      rcases wakes.dormant with worker | worker | ⟨due, worker⟩ <;> rw [worker] <;> rfl
  | proceed rest busy => exact .of_eq rfl (by rw [busy]; rfl) rfl
  | fail message _ =>
      exact .of_eq (roster_fail ..) (by rw [worker_fail]) (begun.trans (List.append_nil _))
  | finish busy =>
      refine ⟨(continues_finish before).count, begun.trans (List.append_nil _), ?_, ?_⟩
      · intro other fate known
        rw [Scheduler.finish, roster_signalDrained]
        exact .inl known
      · rw [Scheduler.finish, worker_signalDrained, busy]
        refine .inr ⟨rfl, fun other same => ?_⟩
        cases same
        exact List.mem_cons_self
  | _ => exact .of_eq rfl rfl (begun.trans (List.append_nil _))

end Scheduler

/-- Whatever is done to a halted scheduler, none of its tasks begins any more. -/
theorem Run.halts {first last : Moment ω} {record : List Occurrence} (run : Run first record last)
    (halted : first.scheduler.halted = true) :
    Scheduler.Halts record first.scheduler last.scheduler := by
  induction run with
  | rest => exact .refl _
  | step taken step inductionHypothesis =>
      exact inductionHypothesis.trans (step.halts (taken.remembers.halted halted))
  | pass _ _ inductionHypothesis => exact inductionHypothesis

end Agenda
