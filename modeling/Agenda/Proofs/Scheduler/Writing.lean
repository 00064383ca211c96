import Agenda.Proofs.Scheduler.Run

/-!
# The journal of a scheduler

A journal is only written on.  What a run has added to it stands behind what was there before.
-/

namespace Agenda

universe u

variable {ω : Type u}

namespace Scheduler

variable {before after : Scheduler ω} {now : Int}

/-- What stands in the journal of the first scheduler is where the journal of the second begins. -/
def WritesOn (before after : Scheduler ω) : Prop := before.journal.toList <+: after.journal.toList

theorem WritesOn.of_eq (journal : after.journal = before.journal) : WritesOn before after :=
  ⟨[], by rw [List.append_nil, journal]⟩

theorem WritesOn.trans {middle : Scheduler ω} (first : WritesOn before middle)
    (second : WritesOn middle after) : WritesOn before after :=
  List.IsPrefix.trans first second

theorem WritesOn.note (writes : WritesOn before after) (notice : Notice) :
    WritesOn before (after.note notice) := by
  rw [WritesOn, Scheduler.note, Array.toList_push]
  exact List.IsPrefix.trans writes (List.prefix_append _ _)

theorem writesOn_signalDrained (scheduler : Scheduler ω) :
    WritesOn scheduler scheduler.signalDrained := by
  unfold signalDrained
  split <;> exact .of_eq rfl

theorem Chooses.writesOn (chosen : Chooses now before after) : WritesOn before after := by
  induction chosen with
  | exit _ _ => exact .note (.of_eq rfl) _
  | idle _ _ => exact .of_eq rfl
  | sleep _ _ _ => exact .of_eq rfl
  | begin _ _ _ => exact .note (.of_eq rfl) _
  | @discard scheduler last head rest _ _ _ inductionHypothesis =>
      have shorter : WritesOn scheduler
          ({ scheduler with queue := rest }.note (.discarded head.id)) := .note (.of_eq rfl) _
      exact (shorter.trans (writesOn_signalDrained _)).trans inductionHypothesis

/-- Nothing is taken out of a journal. -/
theorem Step.writesOn {occurred : List Occurrence} (step : before.Step now occurred after) :
    WritesOn before after := by
  cases step with
  | submit accepted =>
      unfold submit? at accepted
      split at accepted <;> cases accepted
      unfold announce
      split
      · exact .of_eq rfl
      · split
        · exact .note (.of_eq rfl) _
        · exact .of_eq rfl
  | cancel id =>
      unfold Scheduler.cancel
      split
      · exact .note (.of_eq rfl) _
      · exact .of_eq rfl
  | disown id => exact .note (.of_eq rfl) _
  | stopInside _ =>
      unfold Scheduler.stopInside
      split
      · exact .of_eq rfl
      · exact .note (.of_eq rfl) _
  | close _ =>
      unfold Scheduler.close
      split
      · exact .of_eq rfl
      · exact .note (.of_eq rfl) _
  | look _ =>
      unfold Scheduler.look
      split
      · exact .note (.note (.of_eq rfl) _) _
      · exact (chooses_choose before now).writesOn
  | wake woke =>
      rcases (wakes_of_wake? woke).journal with same | ⟨_, _, pushed⟩
      · exact .of_eq same
      · rw [WritesOn, pushed, Array.toList_push]
        exact List.prefix_append _ _
  | fail message _ =>
      unfold Scheduler.fail
      dsimp only
      split
      · exact .note (.note (.of_eq rfl) _) _
      · exact .note (.of_eq rfl) _
  | finish _ =>
      have looking : WritesOn before { before with worker := .looking } := .of_eq rfl
      exact looking.trans (writesOn_signalDrained _)
  | _ => exact .of_eq rfl

end Scheduler

theorem Run.writesOn {first last : Moment ω} {record : List Occurrence}
    (run : Run first record last) : first.scheduler.WritesOn last.scheduler :=
  run.keeps (motive := fun scheduler => first.scheduler.WritesOn scheduler)
    (fun writes step => writes.trans step.writesOn) (.of_eq rfl)

end Agenda
