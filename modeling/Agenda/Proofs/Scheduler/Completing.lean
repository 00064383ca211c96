import Agenda.Proofs.Scheduler.Closing
import Agenda.Proofs.Scheduler.Continuing

/-!
# What has run when nothing is left

When the queue is empty and nothing runs, every task that was accepted and not cancelled has begun
and ended, unless the stop signal was given.
-/

namespace Agenda

universe u

variable {ω : Type u} {before after : Scheduler ω} {record occurred : List Occurrence} {now : Int}

structure Settles (record : List Occurrence) (scheduler : Scheduler ω) : Prop where
  fired : ∀ {id}, scheduler.roster.fate? id = some .fired →
    (∃ now, .began id now ∈ record) ∧ (.ended id ∈ record ∨ scheduler.worker.task? = some id)
  cancelled : ∀ {id}, scheduler.roster.fate? id = some .cancelled →
    .cancelAnswered id true ∈ record ∨ .abandoned id ∈ record

namespace Settles

theorem start (settings : Settings) (halted : Bool) :
    Settles [] (Scheduler.start settings halted : Scheduler ω) := by
  have absent (id : TaskId) :
      (Scheduler.start settings halted : Scheduler ω).roster.fate? id = none :=
    Roster.fate?_empty id
  constructor
  · intro id fired
    cases (absent id).symm.trans fired
  · intro id cancelled
    cases (absent id).symm.trans cancelled

/-- What has to be seen to when tasks are decided, begin and end. -/
theorem goOn (settles : Settles record before)
    (fired : ∀ id, after.roster.fate? id = some .fired → before.roster.fate? id = some .fired ∨
      (∃ now, .began id now ∈ occurred) ∧ after.worker.task? = some id)
    (cancelled : ∀ id, after.roster.fate? id = some .cancelled →
      before.roster.fate? id = some .cancelled ∨ .cancelAnswered id true ∈ occurred ∨
        .abandoned id ∈ occurred)
    (task : ∀ id, before.worker.task? = some id →
      after.worker.task? = some id ∨ .ended id ∈ occurred) :
    Settles (record ++ occurred) after := by
  constructor
  · intro id shown
    rcases fired id shown with already | ⟨⟨time, began⟩, running⟩
    · obtain ⟨⟨time, began⟩, ended | running⟩ := settles.fired already
      · exact ⟨⟨time, List.mem_append_left _ began⟩, .inl (List.mem_append_left _ ended)⟩
      · refine ⟨⟨time, List.mem_append_left _ began⟩, ?_⟩
        exact (task id running).symm.imp_left (List.mem_append_right _)
    · exact ⟨⟨time, List.mem_append_right _ began⟩, .inr running⟩
  · intro id shown
    rcases cancelled id shown with already | new
    · exact (settles.cancelled already).imp (List.mem_append_left _) (List.mem_append_left _)
    · exact new.imp (List.mem_append_right _) (List.mem_append_right _)

theorem effect (settles : Settles record before)
    (effect : Scheduler.Effect now before after occurred) : Settles (record ++ occurred) after := by
  cases effect with
  | quiet roster task _ =>
      refine settles.goOn (fun id shown => .inl ?_) (fun id shown => .inl ?_)
        fun id running => .inl (task.trans running)
      · rwa [roster] at shown
      · rwa [roster] at shown
  | accepted roster task _ =>
      have fates {id : TaskId} {fate : Fate} (shown : after.roster.fate? id = some fate) :
          fate = .pending ∨ before.roster.fate? id = some fate := by
        rw [roster, Roster.fate?_accept] at shown
        split at shown
        · exact .inl (Option.some.inj shown).symm
        · exact .inr shown
      refine settles.goOn (fun id shown => .inl ((fates shown).resolve_left nofun))
        (fun id shown => .inl ((fates shown).resolve_left nofun)) fun id running => ?_
      exact .inl (task.trans running)
  | cancelAnswered other roster task _ =>
      refine settles.goOn (fun id shown => .inl ?_) (fun id shown => ?_)
        fun id running => .inl (task.trans running)
      · rw [roster, Roster.fate?_resolve] at shown
        split at shown
        · cases shown
        · exact shown
      · rw [roster, Roster.fate?_resolve] at shown
        split at shown
        · rename_i decided
          refine .inr (.inl ?_)
          rw [decided.1, Roster.isPending_iff.2 decided.2]
          exact List.mem_cons_self
        · exact .inl shown
  | began _ pending _ roster resting running _ =>
      refine settles.goOn (fun id shown => ?_) (fun id shown => .inl ?_) fun id running => ?_
      · rw [roster, Roster.fate?_resolve] at shown
        split at shown
        · rename_i decided
          rw [decided.1]
          exact .inr ⟨⟨_, List.mem_cons_self⟩, running⟩
        · exact .inl shown
      · rw [roster, Roster.fate?_resolve] at shown
        split at shown
        · cases shown
        · exact shown
      · cases resting.symm.trans running
  | abandoned _ _ fates resting vacant _ =>
      refine settles.goOn (fun id shown => .inl ?_) (fun id shown => ?_) fun id running => ?_
      · rw [fates] at shown
        split at shown
        · cases shown
        · exact shown
      · rw [fates] at shown
        split at shown
        · rename_i listed
          exact .inr (.inr (List.mem_map_of_mem listed))
        · exact .inl shown
      · cases resting.symm.trans running
  | ended roster running resting _ =>
      refine settles.goOn (fun id shown => .inl ?_) (fun id shown => .inl ?_) fun id same => .inr ?_
      · rwa [roster] at shown
      · rwa [roster] at shown
      · cases running.symm.trans same
        exact List.mem_cons_self

end Settles

/-- Only the stop signal makes a step abandon tasks. -/
theorem Scheduler.Step.halted_of_abandoned (step : before.Step now occurred after) {id : TaskId}
    (abandoned : .abandoned id ∈ occurred) : before.halted = true := by
  cases step with
  | look _ =>
      unfold Scheduler.outlook at abandoned
      split at abandoned
      · rename_i halted
        exact halted
      · split at abandoned <;> simp at abandoned
  | _ => simp at abandoned

namespace Run

variable {settings : Settings} {halted : Bool} {first last : Moment ω}

theorem settles (run : Run ⟨now, Scheduler.start settings halted⟩ record last) :
    Settles record last.scheduler := by
  induction run with
  | rest => exact .start settings halted
  | step taken step inductionHypothesis =>
      have sound := taken.sound (Scheduler.sound_start settings halted)
      exact inductionHypothesis.effect (step.effect sound)
  | pass _ _ inductionHypothesis => exact inductionHypothesis

theorem remembers (run : Run first record last) :
    Scheduler.Remembers first.scheduler last.scheduler :=
  run.keeps (motive := Scheduler.Remembers first.scheduler)
    (fun kept step => kept.trans step.remembers) (.of_eq rfl rfl rfl)

theorem count_le (run : Run first record last) :
    first.scheduler.roster.count ≤ last.scheduler.roster.count :=
  run.keeps (motive := fun scheduler => first.scheduler.roster.count ≤ scheduler.roster.count)
    (fun fewer step => Nat.le_trans fewer step.count_le) (Nat.le_refl _)

theorem count_of_isStopped (run : Run first record last)
    (stopped : first.scheduler.isStopped = true) :
    last.scheduler.roster.count = first.scheduler.roster.count := by
  induction run with
  | rest => rfl
  | step taken step inductionHypothesis =>
      rcases step.count with same | ⟨running, _⟩
      · exact same.trans inductionHypothesis
      · rw [taken.remembers.isStopped stopped] at running
        cases running
  | pass _ _ inductionHypothesis => exact inductionHypothesis

theorem known (run : Run first record last) (sound : first.scheduler.Sound) {id : TaskId}
    (known : first.scheduler.roster.fate? id ≠ none) : last.scheduler.roster.fate? id ≠ none := by
  induction run with
  | rest => exact known
  | step taken step inductionHypothesis =>
      obtain ⟨fate, shown⟩ := Option.ne_none_iff_exists'.1 inductionHypothesis
      have accepted := (step.effect (taken.sound sound)).explains.accepted id
      intro forgotten
      rw [shown, forgotten] at accepted
      simp only [acceptances] at accepted
      omega
  | pass _ _ inductionHypothesis => exact inductionHypothesis

theorem halted_of_abandoned (run : Run first record last) {id : TaskId}
    (abandoned : .abandoned id ∈ record) : last.scheduler.halted = true := by
  induction run with
  | rest => cases abandoned
  | step _ step inductionHypothesis =>
      refine step.remembers.halted ?_
      rcases List.mem_append.1 abandoned with earlier | now
      · exact inductionHypothesis earlier
      · exact step.halted_of_abandoned now
  | pass _ _ inductionHypothesis => exact inductionHypothesis abandoned

/-- When nothing is queued and nothing runs, a task that was accepted and not cancelled has begun
and ended, unless the stop signal was given. -/
theorem completes (run : Run ⟨now, Scheduler.start settings halted⟩ record last)
    (vacant : last.scheduler.queue.toList = []) (free : last.scheduler.worker.isBusy = false)
    (running : last.scheduler.halted = false) {id : TaskId} {due : Int}
    (accepted : .accepted id due ∈ record) (kept : .cancelAnswered id true ∉ record) :
    (∃ time, .began id time ∈ record) ∧ .ended id ∈ record := by
  have start := Scheduler.sound_start (ω := ω) settings halted
  have sound := run.sound start
  have settles := run.settles
  have chronicle := run.chronicle start (.empty settings halted)
  have known := chronicle.known_of_accepted accepted
  cases shown : last.scheduler.roster.fate? id with
  | none => exact absurd shown known
  | some fate =>
      cases fate with
      | pending =>
          obtain ⟨entry, held, _⟩ := sound.stored.queued id shown
          rw [vacant] at held
          cases held
      | cancelled =>
          have abandoned := (settles.cancelled shown).resolve_left kept
          rw [run.halted_of_abandoned abandoned] at running
          cases running
      | fired =>
          obtain ⟨began, ended | busy⟩ := settles.fired shown
          · exact ⟨began, ended⟩
          · cases worker : last.scheduler.worker with
            | busy other work =>
                rw [worker] at free
                cases free
            | _ =>
                rw [worker] at busy
                cases busy

end Run

end Agenda
