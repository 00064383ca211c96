import Agenda.Proofs.Scheduler.Leaving
import Agenda.Proofs.Scheduler.Ordering

/-!
# The due time of a task that has begun

A worker that is in the middle of a task no longer says when the task was due.  The journal does: the
notice of the beginning tells the due time that the task was accepted with.
-/

namespace Agenda

universe u

variable {ω : Type u}

namespace Scheduler

variable {before middle after : Scheduler ω} {now : Int}

/-- What the journal notes to have begun from the first scheduler to the second was in the queue of
the first one, under the due time that the journal tells. -/
structure Notes (before after : Scheduler ω) : Prop where
  queued : ∀ {id due time}, .began id due time ∈ after.journal →
    .began id due time ∈ before.journal ∨ ∃ entry ∈ before.queue.toList, entry.id = id ∧ entry.due = due

namespace Notes

theorem of_eq (journal : after.journal = before.journal) : Notes before after := by
  constructor
  intro id due time shown
  rw [journal] at shown
  exact .inl shown

/-- A notice that tells of no beginning changes nothing. -/
theorem note {notice : Notice} (notes : Notes before after) (quiet : notice.begun? = none) :
    Notes before (after.note notice) := by
  constructor
  intro id due time shown
  rcases Array.mem_push.1 shown with old | own
  · exact notes.queued old
  · rw [← own] at quiet
    cases quiet

theorem signalDrained (notes : Notes before after) : Notes before after.signalDrained := by
  unfold Scheduler.signalDrained
  split
  · exact ⟨notes.queued⟩
  · exact notes

theorem of_subset (onward : Notes middle after) (notes : Notes before middle)
    (queue : middle.queue.toList ⊆ before.queue.toList) : Notes before after := by
  constructor
  intro id due time shown
  rcases onward.queued shown with old | ⟨entry, held, facts⟩
  · exact notes.queued old
  · exact .inr ⟨entry, queue held, facts⟩

end Notes

theorem Chooses.notes (chosen : Chooses now before after) : Notes before after := by
  induction chosen with
  | exit _ _ => exact .note (.of_eq rfl) rfl
  | idle _ _ => exact .of_eq rfl
  | sleep _ _ _ => exact .of_eq rfl
  | @begin scheduler head rest popped _ _ =>
      constructor
      intro id due time shown
      rcases Array.mem_push.1 shown with old | own
      · exact .inl old
      · cases own
        exact .inr ⟨head, Stored.head_mem popped, rfl, rfl⟩
  | @discard scheduler last head rest popped _ _ inductionHypothesis =>
      refine inductionHypothesis.of_subset (.signalDrained (.note (.of_eq rfl) rfl)) ?_
      rw [queue_discard]
      exact fun entry held => Stored.mem_of_pop? popped held

theorem notes_look (scheduler : Scheduler ω) (now : Int) : Notes scheduler (scheduler.look now) := by
  unfold look
  split
  · exact .note (.note (.of_eq rfl) rfl) rfl
  · exact (chooses_choose scheduler now).notes

theorem notes_submit? {due : Int} {work : ω} {id : TaskId}
    (accepted : before.submit? due work = some (id, after)) : Notes before after := by
  unfold submit? at accepted
  split at accepted <;> cases accepted
  unfold announce
  split
  · exact .of_eq rfl
  · split
    · exact .note (.of_eq rfl) rfl
    · exact .of_eq rfl

theorem Wakes.notes (wakes : Wakes before after) : Notes before after := by
  rcases wakes.journal with same | ⟨notice, waking, pushed⟩
  · exact .of_eq same
  · have noted : Notes before (before.note notice) := by
      rcases waking with rfl | rfl <;> exact .note (.of_eq rfl) rfl
    exact Notes.of_subset (.of_eq pushed) noted (List.Subset.refl _)

theorem Step.notes {occurred : List Occurrence} (step : before.Step now occurred after) :
    Notes before after := by
  cases step with
  | submit accepted => exact notes_submit? accepted
  | cancel id =>
      unfold Scheduler.cancel
      split
      · exact .note (.of_eq rfl) rfl
      · exact .of_eq rfl
  | disown id => exact .note (.of_eq rfl) rfl
  | stopInside _ =>
      unfold Scheduler.stopInside
      split
      · exact .of_eq rfl
      · exact .note (.of_eq rfl) rfl
  | close _ =>
      unfold Scheduler.close
      split
      · exact .of_eq rfl
      · exact .note (.of_eq rfl) rfl
  | look _ => exact notes_look before now
  | wake woke => exact (wakes_of_wake? woke).notes
  | fail message _ =>
      unfold Scheduler.fail
      dsimp only
      split
      · exact .note (.note (.of_eq rfl) rfl) rfl
      · exact .note (.of_eq rfl) rfl
  | finish _ => exact .signalDrained (.of_eq rfl)
  | _ => exact .of_eq rfl

structure Began (scheduler : Scheduler ω) (id : TaskId) (due time : Int) : Prop where
  shown : .began id due time ∈ scheduler.journal
  only : ∀ {other again}, .began id other again ∈ scheduler.journal → other = due ∧ again = time

theorem mem_begun_iff {scheduler : Scheduler ω} {id : TaskId} {time : Int} :
    (id, time) ∈ scheduler.begun ↔ ∃ due, .began id due time ∈ scheduler.journal := by
  rw [begun, List.mem_filterMap]
  constructor
  · rintro ⟨notice, listed, told⟩
    cases notice <;> cases told
    exact ⟨_, Array.mem_toList_iff.1 listed⟩
  · rintro ⟨due, shown⟩
    exact ⟨_, Array.mem_toList_iff.2 shown, rfl⟩

end Scheduler

namespace Run

variable {settings : Settings} {halted : Bool} {now : Int} {last : Moment ω}
  {record : List Occurrence} {id : TaskId} {due time : Int}

/-- A task that begins was accepted, and was due when the journal says. -/
theorem accepted_of_shown (run : Run ⟨now, Scheduler.start settings halted⟩ record last)
    (shown : .began id due time ∈ last.scheduler.journal) : .accepted id due ∈ record := by
  induction run generalizing due time with
  | rest => simp [Scheduler.start] at shown
  | @step record occurred middle after taken step inductionHypothesis =>
      refine List.mem_append_left _ ?_
      rcases step.notes.queued shown with old | ⟨entry, held, rfl, rfl⟩
      · exact inductionHypothesis old
      · exact (taken.chronicle (Scheduler.sound_start settings halted) (.empty ..)).noted entry held
  | pass _ _ inductionHypothesis => exact inductionHypothesis shown

/-- The journal shows the beginning of the task that runs, with the due time that the task was
accepted with. -/
theorem exists_began (run : Run ⟨now, Scheduler.start settings halted⟩ record last) {work : ω}
    (busy : last.scheduler.worker = .busy id work) (accepted : .accepted id due ∈ record) :
    ∃ time, due ≤ time ∧ time ≤ last.now ∧ last.scheduler.Began id due time := by
  have start := Scheduler.sound_start (ω := ω) settings halted
  have chronicle := run.chronicle start (.empty ..)
  obtain ⟨⟨time, began⟩, _⟩ := run.settles.fired ((run.sound start).busy busy)
  obtain ⟨earlier, given, reached⟩ := chronicle.timely began
  have told {other again : Int} (shown : .began id other again ∈ last.scheduler.journal) :
      other = due ∧ again = time := by
    refine ⟨chronicle.due_eq (run.accepted_of_shown shown) accepted, ?_⟩
    have listed : (id, again) ∈ last.scheduler.begun.filter fun shown => shown.1 = id :=
      List.mem_filter.2 ⟨Scheduler.mem_begun_iff.2 ⟨other, shown⟩, decide_eq_true rfl⟩
    rw [run.filter_begun began, List.mem_singleton] at listed
    exact congrArg Prod.snd listed
  have listed : (id, time) ∈ last.scheduler.begun := by
    refine List.mem_of_mem_filter (p := fun shown => shown.1 = id) ?_
    rw [run.filter_begun began]
    exact List.mem_singleton_self _
  obtain ⟨other, shown⟩ := Scheduler.mem_begun_iff.1 listed
  rw [chronicle.due_eq given accepted] at reached
  refine ⟨time, reached, run.began_le start began, ?_, told⟩
  rwa [← (told shown).1]

end Run

end Agenda
