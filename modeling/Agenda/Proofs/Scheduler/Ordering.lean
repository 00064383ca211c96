import Agenda.Proofs.Scheduler.Promises

/-!
# The order in which tasks begin

The head that a worker takes need not be the one that it slept on: tasks are submitted while it
sleeps or runs, and cancelled heads are discarded.  What counts is the queue at the moment of the
taking.  Nothing that is left then is due earlier, and nothing that was taken comes back, so any two
tasks that are queued together begin in the order of their due times.
-/

namespace Agenda

universe u

variable {ω : Type u}

namespace Scheduler

variable {before after : Scheduler ω} {now : Int}

/-- The worker has taken `head` off the queue to run it, and nothing left is due earlier. -/
structure Takes (head : Entry ω) (before after : Scheduler ω) : Prop where
  held : head ∈ before.queue.toList
  running : after.worker = .busy head.id head.work
  least : ∀ entry ∈ after.queue.toList, entry.id ≠ head.id ∧ head.due ≤ entry.due

theorem Chooses.takes (chosen : Chooses now before after)
    (stored : Stored before.queue before.roster) (looking : before.worker = .looking)
    {id : TaskId} {work : ω} (busy : after.worker = .busy id work) :
    ∃ head, head.id = id ∧ Takes head before after := by
  induction chosen with
  | exit _ _ => cases busy
  | idle _ _ => cases busy
  | sleep _ _ _ => cases busy
  | @begin scheduler head rest popped pending due =>
      cases busy
      refine ⟨head, rfl, Stored.head_mem popped, rfl, fun entry left => ?_⟩
      have queued := Stored.mem_of_pop? popped left
      exact ⟨(stored.tail popped).2.2 entry left, stored.head_due_le popped queued⟩
  | discard popped resolved _ inductionHypothesis =>
      have rest := stored.discard popped resolved
      obtain ⟨head, same, takes⟩ :=
        inductionHypothesis (by simpa using rest) (by simpa using looking) busy
      have held := takes.held
      rw [queue_discard] at held
      exact ⟨head, same, Stored.mem_of_pop? popped held, takes.running, takes.least⟩

/-- A step in which a task begins does nothing else. -/
theorem Step.takes {occurred : List Occurrence} (step : before.Step now occurred after)
    (sound : before.Sound) {id : TaskId} {time : Int} (began : .began id time ∈ occurred) :
    occurred = [.began id time] ∧ ∃ head, head.id = id ∧ Takes head before after := by
  cases step with
  | look looking =>
      unfold outlook at began ⊢
      unfold Scheduler.look
      split at began
      · simp at began
      · rename_i running
        rw [if_neg running, if_neg running]
        split at began
        · rename_i busy
          obtain ⟨rfl, rfl⟩ : id = _ ∧ time = now := by simpa using began
          exact ⟨rfl, (chooses_choose before _).takes sound.stored looking busy⟩
        · cases began
  | _ => simp at began

end Scheduler

theorem begun?_eq_nil {record : List Occurrence} (none : ∀ {id time}, .began id time ∉ record) :
    record.filterMap Occurrence.begun? = [] := by
  refine List.filterMap_eq_nil_iff.2 fun occurrence listed => ?_
  cases occurrence with
  | began id time => exact absurd listed none
  | _ => rfl

def BeginsBefore (record : List Occurrence) (first second : TaskId) : Prop :=
  ∃ early between late one other,
    record = early ++ .began first one :: (between ++ .began second other :: late)

/-- What is promised of the order in which tasks begin, to a scheduler that has the record `record`
at one moment, and the record `record ++ further` at a later one. -/
structure InOrder (record further : List Occurrence) (middle last : Moment ω) : Prop where
  /-- Whenever the worker takes a task off the queue, no entry is left that is due earlier, be its
  task cancelled or not. -/
  least : ∀ {id time occurred after}, last.scheduler.Step last.now occurred after →
    .began id time ∈ occurred → ∃ head, head.id = id ∧ last.scheduler.Takes head after
  /-- Of two tasks that are queued together, the one that is due earlier begins earlier. -/
  together : ∀ {first second}, first ∈ middle.scheduler.queue.toList →
    second ∈ middle.scheduler.queue.toList → first.due < second.due →
      ∀ {one other}, .began first.id one ∈ record ++ further →
        .began second.id other ∈ record ++ further →
          BeginsBefore (record ++ further) first.id second.id
  /-- If nothing is accepted after the first beginning, the tasks begin in the order of the due
  times that they were accepted with. -/
  sorted : (∀ {id time}, .began id time ∉ record) → (∀ {id due}, .accepted id due ∉ further) →
    ∃ dues : List Int, dues.Pairwise (· ≤ ·) ∧
      List.Forall₂ (fun start due => .accepted start.1 due ∈ record)
        ((record ++ further).filterMap Occurrence.begun?) dues

namespace Run

variable {first last : Moment ω} {record : List Occurrence}

theorem noted (run : Run first record last) (sound : first.scheduler.Sound) {entry : Entry ω}
    (held : entry ∈ last.scheduler.queue.toList) :
    entry ∈ first.scheduler.queue.toList ∨ .accepted entry.id entry.due ∈ record := by
  induction run with
  | rest => exact .inl held
  | step taken step inductionHypothesis =>
      rcases (step.effect (taken.sound sound)).explains.noted entry held with old | new
      · exact (inductionHypothesis old).imp_right (List.mem_append_left _)
      · exact .inr (List.mem_append_right _ new)
  | pass _ _ inductionHypothesis => exact inductionHypothesis held

/-- The step in which a task began, between the run up to it and the run after it. -/
theorem split_of_began (run : Run first record last) (sound : first.scheduler.Sound) {id : TaskId}
    {time : Int} (began : .began id time ∈ record) :
    ∃ early late middle after, record = early ++ .began id time :: late ∧
      Run first early middle ∧ middle.scheduler.Step middle.now [.began id time] after ∧
      Run ⟨middle.now, after⟩ late last := by
  induction run with
  | rest => cases began
  | @step record occurred reached after taken step inductionHypothesis =>
      rcases List.mem_append.1 began with earlier | now
      · obtain ⟨early, late, middle, past, rfl, before, begins, onward⟩ :=
          inductionHypothesis earlier
        exact ⟨early, late ++ occurred, middle, past, by simp, before, begins, onward.step step⟩
      · obtain ⟨rfl, _⟩ := step.takes (taken.sound sound) now
        exact ⟨record, [], reached, after, rfl, taken, step, .rest⟩
  | pass _ order inductionHypothesis =>
      obtain ⟨early, late, middle, past, shape, before, begins, onward⟩ :=
        inductionHypothesis began
      exact ⟨early, late, middle, past, shape, before, begins, onward.pass order⟩

end Run

namespace Chronicle

variable {record : List Occurrence} {scheduler : Scheduler ω}

theorem due_eq (chronicle : Chronicle record scheduler) {id : TaskId} {due other : Int}
    (one : .accepted id due ∈ record) (again : .accepted id other ∈ record) : due = other := by
  have same := eq_of_countP_le_one (chronicle.acceptedOnce id) one again
    (by simp [Occurrence.accepts]) (by simp [Occurrence.accepts])
  cases same
  rfl

theorem not_accepted_again {earlier : List Occurrence}
    (chronicle : Chronicle (earlier ++ record) scheduler) {id : TaskId} {due other : Int}
    (accepted : .accepted id due ∈ earlier) : .accepted id other ∉ record := by
  intro again
  have once := chronicle.acceptedOnce id
  rw [List.countP_append] at once
  have before : 0 < earlier.countP (Occurrence.accepts id) :=
    List.countP_pos_iff.2 ⟨_, accepted, by simp [Occurrence.accepts]⟩
  have after : 0 < record.countP (Occurrence.accepts id) :=
    List.countP_pos_iff.2 ⟨_, again, by simp [Occurrence.accepts]⟩
  omega

end Chronicle

namespace Run

variable {settings : Settings} {halted : Bool} {now : Int} {middle last : Moment ω}
  {record further : List Occurrence}

theorem due_of_takes (run : Run middle further last) (sound : middle.scheduler.Sound)
    (start : Chronicle record middle.scheduler) {head : Entry ω} {after : Scheduler ω}
    (takes : last.scheduler.Takes head after) {due : Int}
    (accepted : .accepted head.id due ∈ record) : head.due = due := by
  have chronicle := run.chronicle sound start
  exact chronicle.due_eq (chronicle.noted head takes.held) (List.mem_append_left _ accepted)

/-- Two tasks that are queued together begin in the order of their due times. -/
theorem beginsBefore (run : Run middle further last) (sound : middle.scheduler.Sound)
    (start : Chronicle record middle.scheduler) {first second : Entry ω}
    (one : first ∈ middle.scheduler.queue.toList) (other : second ∈ middle.scheduler.queue.toList)
    (order : first.due < second.due) {time later : Int} (began : .began first.id time ∈ further)
    (followed : .began second.id later ∈ further) : BeginsBefore further first.id second.id := by
  obtain ⟨early, late, reached, after, rfl, before, begins, onward⟩ :=
    run.split_of_began sound followed
  have firstNoted := start.noted first one
  have secondNoted := start.noted second other
  obtain ⟨_, head, same, takes⟩ := begins.takes (before.sound sound) (List.mem_singleton_self _)
  have due : head.due = second.due := before.due_of_takes sound start takes (same ▸ secondNoted)
  have apart : first.id ≠ second.id := by
    intro alike
    rw [alike] at firstNoted
    have := start.due_eq firstNoted secondNoted
    omega
  rcases List.mem_append.1 began with earlier | afterwards
  · obtain ⟨start, between, shape⟩ := List.mem_iff_append.1 earlier
    exact ⟨start, between, late, time, later, by rw [shape, List.append_assoc, List.cons_append]⟩
  · exfalso
    have afterwards : .began first.id time ∈ late := by
      rcases List.mem_cons.1 afterwards with now | afterwards
      · exact absurd (Occurrence.began.inj now).1 apart
      · exact afterwards
    have past := before.step begins
    have pastSound := past.sound sound
    obtain ⟨between, rest, point, final, rfl, onward, begins, _⟩ :=
      onward.split_of_began pastSound afterwards
    obtain ⟨_, left, alike, leaves⟩ :=
      begins.takes (onward.sound pastSound) (List.mem_singleton_self _)
    have leftDue : left.due = first.due :=
      (past.trans onward).due_of_takes sound start leaves (alike ▸ firstNoted)
    rcases onward.noted pastSound leaves.held with kept | again
    · have least := (takes.least left kept).2
      omega
    · rw [alike] at again
      have chronicle := (past.trans onward).chronicle sound start
      exact chronicle.not_accepted_again firstNoted (List.mem_append_right _ again)

/-- While nothing is accepted, the tasks begin in the order of their due times, and what is left is
due no earlier than what has begun. -/
theorem sorted (run : Run middle further last) (sound : middle.scheduler.Sound)
    (start : Chronicle record middle.scheduler) (closed : ∀ {id due}, .accepted id due ∉ further) :
    ∃ dues : List Int, dues.Pairwise (· ≤ ·) ∧
      List.Forall₂ (fun start due => .accepted start.1 due ∈ record)
        (further.filterMap Occurrence.begun?) dues ∧
      ∀ entry ∈ last.scheduler.queue.toList, ∀ due ∈ dues, due ≤ entry.due := by
  induction run with
  | rest => exact ⟨[], .nil, .nil, nofun⟩
  | pass _ _ inductionHypothesis => exact inductionHypothesis closed
  | @step further occurred last after taken step inductionHypothesis =>
      obtain ⟨dues, ordered, fits, below⟩ :=
        inductionHypothesis fun accepted => closed (List.mem_append_left _ accepted)
      have lastSound := taken.sound sound
      have left : ∀ entry ∈ after.queue.toList, entry ∈ last.scheduler.queue.toList := by
        intro entry held
        rcases (step.effect lastSound).explains.noted entry held with old | new
        · exact old
        · exact absurd (List.mem_append_right _ new) closed
      rw [List.filterMap_append]
      by_cases begins : ∃ id time, .began id time ∈ occurred
      · obtain ⟨id, time, began⟩ := begins
        obtain ⟨rfl, head, rfl, takes⟩ := step.takes lastSound began
        have accepted : .accepted head.id head.due ∈ record :=
          (List.mem_append.1 ((taken.chronicle sound start).noted head takes.held)).resolve_right
            fun again => closed (List.mem_append_left _ again)
        refine ⟨dues ++ [head.due], ?_, ?_, ?_⟩
        · rw [List.pairwise_append]
          refine ⟨ordered, List.pairwise_singleton .., fun due listed other only => ?_⟩
          rw [List.mem_singleton.1 only]
          exact below head takes.held due listed
        · exact List.rel_append fits (.cons accepted .nil)
        · intro entry held due listed
          rcases List.mem_append.1 listed with earlier | only
          · exact below entry (left entry held) due earlier
          · rw [List.mem_singleton.1 only]
            exact (takes.least entry held).2
      · rw [begun?_eq_nil fun began => begins ⟨_, _, began⟩, List.append_nil]
        exact ⟨dues, ordered, fits, fun entry held => below entry (left entry held)⟩

/-- In every run of a scheduler, whatever is submitted, cancelled or stopped in between and by
whomever, the tasks begin in the order of their due times. -/
theorem inOrder (run : Run ⟨now, Scheduler.start settings halted⟩ record middle)
    (onward : Run middle further last) : InOrder record further middle last := by
  have start := Scheduler.sound_start (ω := ω) settings halted
  have sound := run.sound start
  have chronicle : Chronicle record middle.scheduler := run.chronicle start (.empty settings halted)
  constructor
  · intro id time occurred after step began
    exact (step.takes (onward.sound sound) began).2
  · intro first second one other order time later began followed
    have waits {entry : Entry ω} (held : entry ∈ middle.scheduler.queue.toList) {moment : Int}
        (began : .began entry.id moment ∈ record ++ further) : .began entry.id moment ∈ further := by
      refine (List.mem_append.1 began).resolve_left fun earlier => ?_
      have fired := chronicle.begun earlier
      rcases sound.stored.waiting entry held with pending | cancelled
      · rw [fired] at pending
        cases pending
      · rw [fired] at cancelled
        cases cancelled
    obtain ⟨early, between, late, earlier, last, shape⟩ :=
      onward.beginsBefore sound chronicle one other order (waits one began) (waits other followed)
    exact ⟨record ++ early, between, late, earlier, last, by rw [shape, List.append_assoc]⟩
  · intro fresh closed
    obtain ⟨dues, ordered, fits, _⟩ := onward.sorted sound chronicle closed
    refine ⟨dues, ordered, ?_⟩
    rw [List.filterMap_append, begun?_eq_nil fresh, List.nil_append]
    exact fits

/-- The second task goes ahead of the first one, which was submitted earlier. -/
theorem inOrder_of_overtaking :
    ∃ middle last : Moment Unit,
      Run ⟨0, Scheduler.start {} false⟩ [.accepted ⟨1⟩ 9, .accepted ⟨2⟩ 5] middle ∧
        Run middle [.began ⟨2⟩ 9, .ended ⟨2⟩, .began ⟨1⟩ 9] last ∧
        InOrder [.accepted ⟨1⟩ 9, .accepted ⟨2⟩ 5] [.began ⟨2⟩ 9, .ended ⟨2⟩, .began ⟨1⟩ 9]
          middle last := by
  obtain ⟨up, started⟩ : ∃ up : Scheduler Unit, (Scheduler.start {} false).wake? 0 = some up :=
    ⟨_, rfl⟩
  obtain ⟨one, two, first, second, looking, begins, busy, again, rest⟩ :
      ∃ one two : Scheduler Unit, up.submit? 9 () = some (⟨1⟩, one) ∧
        one.submit? 5 () = some (⟨2⟩, two) ∧ two.worker = .looking ∧
        two.outlook 9 = [.began ⟨2⟩ 9] ∧ (two.look 9).worker = .busy ⟨2⟩ () ∧
        (two.look 9).finish.worker = .looking ∧
        (two.look 9).finish.outlook 9 = [.began ⟨1⟩ 9] := by
    refine ⟨(up.accept 9 ()).announce ⟨1⟩, (((up.accept 9 ()).announce ⟨1⟩).accept 5 ()).announce ⟨2⟩,
      ?_, ?_, ?_, ?_, ?_, ?_, ?_⟩ <;> cases started <;> cbv
  have later : (0 : Int) ≤ 9 := by decide
  have run : Run ⟨0, Scheduler.start {} false⟩ [.accepted ⟨1⟩ 9, .accepted ⟨2⟩ 5] ⟨9, two⟩ :=
    (((Run.single (.wake started)).step (.submit first)).step (.submit second)).pass later
  have onward : Run ⟨9, two⟩ [.began ⟨2⟩ 9, .ended ⟨2⟩, .began ⟨1⟩ 9]
      ⟨9, (two.look 9).finish.look 9⟩ := by
    have began : Run ⟨9, two⟩ (two.outlook 9) ⟨9, two.look 9⟩ := Run.single (.look looking)
    rw [begins] at began
    have ended := (began.step (.finish busy)).step (.look again)
    dsimp only at ended
    rw [rest] at ended
    exact ended
  exact ⟨_, _, run, onward, inOrder run onward⟩

end Run

end Agenda
