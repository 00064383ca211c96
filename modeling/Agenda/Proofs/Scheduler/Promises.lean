import Agenda.Proofs.Scheduler.Fates
import Mathlib

/-!
# What a scheduler promises about its tasks

Whatever callers, tasks and the worker do to a scheduler, and in whatever order: a task runs at
most once, not before it is due, not beside another one, and not after a cancellation of it has
succeeded.  The record that this is said of is the one that the journal keeps.
-/

namespace Agenda

universe u

variable {ω : Type u}

def Notice.begun? : Notice → Option (TaskId × Int)
  | .began id _ now => some (id, now)
  | _ => none

def Occurrence.begun? : Occurrence → Option (TaskId × Int)
  | .began id now => some (id, now)
  | _ => none

namespace Scheduler

variable {before after : Scheduler ω} {now : Int}

def begun (scheduler : Scheduler ω) : List (TaskId × Int) :=
  scheduler.journal.toList.filterMap Notice.begun?

@[simp]
theorem begun_note (scheduler : Scheduler ω) (notice : Notice) :
    (scheduler.note notice).begun = scheduler.begun ++ notice.begun?.toList := by
  cases seen : notice.begun? <;> simp [begun, note, seen]

@[simp]
theorem begun_signalDrained (scheduler : Scheduler ω) :
    scheduler.signalDrained.begun = scheduler.begun := by
  unfold signalDrained
  split <;> rfl

theorem begun_of_note {notice : Notice} (quiet : notice.begun? = none)
    (journal : before.begun = after.begun) : (before.note notice).begun = after.begun := by
  rw [begun_note, quiet, journal]
  exact List.append_nil _

theorem Chooses.begun (chosen : Chooses now before after) :
    after.begun = before.begun ++
      (match after.worker with
        | .busy id _ => [(id, now)]
        | _ => []) := by
  induction chosen with
  | exit vacant stopped => exact begun_note _ _
  | idle vacant stopped => exact (List.append_nil _).symm
  | sleep popped pending early => exact (List.append_nil _).symm
  | begin popped pending due => exact begun_note _ _
  | discard popped resolved _ inductionHypothesis =>
      rw [inductionHypothesis, Scheduler.discard, begun_signalDrained]
      congr 1
      exact begun_of_note rfl rfl

theorem begun_look (scheduler : Scheduler ω) (now : Int) :
    (scheduler.look now).begun
      = scheduler.begun ++ (scheduler.outlook now).filterMap Occurrence.begun? := by
  unfold look outlook
  split
  · rw [abandon]
    have none (ids : List TaskId) : (ids.map .abandoned).filterMap Occurrence.begun? = [] := by
      rw [List.filterMap_map]
      exact List.filterMap_eq_nil_iff.2 fun _ _ => rfl
    rw [none, List.append_nil]
    exact begun_of_note rfl (begun_of_note rfl rfl)
  · rw [(chooses_choose scheduler now).begun]
    cases (scheduler.choose now).worker <;> rfl

theorem Wakes.begun (wakes : Wakes before after) : after.begun = before.begun := by
  unfold Scheduler.begun
  rcases wakes.journal with same | ⟨_, rfl | rfl, pushed⟩
  · rw [same]
  all_goals
    rw [pushed, Array.toList_push, List.filterMap_append]
    exact List.append_nil _

theorem begun_submit? {due : Int} {work : ω} {id : TaskId}
    (accepted : before.submit? due work = some (id, after)) : after.begun = before.begun := by
  unfold submit? at accepted
  split at accepted <;> cases accepted
  unfold announce
  split
  · rfl
  · split
    · exact begun_of_note rfl rfl
    · rfl

theorem Step.begun {occurred : List Occurrence} (step : before.Step now occurred after) :
    after.begun = before.begun ++ occurred.filterMap Occurrence.begun? := by
  have quiet (same : after.begun = before.begun) : after.begun = before.begun ++ [] := by
    rw [same, List.append_nil]
  cases step with
  | submit accepted => exact quiet (begun_submit? accepted)
  | cancel id =>
      apply quiet
      unfold Scheduler.cancel
      split
      · exact begun_of_note rfl rfl
      · rfl
  | disown id => exact quiet (begun_of_note rfl rfl)
  | halt => exact quiet rfl
  | stopInside _ =>
      apply quiet
      unfold Scheduler.stopInside
      split
      · rfl
      · exact begun_of_note rfl rfl
  | close _ =>
      apply quiet
      unfold Scheduler.close
      split
      · rfl
      · exact begun_of_note rfl rfl
  | join => exact quiet rfl
  | look _ => exact begun_look before now
  | wake woke => exact quiet (wakes_of_wake? woke).begun
  | proceed rest _ => exact quiet rfl
  | fail message _ =>
      apply quiet
      unfold Scheduler.fail
      dsimp only
      split
      · exact begun_of_note rfl (begun_of_note rfl rfl)
      · exact begun_of_note rfl rfl
  | finish _ => exact quiet (begun_signalDrained _)

end Scheduler

theorem Run.begun {first last : Moment ω} {record : List Occurrence} (run : Run first record last) :
    last.scheduler.begun
      = first.scheduler.begun ++ record.filterMap Occurrence.begun? := by
  induction run with
  | rest => exact (List.append_nil _).symm
  | step _ step inductionHypothesis =>
      rw [step.begun, inductionHypothesis, List.filterMap_append, List.append_assoc]
  | pass _ _ inductionHypothesis => exact inductionHypothesis

theorem eq_of_countP_le_one {α : Type u} {kind : α → Bool} {list : List α}
    (single : list.countP kind ≤ 1) {first second : α} (one : first ∈ list) (other : second ∈ list)
    (firstKind : kind first = true) (secondKind : kind second = true) : first = second := by
  rw [List.countP_eq_length_filter] at single
  have one := List.mem_filter.2 ⟨one, firstKind⟩
  have other := List.mem_filter.2 ⟨other, secondKind⟩
  match list.filter kind, single, one, other with
  | [only], _, one, other => exact (List.mem_singleton.1 one).trans (List.mem_singleton.1 other).symm

/-- What is promised of a scheduler that has the record `record` at one moment, and the record
`record ++ further` at a later one. -/
structure Orderly (record further : List Occurrence) (middle last : Moment ω) : Prop where
  /-- What the record says of the beginnings is what the journal shows. -/
  shown : last.scheduler.begun = (record ++ further).filterMap Occurrence.begun?
  /-- A task begins, or is cancelled by one call, or is abandoned, and no two of these happen. -/
  once : ∀ id, (record ++ further).countP (Occurrence.decides id) ≤ 1
  /-- A task begins at its due time or later. -/
  timely : ∀ {id now}, .began id now ∈ record ++ further →
    ∃ due ≤ now, ∀ other, .accepted id other ∈ record ++ further ↔ other = due
  /-- A task begins and ends before another one begins. -/
  alone : ((record ++ further).foldlM Occurrence.follow? none).isSome = true
  /-- The fate that is shown is the one that follows from the record. -/
  fates : ∀ id, last.scheduler.roster.fate? id = recordedFate (record ++ further) id
  /-- A fate other than the pending one stays. -/
  lasting : ∀ {id fate}, middle.scheduler.roster.fate? id = some fate →
    ∃ later, last.scheduler.roster.fate? id = some later ∧ (fate = .pending ∨ later = fate)
  /-- In whatever step a task begins, it was pending. -/
  fromPending : ∀ {id now occurred after}, last.scheduler.Step last.now occurred after →
    .began id now ∈ occurred →
      last.scheduler.roster.fate? id = some .pending ∧ after.roster.fate? id = some .fired ∧
        now = last.now
  /-- A task that was cancelled does not begin. -/
  cancelled : ∀ {id}, .cancelAnswered id true ∈ record ++ further →
    ∀ now, .began id now ∉ record ++ further
  /-- A task that has begun is not cancelled any more, whether or not it has ended. -/
  begun : ∀ {id now}, .began id now ∈ record →
    (middle.scheduler.cancel id).1 = false ∧ (last.scheduler.cancel id).1 = false ∧
      .cancelAnswered id true ∉ further

namespace Chronicle

variable {record : List Occurrence} {scheduler : Scheduler ω}

theorem once (chronicle : Chronicle record scheduler) (id : TaskId) :
    record.countP (Occurrence.decides id) ≤ 1 := by
  rw [chronicle.decided]
  cases scheduler.roster.fate? id with
  | none => exact Nat.zero_le _
  | some fate => cases fate <;> simp [decisions]

theorem acceptedOnce (chronicle : Chronicle record scheduler) (id : TaskId) :
    record.countP (Occurrence.accepts id) ≤ 1 := by
  rw [chronicle.accepted]
  cases scheduler.roster.fate? id <;> simp [acceptances]

theorem not_began_of_cancelled (chronicle : Chronicle record scheduler) {id : TaskId}
    (cancelled : .cancelAnswered id true ∈ record) (now : Int) : .began id now ∉ record := by
  intro began
  have same := eq_of_countP_le_one (chronicle.once id) cancelled began
    (by simp [Occurrence.decides]) (by simp [Occurrence.decides])
  cases same

/-- A task that has begun turns a cancellation down. -/
theorem cancel_of_began (chronicle : Chronicle record scheduler) {id : TaskId} {now : Int}
    (began : .began id now ∈ record) : (scheduler.cancel id).1 = false := by
  have fired := chronicle.begun began
  have refused : ¬ scheduler.roster.isPending id = true := by
    rw [Roster.isPending_iff, fired]
    nofun
  rw [Scheduler.cancel, if_neg refused]

theorem known {further : List Occurrence} {later : Scheduler ω}
    (before : Chronicle record scheduler) (after : Chronicle (record ++ further) later)
    {id : TaskId} {fate : Fate} (known : scheduler.roster.fate? id = some fate) :
    ∃ final, later.roster.fate? id = some final := by
  cases seen : later.roster.fate? id with
  | some final => exact ⟨final, rfl⟩
  | none =>
      have accepted := before.accepted id
      have none := after.accepted id
      rw [known] at accepted
      rw [seen, List.countP_append] at none
      simp only [acceptances] at accepted none
      omega

end Chronicle

namespace Run

variable {settings : Settings} {halted : Bool} {now : Int} {middle last : Moment ω}
  {record further : List Occurrence}

/-- In every run of a scheduler, whatever callers, tasks and the worker do to it and in whatever
order, each task has one fate, and none begins early or beside another. -/
theorem orderly (run : Run ⟨now, Scheduler.start settings halted⟩ record middle)
    (onward : Run middle further last) : Orderly record further middle last := by
  have start := Scheduler.sound_start (ω := ω) settings halted
  have sound := run.sound start
  have earlier : Chronicle record middle.scheduler := run.chronicle start (.empty settings halted)
  have later : Chronicle (record ++ further) last.scheduler := onward.chronicle sound earlier
  constructor
  · rw [(run.trans onward).begun]
    rfl
  · exact later.once
  · intro id time began
    obtain ⟨due, accepted, reached⟩ := later.timely began
    refine ⟨due, reached, fun other => ⟨fun again => ?_, fun same => same ▸ accepted⟩⟩
    have same := eq_of_countP_le_one (later.acceptedOnce id) again accepted
      (by simp [Occurrence.accepts]) (by simp [Occurrence.accepts])
    cases same
    rfl
  · rw [later.alone]
    rfl
  · exact later.fates
  · intro id fate found
    obtain ⟨final, seen⟩ := earlier.known later found
    refine ⟨final, seen, ?_⟩
    rcases onward.lasting sound found with pending | kept
    · exact .inl pending
    · rw [seen] at kept
      cases kept
      exact .inr rfl
  · intro id time occurred after step began
    exact (step.effect (onward.sound sound)).pending_of_began began
  · exact fun cancelled time => later.not_began_of_cancelled cancelled time
  · intro id time began
    have still : .began id time ∈ record ++ further := List.mem_append_left _ began
    refine ⟨earlier.cancel_of_began began, later.cancel_of_began still, ?_⟩
    intro cancelled
    exact later.not_began_of_cancelled (List.mem_append_right _ cancelled) time still

theorem orderly_of_two_tasks :
    ∃ middle last : Moment Unit,
      Run ⟨0, Scheduler.start {} false⟩
          [.accepted ⟨1⟩ 5, .accepted ⟨2⟩ 7, .cancelAnswered ⟨2⟩ true, .began ⟨1⟩ 6] middle ∧
        Run middle [.cancelAnswered ⟨1⟩ false, .ended ⟨1⟩] last ∧
        Orderly [.accepted ⟨1⟩ 5, .accepted ⟨2⟩ 7, .cancelAnswered ⟨2⟩ true, .began ⟨1⟩ 6]
          [.cancelAnswered ⟨1⟩ false, .ended ⟨1⟩] middle last := by
  obtain ⟨up, started⟩ : ∃ up : Scheduler Unit, (Scheduler.start {} false).wake? 0 = some up :=
    ⟨_, rfl⟩
  obtain ⟨one, two, first, second, answer, looking, begins, busy, refused⟩ :
      ∃ one two : Scheduler Unit, up.submit? 5 () = some (⟨1⟩, one) ∧
        one.submit? 7 () = some (⟨2⟩, two) ∧
        (two.cancel ⟨2⟩).1 = true ∧ (two.cancel ⟨2⟩).2.worker = .looking ∧
        (two.cancel ⟨2⟩).2.outlook 6 = [.began ⟨1⟩ 6] ∧
        (((two.cancel ⟨2⟩).2.look 6).cancel ⟨1⟩).2.worker = .busy ⟨1⟩ () ∧
        (((two.cancel ⟨2⟩).2.look 6).cancel ⟨1⟩).1 = false := by
    refine ⟨(up.accept 5 ()).announce ⟨1⟩, (((up.accept 5 ()).announce ⟨1⟩).accept 7 ()).announce ⟨2⟩,
      ?_, ?_, ?_, ?_, ?_, ?_, ?_⟩ <;> cases started <;> cbv
  have later : (0 : Int) ≤ 6 := by decide
  have run : Run ⟨0, Scheduler.start {} false⟩
      [.accepted ⟨1⟩ 5, .accepted ⟨2⟩ 7, .cancelAnswered ⟨2⟩ true, .began ⟨1⟩ 6]
      ⟨6, (two.cancel ⟨2⟩).2.look 6⟩ := by
    have accepted : Run ⟨0, Scheduler.start {} false⟩ [.accepted ⟨1⟩ 5, .accepted ⟨2⟩ 7] ⟨0, two⟩ :=
      ((Run.single (.wake started)).step (.submit first)).step (.submit second)
    have cancelled := (accepted.pass later).step (.cancel two ⟨2⟩)
    rw [answer] at cancelled
    have began := cancelled.step (.look looking)
    dsimp only at began
    rw [begins] at began
    exact began
  have onward : Run ⟨6, (two.cancel ⟨2⟩).2.look 6⟩ [.cancelAnswered ⟨1⟩ false, .ended ⟨1⟩]
      ⟨6, (((two.cancel ⟨2⟩).2.look 6).cancel ⟨1⟩).2.finish⟩ := by
    rw [← refused]
    exact (Run.single (.cancel _ ⟨1⟩)).step (.finish busy)
  exact ⟨_, _, run, onward, orderly run onward⟩

end Run

end Agenda
