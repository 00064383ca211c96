import Agenda.Proofs.Scheduler.Effect

/-!
# One fate for each task

A task begins to run, or a cancellation of it succeeds, or the stop signal ends it while it is
pending: at most one of these happens in a run, and it happens at most once.  The roster always
shows what the record of the run says.
-/

namespace Agenda

universe u

variable {ω : Type u}

namespace Occurrence

def decides (id : TaskId) : Occurrence → Bool
  | .began other _ => other = id
  | .cancelAnswered other answer => answer && decide (other = id)
  | .abandoned other => other = id
  | _ => false

def accepts (id : TaskId) : Occurrence → Bool
  | .accepted other _ => other = id
  | _ => false

def fateAfter (id : TaskId) (fate : Option Fate) : Occurrence → Option Fate
  | .accepted other _ => if other = id then some .pending else fate
  | .began other _ => if other = id then some .fired else fate
  | .cancelAnswered other true => if other = id then some .cancelled else fate
  | .abandoned other => if other = id then some .cancelled else fate
  | _ => fate

/-- The running task after an occurrence, given the one before.  No task begins while another
runs, and only the running task ends. -/
def follow? : Option TaskId → Occurrence → Option (Option TaskId)
  | none, .began id _ => some (some id)
  | some _, .began _ _ => none
  | none, .ended _ => none
  | some running, .ended id => if running = id then some none else none
  | running, _ => some running

end Occurrence

def recordedFate (record : List Occurrence) (id : TaskId) : Option Fate :=
  record.foldl (Occurrence.fateAfter id) none

theorem recordedFate_append (record further : List Occurrence) (id : TaskId) :
    recordedFate (record ++ further) id
      = further.foldl (Occurrence.fateAfter id) (recordedFate record id) :=
  List.foldl_append

/-- How often a task with this fate has been given one. -/
def decisions : Option Fate → Nat
  | some .fired => 1
  | some .cancelled => 1
  | _ => 0

def acceptances : Option Fate → Nat
  | none => 0
  | some _ => 1

structure Explains (before after : Scheduler ω) (occurred : List Occurrence) : Prop where
  fates : ∀ id, after.roster.fate? id
    = occurred.foldl (Occurrence.fateAfter id) (before.roster.fate? id)
  lasting : ∀ {id fate}, before.roster.fate? id = some fate →
    fate = .pending ∨ after.roster.fate? id = some fate
  begun : ∀ {id now}, .began id now ∈ occurred → after.roster.fate? id = some .fired
  decided : ∀ id, occurred.countP (Occurrence.decides id) + decisions (before.roster.fate? id)
    = decisions (after.roster.fate? id)
  accepted : ∀ id, occurred.countP (Occurrence.accepts id) + acceptances (before.roster.fate? id)
    = acceptances (after.roster.fate? id)
  timely : ∀ {id now}, .began id now ∈ occurred →
    ∃ entry ∈ before.queue.toList, entry.id = id ∧ entry.due ≤ now
  noted : ∀ entry ∈ after.queue.toList,
    entry ∈ before.queue.toList ∨ .accepted entry.id entry.due ∈ occurred
  alone : occurred.foldlM Occurrence.follow? before.worker.task? = some after.worker.task?

namespace Scheduler

variable {before after : Scheduler ω} {now : Int}

theorem explains_quiet (roster : after.roster = before.roster)
    (task : after.worker.task? = before.worker.task?)
    (queue : after.queue.toList ⊆ before.queue.toList) : Explains before after [] where
  fates id := by rw [roster]; rfl
  lasting known := by rw [roster]; exact .inr known
  begun := nofun
  decided id := by rw [roster]; exact Nat.zero_add _
  accepted id := by rw [roster]; exact Nat.zero_add _
  timely := nofun
  noted entry held := .inl (queue held)
  alone := by rw [task]; rfl

theorem explains_accepted {due : Int} {work : ω} (roster : after.roster = before.roster.accept)
    (task : after.worker.task? = before.worker.task?)
    (queue : after.queue.toList ⊆ ⟨due, before.roster.nextId, work⟩ :: before.queue.toList) :
    Explains before after [.accepted before.roster.nextId due] := by
  have fates (id : TaskId) : after.roster.fate? id =
      if id = before.roster.nextId then some .pending else before.roster.fate? id := by
    rw [roster, Roster.fate?_accept]
  have absent := before.roster.fate?_nextId
  constructor
  · intro id
    simp [fates, Occurrence.fateAfter, eq_comm]
  · intro id fate known
    right
    rw [fates, if_neg (Roster.ne_nextId_of_some known), known]
  · intro id now began
    simp at began
  · intro id
    by_cases new : id = before.roster.nextId
    · subst new
      simp [fates, absent, decisions, Occurrence.decides]
    · simp [fates, new, Occurrence.decides]
  · intro id
    by_cases new : id = before.roster.nextId
    · subst new
      simp [fates, absent, acceptances, Occurrence.accepts]
    · simp [fates, new, Occurrence.accepts, Ne.symm new]
  · intro id now began
    simp at began
  · intro entry held
    rcases List.mem_cons.1 (queue held) with new | old
    · right
      simp [new]
    · exact .inl old
  · rw [task]
    cases before.worker.task? <;> rfl

/-- Some pending tasks have got a fate for good, and all others keep theirs. -/
structure Resolves (ids : List TaskId) (fate : Fate) (before after : Scheduler ω) : Prop where
  distinct : ids.Nodup
  pending : ∀ {id}, id ∈ ids → before.roster.fate? id = some .pending
  fates : ∀ id, after.roster.fate? id = if id ∈ ids then some fate else before.roster.fate? id
  final : fate ≠ .pending

namespace Resolves

variable {ids : List TaskId} {fate : Fate}

theorem single {id : TaskId} (pending : before.roster.fate? id = some .pending)
    (final : fate ≠ .pending) (roster : after.roster = before.roster.resolve id fate) :
    Resolves [id] fate before after where
  distinct := List.pairwise_singleton _ id
  pending listed := by rw [List.mem_singleton.1 listed, pending]
  fates other := by
    rw [roster, Roster.fate?_resolve]
    simp [pending]
  final := final

theorem lasting (resolves : Resolves ids fate before after) {id : TaskId} {earlier : Fate}
    (known : before.roster.fate? id = some earlier) :
    earlier = .pending ∨ after.roster.fate? id = some earlier := by
  rw [resolves.fates]
  split
  · rename_i listed
    rw [resolves.pending listed] at known
    cases known
    exact .inl rfl
  · exact .inr known

theorem decided (resolves : Resolves ids fate before after) (id : TaskId) :
    ids.count id + decisions (before.roster.fate? id) = decisions (after.roster.fate? id) := by
  have one : decisions (some fate) = 1 := by
    cases fate with
    | pending => exact absurd rfl resolves.final
    | fired => rfl
    | cancelled => rfl
  rw [resolves.fates]
  by_cases listed : id ∈ ids
  · rw [if_pos listed, resolves.pending listed, one, resolves.distinct.count, if_pos listed]
    rfl
  · rw [if_neg listed, List.count_eq_zero_of_not_mem listed, Nat.zero_add]

theorem accepted (resolves : Resolves ids fate before after) (id : TaskId) :
    acceptances (before.roster.fate? id) = acceptances (after.roster.fate? id) := by
  rw [resolves.fates]
  by_cases listed : id ∈ ids
  · rw [if_pos listed, resolves.pending listed]
    rfl
  · rw [if_neg listed]

end Resolves

theorem explains_cancelled {id : TaskId} (resolves : Resolves [id] .cancelled before after)
    (task : after.worker.task? = before.worker.task?)
    (queue : after.queue.toList ⊆ before.queue.toList) :
    Explains before after [.cancelAnswered id true] where
  fates other := by simp [resolves.fates, Occurrence.fateAfter, eq_comm]
  lasting := resolves.lasting
  begun began := by simp at began
  decided other := by
    rw [← resolves.decided, List.count_singleton]
    simp [List.countP_singleton, Occurrence.decides]
  accepted other := by
    rw [← resolves.accepted]
    exact Nat.zero_add _
  timely began := by simp at began
  noted entry held := .inl (queue held)
  alone := by
    rw [task]
    cases before.worker.task? <;> rfl

theorem explains_turnedDown {id : TaskId} (roster : after.roster = before.roster)
    (task : after.worker.task? = before.worker.task?)
    (queue : after.queue.toList ⊆ before.queue.toList) :
    Explains before after [.cancelAnswered id false] where
  fates other := by rw [roster]; rfl
  lasting known := by rw [roster]; exact .inr known
  begun began := by simp at began
  decided other := by rw [roster]; exact Nat.zero_add _
  accepted other := by rw [roster]; exact Nat.zero_add _
  timely began := by simp at began
  noted entry held := .inl (queue held)
  alone := by
    rw [task]
    cases before.worker.task? <;> rfl

theorem explains_cancelAnswered {id : TaskId}
    (roster : after.roster = before.roster.resolve id .cancelled)
    (task : after.worker.task? = before.worker.task?)
    (queue : after.queue.toList ⊆ before.queue.toList) :
    Explains before after [.cancelAnswered id (before.roster.isPending id)] := by
  by_cases pending : before.roster.isPending id = true
  · rw [pending]
    have resolves : Resolves [id] .cancelled before after :=
      .single (Roster.isPending_iff.1 pending) nofun roster
    exact explains_cancelled resolves task queue
  · have kept : after.roster = before.roster := by rw [roster, Roster.resolve, if_neg pending]
    rw [Bool.not_eq_true] at pending
    rw [pending]
    exact explains_turnedDown kept task queue

theorem explains_began {head : Entry ω} (held : head ∈ before.queue.toList)
    (pending : before.roster.fate? head.id = some .pending) (due : head.due ≤ now)
    (roster : after.roster = before.roster.resolve head.id .fired)
    (resting : before.worker.task? = none) (running : after.worker.task? = some head.id)
    (queue : after.queue.toList ⊆ before.queue.toList) :
    Explains before after [.began head.id now] := by
  have resolves : Resolves [head.id] .fired before after := .single pending nofun roster
  constructor
  · intro id
    simp [resolves.fates, Occurrence.fateAfter, eq_comm]
  · exact resolves.lasting
  · intro id time began
    obtain ⟨rfl, rfl⟩ : id = head.id ∧ time = now := by simpa using began
    simp [resolves.fates]
  · intro id
    rw [← resolves.decided, List.count_singleton]
    simp [List.countP_singleton, Occurrence.decides]
  · intro id
    rw [← resolves.accepted]
    exact Nat.zero_add _
  · intro id time began
    obtain ⟨rfl, rfl⟩ : id = head.id ∧ time = now := by simpa using began
    exact ⟨head, held, rfl, due⟩
  · exact fun entry kept => .inl (queue kept)
  · rw [resting, running]
    rfl

theorem foldl_fateAfter_abandoned (ids : List TaskId) (id : TaskId) (fate : Option Fate) :
    (ids.map .abandoned).foldl (Occurrence.fateAfter id) fate
      = if id ∈ ids then some .cancelled else fate := by
  induction ids generalizing fate with
  | nil => rfl
  | cons other ids inductionHypothesis =>
      rw [List.map_cons, List.foldl_cons, inductionHypothesis]
      by_cases same : other = id
      · subst same
        simp [Occurrence.fateAfter]
      · simp [Occurrence.fateAfter, same, Ne.symm same]

theorem countP_decides_abandoned (ids : List TaskId) (id : TaskId) :
    (ids.map .abandoned).countP (Occurrence.decides id) = ids.count id := by
  rw [List.countP_map, List.count_eq_countP]
  congr

theorem countP_accepts_abandoned (ids : List TaskId) (id : TaskId) :
    (ids.map .abandoned).countP (Occurrence.accepts id) = 0 := by
  rw [List.countP_map, List.countP_eq_zero]
  exact fun other _ => Bool.false_ne_true

theorem follow?_abandoned (ids : List TaskId) :
    (ids.map .abandoned).foldlM Occurrence.follow? none = some none := by
  induction ids with
  | nil => rfl
  | cons id ids inductionHypothesis => exact inductionHypothesis

theorem explains_abandoned {ids : List TaskId} (resolves : Resolves ids .cancelled before after)
    (resting : before.worker.task? = none) (past : after.worker.task? = none)
    (vacant : after.queue.toList = []) : Explains before after (ids.map .abandoned) := by
  constructor
  · intro id
    rw [foldl_fateAfter_abandoned, resolves.fates]
  · exact resolves.lasting
  · intro id time began
    simp at began
  · intro id
    rw [countP_decides_abandoned, resolves.decided]
  · intro id
    rw [countP_accepts_abandoned, Nat.zero_add, resolves.accepted]
  · intro id time began
    simp at began
  · rw [vacant]
    nofun
  · rw [resting, past]
    exact follow?_abandoned ids

theorem explains_ended {id : TaskId} (roster : after.roster = before.roster)
    (running : before.worker.task? = some id) (past : after.worker.task? = none)
    (queue : after.queue.toList ⊆ before.queue.toList) : Explains before after [.ended id] where
  fates other := by rw [roster]; rfl
  lasting known := by rw [roster]; exact .inr known
  begun began := by simp at began
  decided other := by rw [roster]; exact Nat.zero_add _
  accepted other := by rw [roster]; exact Nat.zero_add _
  timely began := by simp at began
  noted entry held := .inl (queue held)
  alone := by
    rw [running, past]
    simp [Occurrence.follow?]

theorem Effect.explains {occurred : List Occurrence} (effect : Effect now before after occurred) :
    Explains before after occurred := by
  cases effect with
  | quiet roster task queue => exact explains_quiet roster task queue
  | accepted roster task queue => exact explains_accepted roster task queue
  | cancelAnswered id roster task queue => exact explains_cancelAnswered roster task queue
  | began held pending due roster resting running queue =>
      exact explains_began held pending due roster resting running queue
  | abandoned distinct pending fates resting past vacant =>
      have resolves : Resolves _ .cancelled before after :=
        ⟨distinct, fun listed => (pending _).1 listed, fates, nofun⟩
      exact explains_abandoned resolves resting past vacant
  | ended roster running past queue => exact explains_ended roster running past queue

end Scheduler

structure Chronicle (record : List Occurrence) (scheduler : Scheduler ω) : Prop where
  fates : ∀ id, scheduler.roster.fate? id = recordedFate record id
  begun : ∀ {id now}, .began id now ∈ record → scheduler.roster.fate? id = some .fired
  decided : ∀ id, record.countP (Occurrence.decides id) = decisions (scheduler.roster.fate? id)
  accepted : ∀ id,
    record.countP (Occurrence.accepts id) = acceptances (scheduler.roster.fate? id)
  timely : ∀ {id now}, .began id now ∈ record → ∃ due, .accepted id due ∈ record ∧ due ≤ now
  noted : ∀ entry ∈ scheduler.queue.toList, .accepted entry.id entry.due ∈ record
  alone : record.foldlM Occurrence.follow? none = some scheduler.worker.task?

namespace Chronicle

variable {before after : Scheduler ω} {record occurred : List Occurrence} {now : Int}

theorem empty (settings : Settings) (halted : Bool) :
    Chronicle [] (Scheduler.start settings halted : Scheduler ω) := by
  have absent (id : TaskId) :
      (Scheduler.start settings halted : Scheduler ω).roster.fate? id = none :=
    Roster.fate?_empty id
  constructor
  · exact absent
  · nofun
  · intro id
    rw [absent]
    rfl
  · intro id
    rw [absent]
    rfl
  · nofun
  · nofun
  · rfl

theorem append (chronicle : Chronicle record before) (explains : Explains before after occurred) :
    Chronicle (record ++ occurred) after := by
  constructor
  · intro id
    rw [explains.fates, recordedFate_append, chronicle.fates]
  · intro id now began
    rcases List.mem_append.1 began with earlier | later
    · exact (explains.lasting (chronicle.begun earlier)).resolve_left nofun
    · exact explains.begun later
  · intro id
    rw [List.countP_append, chronicle.decided, Nat.add_comm]
    exact explains.decided id
  · intro id
    rw [List.countP_append, chronicle.accepted, Nat.add_comm]
    exact explains.accepted id
  · intro id now began
    rcases List.mem_append.1 began with earlier | later
    · obtain ⟨due, noted, reached⟩ := chronicle.timely earlier
      exact ⟨due, List.mem_append_left _ noted, reached⟩
    · obtain ⟨entry, held, rfl, reached⟩ := explains.timely later
      exact ⟨entry.due, List.mem_append_left _ (chronicle.noted entry held), reached⟩
  · intro entry held
    rcases explains.noted entry held with old | new
    · exact List.mem_append_left _ (chronicle.noted entry old)
    · exact List.mem_append_right _ new
  · rw [List.foldlM_append, chronicle.alone]
    exact explains.alone

theorem known_of_accepted {scheduler : Scheduler ω} (chronicle : Chronicle record scheduler)
    {id : TaskId} {due : Int} (accepted : .accepted id due ∈ record) :
    scheduler.roster.fate? id ≠ none := by
  intro unknown
  have none := chronicle.accepted id
  rw [unknown] at none
  have some : 0 < record.countP (Occurrence.accepts id) :=
    List.countP_pos_iff.2 ⟨_, accepted, by simp [Occurrence.accepts]⟩
  exact absurd none (Nat.ne_of_gt some)

end Chronicle

namespace Run

variable {first last : Moment ω} {record earlier : List Occurrence}

theorem chronicle (run : Run first record last) (sound : first.scheduler.Sound)
    (start : Chronicle earlier first.scheduler) :
    Chronicle (earlier ++ record) last.scheduler := by
  -- The soundness of each scheduler on the way is that of the run so far.
  induction run with
  | rest =>
      rw [List.append_nil]
      exact start
  | step taken step inductionHypothesis =>
      rw [← List.append_assoc]
      exact inductionHypothesis.append (step.effect (taken.sound sound)).explains
  | pass _ _ inductionHypothesis => exact inductionHypothesis

/-- What a task has become stays so. -/
theorem lasting (run : Run first record last) (sound : first.scheduler.Sound) {id : TaskId}
    {fate : Fate} (known : first.scheduler.roster.fate? id = some fate) :
    fate = .pending ∨ last.scheduler.roster.fate? id = some fate := by
  induction run with
  | rest => exact .inr known
  | step taken step inductionHypothesis =>
      rcases inductionHypothesis with pending | kept
      · exact .inl pending
      · exact (step.effect (taken.sound sound)).explains.lasting kept
  | pass _ _ inductionHypothesis => exact inductionHypothesis

end Run

end Agenda
