import Agenda.Proofs.Scheduler.Fates
import Mathlib.Data.List.Count

/-!
# How tasks leave the queue

A task leaves the queue when it begins, when it is discarded because it was cancelled, or when
the stop signal ends it.  The journal shows which.  `Accounts` says that every accepted task is
queued or has left, and that it has left once.
-/

namespace Agenda

universe u

variable {ω : Type u}

inductive Departure where
  | run
  | discarded
  | abandoned
  deriving DecidableEq, Repr

def Departure.fate : Departure → Fate
  | .run => .fired
  | .discarded => .cancelled
  | .abandoned => .cancelled

def Notice.leaving (notice : Notice) (way : Departure) : List TaskId :=
  match notice with
  | .began id _ _ => if way = .run then [id] else []
  | .discarded id => if way = .discarded then [id] else []
  | .abandoned ids => if way = .abandoned then ids else []
  | _ => []

def Notice.withdrawn? : Notice → Option TaskId
  | .cancelled id => some id
  | _ => none

namespace Scheduler

def waiting (scheduler : Scheduler ω) : List TaskId := scheduler.queue.toList.map Entry.id

def left (scheduler : Scheduler ω) (way : Departure) : List TaskId :=
  scheduler.journal.toList.flatMap fun notice => notice.leaving way

def withdrawn (scheduler : Scheduler ω) : List TaskId :=
  scheduler.journal.toList.filterMap Notice.withdrawn?

/-- How often a task is queued or has left the queue. -/
def places (scheduler : Scheduler ω) (id : TaskId) : Nat :=
  scheduler.waiting.count id + (scheduler.left .run).count id
    + (scheduler.left .discarded).count id + (scheduler.left .abandoned).count id

variable {scheduler before after : Scheduler ω} {now : Int}

@[simp]
theorem length_waiting (scheduler : Scheduler ω) : scheduler.waiting.length = scheduler.size := by
  simp [waiting, size]

@[simp]
theorem left_note (scheduler : Scheduler ω) (notice : Notice) (way : Departure) :
    (scheduler.note notice).left way = scheduler.left way ++ notice.leaving way := by
  simp [left, note]

@[simp]
theorem withdrawn_note (scheduler : Scheduler ω) (notice : Notice) :
    (scheduler.note notice).withdrawn = scheduler.withdrawn ++ notice.withdrawn?.toList := by
  cases seen : notice.withdrawn? <;> simp [withdrawn, note, seen]

/-- Every accepted task is in the queue or has left it, in one way and once. -/
structure Accounts (scheduler : Scheduler ω) : Prop where
  once : ∀ id, scheduler.places id = acceptances (scheduler.roster.fate? id)
  fates : ∀ {way id}, id ∈ scheduler.left way → scheduler.roster.fate? id = some way.fate
  /-- Only the stop signal ends tasks that nobody cancelled. -/
  halted : scheduler.left .abandoned ≠ [] → scheduler.halted = true
  cancelled : ∀ {id}, scheduler.roster.fate? id = some .cancelled →
    id ∈ scheduler.withdrawn ∨ id ∈ scheduler.left .abandoned

theorem accounts_start (settings : Settings) (halted : Bool) :
    (start settings halted : Scheduler ω).Accounts := by
  have absent (id : TaskId) : (start settings halted : Scheduler ω).roster.fate? id = none :=
    Roster.fate?_empty id
  have none (way : Departure) : (start settings halted : Scheduler ω).left way = [] := by
    cases way <;> rfl
  refine ⟨fun id => ?_, fun listed => ?_, fun some => ?_, fun cancelled => ?_⟩
  · simp only [places, none, absent]
    rfl
  · rw [none] at listed
    cases listed
  · exact absurd (none _) some
  · rw [absent] at cancelled
    cases cancelled

namespace Accounts

theorem congr (accounts : before.Accounts) (queue : after.queue = before.queue)
    (roster : after.roster = before.roster) (journal : after.journal = before.journal)
    (halted : before.halted = true → after.halted = true) : after.Accounts := by
  have left (way : Departure) : after.left way = before.left way := by
    simp only [Scheduler.left, journal]
  constructor
  · intro id
    simp only [places, waiting, left, queue, roster]
    exact accounts.once id
  · intro way id listed
    rw [left] at listed
    rw [roster]
    exact accounts.fates listed
  · intro some
    rw [left] at some
    exact halted (accounts.halted some)
  · intro id cancelled
    rw [roster] at cancelled
    rw [left, withdrawn, journal]
    exact accounts.cancelled cancelled

/-- A journal entry that tells of no departure and no cancellation changes no account. -/
theorem note (accounts : before.Accounts) {notice : Notice}
    (silent : ∀ way, notice.leaving way = []) (kept : notice.withdrawn? = none) :
    (before.note notice).Accounts := by
  have left (way : Departure) : (before.note notice).left way = before.left way := by
    rw [left_note, silent, List.append_nil]
  have withdrawn : (before.note notice).withdrawn = before.withdrawn := by
    rw [withdrawn_note, kept, Option.toList_none, List.append_nil]
  constructor
  · intro id
    simp only [places, left]
    exact accounts.once id
  · intro way id listed
    rw [left] at listed
    exact accounts.fates listed
  · rw [left]
    exact accounts.halted
  · rw [left, withdrawn]
    exact accounts.cancelled

theorem signalDrained (accounts : before.Accounts) : before.signalDrained.Accounts := by
  unfold Scheduler.signalDrained
  split
  · exact accounts.congr rfl rfl rfl id
  · exact accounts

theorem accept (accounts : before.Accounts) (due : Int) (work : ω) :
    (before.accept due work).Accounts := by
  have absent := before.roster.fate?_nextId
  have filled : (before.accept due work).waiting.Perm (before.roster.nextId :: before.waiting) :=
    (Heap.toList_insert_perm before.queue ⟨due, before.roster.nextId, work⟩).map Entry.id
  have fates (id : TaskId) : (before.accept due work).roster.fate? id =
      if id = before.roster.nextId then some .pending else before.roster.fate? id :=
    Roster.fate?_accept ..
  constructor
  · intro id
    have once := accounts.once id
    simp only [places] at once ⊢
    rw [filled.count_eq, fates, List.count_cons]
    change _ + (before.left .run).count id + (before.left .discarded).count id
      + (before.left .abandoned).count id = _
    by_cases new : id = before.roster.nextId
    · subst new
      rw [absent] at once
      simp [acceptances] at once ⊢
      omega
    · simp [new, Ne.symm new]
      omega
  · intro way id listed
    exact Roster.fate?_accept_of_some (accounts.fates listed)
  · exact accounts.halted
  · intro id cancelled
    rw [fates] at cancelled
    split at cancelled
    · cases cancelled
    · exact accounts.cancelled cancelled

theorem submit (accounts : before.Accounts) {due : Int} {work : ω} {id : TaskId}
    (accepted : before.submit? due work = some (id, after)) : after.Accounts := by
  unfold submit? at accepted
  split at accepted <;> cases accepted
  unfold announce
  split
  · exact (accounts.accept due work).congr rfl rfl rfl fun halted => halted
  · split
    · apply Accounts.note _ (fun _ => rfl) rfl
      exact (accounts.accept due work).congr rfl rfl rfl fun halted => halted
    · exact accounts.accept due work

/-- What has to be seen to when tasks leave the queue or are cancelled. -/
theorem goOn (accounts : before.Accounts) {more : Departure → List TaskId} {taken : List TaskId}
    (left : ∀ way, after.left way = before.left way ++ more way)
    (withdrawn : after.withdrawn = before.withdrawn ++ taken)
    (places : ∀ id, after.places id = before.places id)
    (accepted : ∀ id, acceptances (before.roster.fate? id) = acceptances (after.roster.fate? id))
    (lasting : ∀ {id fate}, before.roster.fate? id = some fate →
      fate = .pending ∨ after.roster.fate? id = some fate)
    (fates : ∀ {way id}, id ∈ more way → after.roster.fate? id = some way.fate)
    (halted : before.halted = true → after.halted = true)
    (abandoned : more .abandoned ≠ [] → after.halted = true)
    (cancelled : ∀ {id}, after.roster.fate? id = some .cancelled →
      before.roster.fate? id = some .cancelled ∨ id ∈ taken ∨ id ∈ more .abandoned) :
    after.Accounts := by
  constructor
  · intro id
    rw [places, ← accepted]
    exact accounts.once id
  · intro way id listed
    rw [left] at listed
    rcases List.mem_append.1 listed with old | new
    · refine (lasting (accounts.fates old)).resolve_left ?_
      cases way <;> nofun
    · exact fates new
  · intro some
    rw [left, ne_eq, List.append_eq_nil_iff, not_and_or] at some
    rcases some with old | new
    · exact halted (accounts.halted old)
    · exact abandoned new
  · intro id dead
    rw [left, withdrawn, List.mem_append, List.mem_append]
    rcases cancelled dead with old | taken | new
    · rcases accounts.cancelled old with withdrawn | abandoned
      · exact .inl (.inl withdrawn)
      · exact .inr (.inl abandoned)
    · exact .inl (.inr taken)
    · exact .inr (.inr new)

theorem places_of_leaving {way : Departure} {id : TaskId}
    (waiting : before.waiting.Perm (id :: after.waiting))
    (left : ∀ other, after.left other = before.left other ++ if other = way then [id] else [])
    (other : TaskId) : after.places other = before.places other := by
  simp only [places, left, waiting.count_eq, List.count_append, List.count_cons]
  cases way <;> simp [List.count_cons] <;> omega

theorem waiting_of_pop? {head : Entry ω} {rest : TaskQueue ω}
    (popped : before.queue.pop? = some (head, rest)) (queue : after.queue = rest) :
    before.waiting.Perm (head.id :: after.waiting) := by
  rw [waiting, waiting, queue]
  exact (Heap.toList_pop?_perm popped).map Entry.id

theorem discard (accounts : before.Accounts) (sound : before.Sound) {head : Entry ω}
    {rest : TaskQueue ω} (popped : before.queue.pop? = some (head, rest))
    (resolved : before.roster.fate? head.id ≠ some .pending) :
    (before.discard head.id rest).Accounts := by
  have cancelled : before.roster.fate? head.id = some .cancelled :=
    (sound.stored.waiting head (Stored.head_mem popped)).resolve_left resolved
  have left (way : Departure) : ({ before with queue := rest }.note (.discarded head.id)).left way
      = before.left way ++ if way = .discarded then [head.id] else [] := by
    exact left_note _ _ _
  apply signalDrained
  refine accounts.goOn left (withdrawn_note _ _)
    (places_of_leaving (waiting_of_pop? popped rfl) left) (fun _ => rfl) .inr ?_ id nofun .inl
  intro way id listed
  split at listed
  · rename_i same
    rw [List.mem_singleton.1 listed, same]
    exact cancelled
  · cases listed

theorem begin (accounts : before.Accounts) {head : Entry ω} {rest : TaskQueue ω}
    (popped : before.queue.pop? = some (head, rest))
    (pending : before.roster.fate? head.id = some .pending) (now : Int) :
    (before.begin head rest now).Accounts := by
  have left (way : Departure) : (before.begin head rest now).left way
      = before.left way ++ if way = .run then [head.id] else [] := by
    exact left_note _ _ _
  have resolves : Resolves [head.id] .fired before (before.begin head rest now) :=
    .single pending nofun rfl
  refine accounts.goOn left (withdrawn_note _ _)
    (places_of_leaving (waiting_of_pop? popped rfl) left) resolves.accepted resolves.lasting
    ?_ id nofun ?_
  · intro way id listed
    split at listed
    · rename_i same
      rw [resolves.fates, if_pos listed, same]
      rfl
    · cases listed
  · intro id cancelled
    rw [resolves.fates] at cancelled
    split at cancelled
    · cases cancelled
    · exact .inl cancelled

theorem cancel (accounts : before.Accounts) (id : TaskId) : (before.cancel id).2.Accounts := by
  unfold Scheduler.cancel
  split
  · rename_i pending
    rw [Roster.isPending_iff] at pending
    have resolves : Resolves [id] .cancelled before
        ({ before with roster := before.roster.resolve id .cancelled }.note (.cancelled id)) :=
      .single pending nofun rfl
    have left (way : Departure) :
        ({ before with
            roster := before.roster.resolve id .cancelled }.note (.cancelled id)).left way
          = before.left way ++ [] := by
      rw [left_note]
      cases way <;> rfl
    refine accounts.goOn left (withdrawn_note _ _) ?_ resolves.accepted resolves.lasting nofun
      (fun halted => halted) nofun ?_
    · intro other
      simp only [places, left, List.append_nil]
      rfl
    · intro other cancelled
      rw [resolves.fates] at cancelled
      split at cancelled
      · rename_i listed
        exact .inr (.inl listed)
      · exact .inl cancelled
  · exact accounts

theorem abandon (accounts : before.Accounts) (sound : before.Sound)
    (halted : before.halted = true) : before.abandon.Accounts := by
  have left (way : Departure) : before.abandon.left way
      = before.left way ++ if way = .abandoned then before.waiting else [] := by
    rw [Scheduler.abandon, left_note, left_note]
    exact List.append_nil _
  have waits {id : TaskId} (listed : id ∈ before.waiting) :
      before.roster.fate? id = some .pending ∨ before.roster.fate? id = some .cancelled := by
    obtain ⟨entry, held, rfl⟩ := List.mem_map.1 listed
    exact sound.stored.waiting entry held
  have resolves : Resolves (before.waiting.filter before.roster.isPending) .cancelled before
      before.abandon := by
    refine ⟨sound.stored.distinct.filter _, ?_, ?_, nofun⟩
    · exact fun listed => Roster.isPending_iff.1 (List.mem_filter.1 listed).2
    · intro id
      simp only [List.mem_filter, Roster.isPending_iff]
      exact Roster.fate?_cancelAll ..
  have withdrawn : before.abandon.withdrawn = before.withdrawn ++ [] := by
    rw [Scheduler.abandon, withdrawn_note, withdrawn_note, List.append_assoc]
    rfl
  refine accounts.goOn left withdrawn ?_ resolves.accepted resolves.lasting ?_ id
    (fun _ => halted) ?_
  · intro id
    have vacant : before.abandon.waiting = [] := rfl
    simp only [places, left, vacant, List.count_append, List.count_nil, reduceCtorEq, if_true,
      if_false]
    omega
  · intro way id listed
    split at listed
    · rename_i same
      rw [resolves.fates, same]
      split
      · rfl
      · rename_i resolved
        refine (waits listed).resolve_left fun pending => resolved ?_
        exact List.mem_filter.2 ⟨listed, Roster.isPending_iff.2 pending⟩
    · cases listed
  · intro id cancelled
    rw [resolves.fates] at cancelled
    split at cancelled
    · rename_i listed
      exact .inr (.inr (List.mem_filter.1 listed).1)
    · exact .inl cancelled

theorem choose (accounts : before.Accounts) (sound : before.Sound)
    (looking : before.worker = .looking) (chosen : Chooses now before after) : after.Accounts := by
  induction chosen with
  | exit vacant stopped =>
      apply note _ (fun _ => rfl) rfl
      exact accounts.congr rfl rfl rfl fun halted => halted
  | idle vacant stopped => exact accounts.congr rfl rfl rfl fun halted => halted
  | sleep popped pending early => exact accounts.congr rfl rfl rfl fun halted => halted
  | begin popped pending due => exact accounts.begin popped pending now
  | discard popped resolved _ inductionHypothesis =>
      exact inductionHypothesis (accounts.discard sound popped resolved)
        (sound.discard looking popped resolved) (by simpa using looking)

theorem look (accounts : before.Accounts) (sound : before.Sound)
    (looking : before.worker = .looking) (now : Int) : (before.look now).Accounts := by
  unfold Scheduler.look
  split
  · rename_i halted
    exact accounts.abandon sound halted
  · exact accounts.choose sound looking (chooses_choose before now)

theorem wake (accounts : before.Accounts) (wakes : Wakes before after) : after.Accounts := by
  have halted (already : before.halted = true) : after.halted = true := by
    rw [wakes.halted, already]
  rcases wakes.journal with same | ⟨notice, waking, pushed⟩
  · exact accounts.congr wakes.queue wakes.roster same halted
  · have noted : (before.note notice).Accounts := by
      rcases waking with rfl | rfl <;> exact accounts.note (fun _ => rfl) rfl
    exact noted.congr wakes.queue wakes.roster pushed halted

theorem step (accounts : before.Accounts) (sound : before.Sound) {occurred : List Occurrence}
    (step : before.Step now occurred after) : after.Accounts := by
  cases step with
  | submit accepted => exact accounts.submit accepted
  | cancel id => exact accounts.cancel id
  | disown id => exact accounts.note (fun _ => rfl) rfl
  | halt => exact accounts.congr rfl rfl rfl fun _ => rfl
  | stopInside _ =>
      unfold Scheduler.stopInside
      split
      · exact accounts
      · apply note _ (fun _ => rfl) rfl
        exact accounts.congr rfl rfl rfl fun halted => halted
  | close _ =>
      unfold Scheduler.close
      split
      · exact accounts.congr rfl rfl rfl fun halted => halted
      · apply note _ (fun _ => rfl) rfl
        exact accounts.congr rfl rfl rfl fun halted => halted
  | join => exact accounts.congr rfl rfl rfl fun halted => halted
  | look looking => exact accounts.look sound looking now
  | wake woke => exact accounts.wake (wakes_of_wake? woke)
  | proceed rest _ => exact accounts.congr rfl rfl rfl fun halted => halted
  | fail message _ =>
      unfold Scheduler.fail
      dsimp only
      split
      · exact (accounts.note (fun _ => rfl) rfl).note (fun _ => rfl) rfl
      · exact accounts.note (fun _ => rfl) rfl
  | finish _ =>
      apply signalDrained
      exact accounts.congr rfl rfl rfl fun halted => halted

end Accounts

end Scheduler

theorem Run.accounts {first last : Moment ω} {record : List Occurrence}
    (run : Run first record last) (sound : first.scheduler.Sound)
    (start : first.scheduler.Accounts) : last.scheduler.Accounts := by
  induction run with
  | rest => exact start
  | step taken step inductionHypothesis => exact inductionHypothesis.step (taken.sound sound) step
  | pass _ _ inductionHypothesis => exact inductionHypothesis

end Agenda
