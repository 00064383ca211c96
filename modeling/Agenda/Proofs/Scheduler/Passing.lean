import Agenda.Proofs.Scheduler.Continuing

/-!
# What becomes of the work of a kind

Most of what is done to a scheduler adds no work of a certain kind and takes none away: of such
work, what is pending stays queued and pending until it begins at its time.
-/

namespace Agenda.Scheduler

universe u

variable {ω : Type u} {before after : Scheduler ω} {now : Int} {kind past : ω → Prop}

/-- The work of a kind stays where it is, or begins.  Work in progress may end if it is past. -/
structure Passes (now : Int) (kind past : ω → Prop) (before after : Scheduler ω) : Prop where
  halted : before.halted = true → after.halted = true
  accepted : ∀ {id}, before.roster.fate? id ≠ none → after.roster.fate? id ≠ none
  queue : ∀ {entry}, entry ∈ after.queue.toList → entry ∈ before.queue.toList ∨
    ¬ kind entry.work ∧ before.roster.fate? entry.id = none
  pending : ∀ {id}, before.roster.fate? id ≠ none → after.roster.fate? id = some .pending →
    before.roster.fate? id = some .pending
  kept : ∀ {entry}, after.halted = false → entry ∈ before.queue.toList → kind entry.work →
    before.roster.fate? entry.id = some .pending →
      entry ∈ after.queue.toList ∧ after.roster.fate? entry.id = some .pending ∨
        after.worker = .busy entry.id entry.work ∧ entry.due ≤ now
  running : ∀ {id work}, before.worker = .busy id work → kind work →
    after.worker = .busy id work ∨ past work
  begun : ∀ {id work}, after.worker = .busy id work → kind work →
    before.worker = .busy id work ∨ ∃ entry ∈ before.queue.toList, entry.id = id ∧
      entry.work = work ∧ before.roster.fate? id = some .pending ∧ entry.due ≤ now

/-- Only the queue, the fates, the worker and the stop signal matter. -/
theorem Passes.of_eq (queue : after.queue = before.queue)
    (fates : ∀ id, after.roster.fate? id = before.roster.fate? id)
    (worker : after.worker = before.worker) (halted : before.halted = true → after.halted = true) :
    Passes now kind past before after where
  halted := halted
  accepted known := by
    rw [fates]
    exact known
  queue held := .inl (queue ▸ held)
  pending _ pending := (fates _).symm.trans pending
  kept _ held _ pending := .inl ⟨queue ▸ held, (fates _).trans pending⟩
  running busy _ := .inl (worker.trans busy)
  begun busy _ := .inl (worker.symm.trans busy)

theorem Passes.refl (scheduler : Scheduler ω) : Passes now kind past scheduler scheduler :=
  .of_eq rfl (fun _ => rfl) rfl fun halted => halted

/-- Work that is not of the kind may come in. -/
theorem Passes.bears {fitting : ω → Prop} (passes : Passes now kind past before after)
    (bears : before.Bears fitting) (others : ∀ {work}, ¬ kind work → fitting work) :
    after.Bears fitting := by
  constructor
  · intro entry held
    rcases passes.queue held with queued | ⟨other, _⟩
    · exact bears.queued entry queued
    · exact others other
  · intro id work busy
    by_cases own : kind work
    · rcases passes.begun busy own with already | ⟨entry, queued, _, rfl, _⟩
      · exact bears.busy already
      · exact bears.queued entry queued
    · exact others own

/-- Where the worker is makes no difference as long as it has no work of the kind. -/
theorem Passes.of_free (queue : after.queue = before.queue)
    (roster : after.roster = before.roster) (halted : before.halted = true → after.halted = true)
    (first : ∀ {id work}, before.worker = .busy id work → kind work → past work)
    (last : ∀ {id work}, after.worker = .busy id work → ¬ kind work) :
    Passes now kind past before after where
  halted := halted
  accepted known := by
    rw [roster]
    exact known
  queue held := .inl (queue ▸ held)
  pending _ pending := roster ▸ pending
  kept _ held _ pending := .inl ⟨queue ▸ held, roster ▸ pending⟩
  running busy fits := .inr (first busy fits)
  begun busy fits := absurd fits (last busy)

theorem passes_halt (scheduler : Scheduler ω) : Passes now kind past scheduler scheduler.halt :=
  .of_eq rfl (fun _ => rfl) rfl fun _ => rfl

theorem passes_submit {due : Int} {work : ω} {id : TaskId}
    (accepted : before.submit? due work = some (id, after)) (other : ¬ kind work) :
    Passes now kind past before after := by
  obtain ⟨_, rfl, ready, interrupt, journal, rfl⟩ := eq_of_submit? accepted
  constructor
  · exact fun halted => halted
  · intro id known
    exact Roster.known_of_count_le (Nat.le_of_lt (Nat.lt_of_succ_le
      (Nat.le_of_eq (Roster.count_accept _).symm))) known
  · intro entry held
    rcases Heap.mem_insert_iff.1 held with rfl | old
    · exact .inr ⟨other, before.roster.fate?_nextId⟩
    · exact .inl old
  · intro id known pending
    obtain ⟨fate, known⟩ := Option.ne_none_iff_exists'.1 known
    have same := (Roster.fate?_accept_of_some known).symm.trans pending
    rw [known, same]
  · intro entry _ held _ pending
    exact .inl ⟨Heap.mem_insert_iff.2 (.inr held), Roster.fate?_accept_of_some pending⟩
  · intro id work busy _
    exact .inl busy
  · intro id work busy _
    exact .inl busy

theorem passes_cancel {id : TaskId}
    (other : ∀ entry ∈ before.queue.toList, entry.id = id → ¬ kind entry.work) :
    Passes now kind past before (before.cancel id).2 := by
  constructor
  · intro halted
    rw [halted_cancel]
    exact halted
  · intro task known
    rw [roster_cancel]
    exact Roster.known_of_count_le (Nat.le_of_eq (Roster.count_resolve ..).symm) known
  · intro entry held
    rw [queue_cancel] at held
    exact .inl held
  · intro task _ pending
    rw [roster_cancel, Roster.fate?_resolve] at pending
    split at pending
    · cases pending
    · exact pending
  · intro entry _ held fits pending
    rw [queue_cancel, roster_cancel, Roster.fate?_resolve_of_ne]
    · exact .inl ⟨held, pending⟩
    · exact fun same => other entry held same fits
  · intro task work busy _
    rw [worker_cancel]
    exact .inl busy
  · intro task work busy _
    rw [worker_cancel] at busy
    exact .inl busy

theorem Wakes.passes (wakes : Wakes before after) : Passes now kind past before after := by
  refine .of_free wakes.queue wakes.roster (fun halted => wakes.halted.trans halted) ?_ ?_
  · intro id work busy
    exact absurd busy wakes.ne_busy
  · intro id work busy
    cases wakes.worker.symm.trans busy

theorem passes_proceed {id : TaskId} {work rest : ω} (busy : before.worker = .busy id work)
    (other : ¬ kind work) (further : ¬ kind rest) :
    Passes now kind past before (before.proceed id rest) := by
  refine .of_free rfl rfl (fun halted => halted) ?_ ?_
  · intro task running same fits
    cases busy.symm.trans same
    exact absurd fits other
  · intro task running same
    cases same
    exact further

theorem passes_finish {id : TaskId} {work : ω} (busy : before.worker = .busy id work)
    (ends : kind work → past work) : Passes now kind past before before.finish := by
  refine .of_free (queue_signalDrained _) (roster_signalDrained _) ?_ ?_ ?_
  · intro halted
    exact (halted_signalDrained _).trans halted
  · intro task running same fits
    cases busy.symm.trans same
    exact ends fits
  · intro task running same
    cases (worker_signalDrained _).symm.trans same

theorem passes_abandon (looking : before.worker = .looking) (halted : before.halted = true) :
    Passes now kind past before before.abandon := by
  constructor
  · exact id
  · intro id known
    exact Roster.known_of_count_le (Nat.le_of_eq (Roster.count_cancelAll ..).symm) known
  · nofun
  · intro task _ pending
    have fate := (Roster.fate?_cancelAll ..).symm.trans pending
    split at fate
    · cases fate
    · exact fate
  · intro entry running
    cases halted.symm.trans running
  · intro id work busy
    cases looking.symm.trans busy
  · nofun

/-- Work that begins has been queued and pending, and its time has come. -/
theorem Chooses.passes (chosen : Chooses now before after) (sound : before.Sound)
    (looking : before.worker = .looking) : Passes now kind past before after := by
  have resting (id : TaskId) (work : ω) : before.worker ≠ .busy id work := by
    rw [looking]
    nofun
  induction chosen with
  | exit _ _ =>
      exact .of_free rfl rfl (fun halted => halted) (fun busy => absurd busy (resting _ _)) nofun
  | idle _ _ =>
      exact .of_free rfl rfl (fun halted => halted) (fun busy => absurd busy (resting _ _)) nofun
  | sleep _ _ _ =>
      exact .of_free rfl rfl (fun halted => halted) (fun busy => absurd busy (resting _ _)) nofun
  | @begin scheduler head rest popped pending due =>
      have apart := (sound.stored.tail popped).2.2
      constructor
      · exact fun halted => halted
      · intro id known
        exact Roster.known_of_count_le (Nat.le_of_eq (Roster.count_resolve ..).symm) known
      · exact fun held => .inl (Stored.mem_of_pop? popped held)
      · intro task _ waits
        have fate := (Roster.fate?_resolve ..).symm.trans waits
        split at fate
        · cases fate
        · exact fate
      · intro entry _ held _ waits
        rcases (Heap.mem_iff_of_pop? popped).1 held with rfl | later
        · exact .inr ⟨rfl, due⟩
        · exact .inl ⟨later, (Roster.fate?_resolve_of_ne _ (apart _ later) _).trans waits⟩
      · exact fun busy => absurd busy (resting _ _)
      · intro id work busy _
        cases busy
        exact .inr ⟨head, Stored.head_mem popped, rfl, rfl, pending, due⟩
  | @discard scheduler last head rest popped resolved _ inductionHypothesis =>
      have passes := inductionHypothesis (sound.discard looking popped resolved)
        (by simpa using looking) (by simpa using resting)
      have queue : (scheduler.discard head.id rest).queue = rest := queue_discard ..
      have roster : (scheduler.discard head.id rest).roster = scheduler.roster := roster_discard ..
      constructor
      · intro halted
        exact passes.halted ((halted_discard ..).trans halted)
      · intro id known
        exact passes.accepted (roster ▸ known)
      · intro entry held
        rcases passes.queue held with old | ⟨other, new⟩
        · rw [queue] at old
          exact .inl (Stored.mem_of_pop? popped old)
        · rw [roster] at new
          exact .inr ⟨other, new⟩
      · intro task known waits
        rw [← roster] at known ⊢
        exact passes.pending known waits
      · intro entry running held fits waits
        refine passes.kept running ?_ fits (roster ▸ waits)
        rw [queue]
        rcases (Heap.mem_iff_of_pop? popped).1 held with rfl | later
        · exact absurd waits resolved
        · exact later
      · exact fun busy => absurd busy (resting _ _)
      · intro id work busy fits
        rcases passes.begun busy fits with already | ⟨entry, held, same, does, waits, due⟩
        · rw [worker_discard] at already
          exact absurd already (resting _ _)
        · rw [queue] at held
          rw [roster] at waits
          exact .inr ⟨entry, Stored.mem_of_pop? popped held, same, does, waits, due⟩

theorem Sound.passes_look (sound : before.Sound) (looking : before.worker = .looking) (now : Int) :
    Passes now kind past before (before.look now) := by
  unfold Scheduler.look
  split
  · rename_i halted
    exact passes_abandon looking halted
  · exact (chooses_choose before now).passes sound looking

end Agenda.Scheduler
