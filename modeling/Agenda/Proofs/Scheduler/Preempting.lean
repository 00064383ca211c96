import Agenda.Proofs.Heap.Displacing
import Agenda.Proofs.Scheduler.Soundness

/-!
# Which wakeup a submission raises

The first entry of a queue raises `ready`, and an entry that is due before every other one raises
`interrupt`, cancelled entries included.  Whether the new entry is at the head, which is what a
scheduler asks, comes to the same, since its queue is in the order of a heap.
-/

namespace Agenda

universe u

variable {ω : Type u}

namespace Scheduler

def hush (scheduler : Scheduler ω) : Scheduler ω :=
  { scheduler with ready := false, interrupt := false }

/-- The submission raises `ready`: that is kept after it, though no wakeup was kept before. -/
def raisesReady (scheduler : Scheduler ω) (due : Int) (work : ω) : Bool :=
  (scheduler.hush.submit? due work).any fun (_, after) => after.ready

def raisesInterrupt (scheduler : Scheduler ω) (due : Int) (work : ω) : Bool :=
  (scheduler.hush.submit? due work).any fun (_, after) => after.interrupt

/-- What becomes of a scheduler that accepts a submission, whose entry is `entry`. -/
structure Enqueues (before : Scheduler ω) (entry : Entry ω) (after : Scheduler ω) : Prop where
  contents : after.queue.toList.Perm (entry :: before.queue.toList)
  live : after.roster.fate? entry.id = some .pending
  fates : ∀ id, id ≠ entry.id → after.roster.fate? id = before.roster.fate? id
  ready : before.raisesReady entry.due entry.work = true ↔ before.queue.toList = []
  interrupt : before.raisesInterrupt entry.due entry.work = true ↔
    before.queue.toList ≠ [] ∧ ∀ other ∈ before.queue.toList, entry.due < other.due
  /-- A wakeup that is raised is kept, with those that were kept before, and nothing else of the
  scheduler changes but what the acceptance changes. -/
  comes : after = { before.accept entry.due entry.work with
    ready := before.ready || before.raisesReady entry.due entry.work
    interrupt := before.interrupt || before.raisesInterrupt entry.due entry.work
    journal := if before.raisesInterrupt entry.due entry.work then
      before.journal.push (.preempts entry.id) else before.journal }
  first : before.raisesReady entry.due entry.work = true ∨
    before.raisesInterrupt entry.due entry.work = true → after.queue.peek? = some entry
  stays : before.raisesReady entry.due entry.work = false →
    before.raisesInterrupt entry.due entry.work = false →
      ∃ head, before.queue.peek? = some head ∧ after.queue.peek? = some head
  /-- An entry that is due at the same time as a queued one, or later, raises nothing and displaces
  nothing. -/
  tie : ∀ other ∈ before.queue.toList, other.due ≤ entry.due →
    before.raisesReady entry.due entry.work = false ∧
      before.raisesInterrupt entry.due entry.work = false ∧
      ∃ head, before.queue.peek? = some head ∧ after.queue.peek? = some head

variable {before after : Scheduler ω} {due : Int} {work : ω} {id : TaskId}

/-- The new entry is at the head of a queue that holds other entries. -/
def overtakes (scheduler : Scheduler ω) (id : TaskId) : Bool :=
  !decide (scheduler.size = 1) && scheduler.heads id

theorem announce_eq (scheduler : Scheduler ω) (id : TaskId) : scheduler.announce id =
    { scheduler with
      ready := scheduler.ready || decide (scheduler.size = 1)
      interrupt := scheduler.interrupt || scheduler.overtakes id
      journal := if scheduler.overtakes id then scheduler.journal.push (.preempts id)
        else scheduler.journal } := by
  unfold announce overtakes
  by_cases alone : scheduler.size = 1
  · simp [alone]
  · by_cases heads : scheduler.heads id = true
    · simp [alone, heads, note]
    · simp [alone, heads]

/-- What is raised, told by the head of the queue. -/
theorem raises_of_running (running : before.isStopped = false) (due : Int) (work : ω) :
    before.raisesReady due work = decide ((before.accept due work).size = 1) ∧
      before.raisesInterrupt due work =
        (before.accept due work).overtakes before.roster.nextId := by
  have still : before.hush.isStopped = false := running
  have hushed : before.hush.submit? due work = some (before.roster.nextId,
      (before.accept due work).hush.announce before.roster.nextId) := by
    rw [submit?, still]
    rfl
  rw [raisesReady, raisesInterrupt, hushed]
  simp only [Option.any_some, announce_eq]
  exact ⟨Bool.false_or _, Bool.false_or _⟩

theorem size_accept_eq_one_iff (scheduler : Scheduler ω) (due : Int) (work : ω) :
    (scheduler.accept due work).size = 1 ↔ scheduler.queue.toList = [] := by
  have size : (scheduler.accept due work).size = scheduler.queue.size + 1 := Heap.size_insert ..
  rw [size, ← List.length_eq_zero_iff, Heap.length_toList]
  omega

theorem peek?_accept_of_lt (earlier : ∀ other ∈ before.queue.toList, due < other.due) :
    (before.accept due work).queue.peek? = some ⟨due, before.roster.nextId, work⟩ :=
  Heap.peek?_insert_of_less fun other held => by simpa [Entry.before] using earlier other held

theorem raisesReady_iff (running : before.isStopped = false) :
    before.raisesReady due work = true ↔ before.queue.toList = [] := by
  rw [(raises_of_running running due work).1, decide_eq_true_eq, size_accept_eq_one_iff]

namespace Sound

theorem peek?_accept_of_le (sound : before.Sound) {other : Entry ω}
    (held : other ∈ before.queue.toList) (earlier : other.due ≤ due) :
    ∃ head, before.queue.peek? = some head ∧ (before.accept due work).queue.peek? = some head := by
  have kept : Entry.before ⟨due, before.roster.nextId, work⟩ other = false := by
    simpa [Entry.before] using earlier
  obtain ⟨same, occupied⟩ := Heap.peek?_insert_of_exists sound.stored.ordered held kept
  obtain ⟨head, seen⟩ := Option.ne_none_iff_exists'.1 occupied
  exact ⟨head, seen, same.trans seen⟩

theorem heads_accept_iff (sound : before.Sound) :
    (before.accept due work).heads before.roster.nextId = true ↔
      ∀ other ∈ before.queue.toList, due < other.due := by
  rw [Scheduler.heads]
  constructor
  · intro leads other held
    apply Int.not_le.1
    intro earlier
    obtain ⟨head, seen, still⟩ : ∃ head, before.queue.peek? = some head ∧
        (before.accept due work).queue.peek? = some head := sound.peek?_accept_of_le held earlier
    rw [still, Option.any_some, decide_eq_true_eq] at leads
    exact sound.stored.fresh ((Heap.toList_tail_perm seen).mem_iff.2 List.mem_cons_self) leads
  · intro earlier
    rw [peek?_accept_of_lt earlier, Option.any_some, decide_eq_true_eq]

theorem raisesInterrupt_iff (sound : before.Sound) (running : before.isStopped = false) :
    before.raisesInterrupt due work = true ↔
      before.queue.toList ≠ [] ∧ ∀ other ∈ before.queue.toList, due < other.due := by
  rw [(raises_of_running running due work).2, overtakes, Bool.and_eq_true, Bool.not_eq_true',
    decide_eq_false_iff_not, size_accept_eq_one_iff, sound.heads_accept_iff]

/-- Nothing is raised, and nothing displaced, by an entry that is not due before all others. -/
theorem tie_accept (sound : before.Sound) (running : before.isStopped = false) {other : Entry ω}
    (held : other ∈ before.queue.toList) (earlier : other.due ≤ due) :
    before.raisesReady due work = false ∧ before.raisesInterrupt due work = false ∧
      ∃ head, before.queue.peek? = some head ∧
        (before.accept due work).queue.peek? = some head := by
  refine ⟨?_, ?_, sound.peek?_accept_of_le held earlier⟩
  · rw [← Bool.not_eq_true, raisesReady_iff running]
    exact List.ne_nil_of_mem held
  · rw [← Bool.not_eq_true, sound.raisesInterrupt_iff running]
    exact fun leads => absurd earlier (Int.not_le.2 (leads.2 other held))

/-- Where nothing is raised, some entry is due no later than the new one. -/
theorem stays_accept (sound : before.Sound) (running : before.isStopped = false)
    (unready : before.raisesReady due work = false)
    (uninterrupted : before.raisesInterrupt due work = false) :
    ∃ head, before.queue.peek? = some head ∧ (before.accept due work).queue.peek? = some head := by
  have ready : before.raisesReady due work = true ↔ _ := raisesReady_iff running
  have occupied : before.queue.toList ≠ [] := by
    rw [ne_eq, ← ready, unready]
    exact Bool.false_ne_true
  have behind : ¬ ∀ other ∈ before.queue.toList, due < other.due := by
    intro leads
    rw [(sound.raisesInterrupt_iff running).2 ⟨occupied, leads⟩] at uninterrupted
    cases uninterrupted
  obtain ⟨other, refused⟩ := Classical.not_forall.1 behind
  obtain ⟨held, earlier⟩ := Classical.not_imp.1 refused
  exact sound.peek?_accept_of_le held (Int.not_lt.1 earlier)

end Sound

/-- What is raised is kept besides what was kept before. -/
theorem comes_of_submit? (accepted : before.submit? due work = some (id, after)) :
    after = { before.accept due work with
      ready := before.ready || before.raisesReady due work
      interrupt := before.interrupt || before.raisesInterrupt due work
      journal := if before.raisesInterrupt due work then before.journal.push (.preempts id)
        else before.journal } := by
  obtain ⟨running, rfl, _⟩ := eq_of_submit? accepted
  obtain ⟨ready, interrupt⟩ := raises_of_running running due work
  rw [submit?, running] at accepted
  have announced := congrArg Prod.snd (Option.some.inj accepted)
  rw [ready, interrupt]
  exact announced.symm.trans (announce_eq _ _)

theorem Sound.enqueues (sound : before.Sound)
    (accepted : before.submit? due work = some (id, after)) :
    Enqueues before ⟨due, id, work⟩ after := by
  have comes := comes_of_submit? accepted
  have queue : after.queue = (before.accept due work).queue := by rw [comes]
  have roster : after.roster = before.roster.accept := by rw [comes]; rfl
  obtain ⟨running, rfl, _⟩ := eq_of_submit? accepted
  constructor
  · rw [queue]
    exact Heap.toList_insert_perm ..
  · rw [roster, Roster.fate?_accept, if_pos rfl]
  · intro id different
    rw [roster, Roster.fate?_accept, if_neg different]
  · exact raisesReady_iff running
  · exact sound.raisesInterrupt_iff running
  · exact comes
  · intro raised
    rw [queue]
    apply peek?_accept_of_lt
    rcases raised with ready | interrupt
    · rw [(raisesReady_iff running).1 ready]
      exact List.forall_mem_nil _
    · exact ((sound.raisesInterrupt_iff running).1 interrupt).2
  · rw [queue]
    exact sound.stays_accept running
  · rw [queue]
    exact fun other held earlier => sound.tie_accept running held earlier

end Scheduler

namespace Run

variable {settings : Settings} {halted : Bool} {start now due : Int} {record : List Occurrence}
  {before after : Scheduler ω} {work : ω} {id : TaskId}

/-- Whatever has happened to a scheduler, a submission that it accepts is queued, raises the wakeup
that it calls for and no other one, and becomes the head only if it is due before all others. -/
theorem enqueues_of_submit?
    (run : Run ⟨start, Scheduler.start settings halted⟩ record ⟨now, before⟩)
    (accepted : before.submit? due work = some (id, after)) :
    before.Enqueues ⟨due, id, work⟩ after :=
  Scheduler.Sound.enqueues (run.sound (Scheduler.sound_start settings halted)) accepted

/-- The head is a cancelled entry, and `interrupt` is kept already.  A submission that is due at the
same time stays behind it, and one that is due earlier displaces it. -/
theorem enqueues_of_tie :
    ∃ (before tied ahead : Scheduler Unit) (head : Entry Unit),
      Run ⟨0, Scheduler.start {} false⟩
          [.accepted ⟨1⟩ 30, .accepted ⟨2⟩ 20, .cancelAnswered ⟨2⟩ true] ⟨0, before⟩ ∧
        before.queue.peek? = some head ∧ before.roster.fate? head.id = some .cancelled ∧
        head.due = 20 ∧ before.interrupt = true ∧
        before.submit? 20 () = some (⟨3⟩, tied) ∧ before.Enqueues ⟨20, ⟨3⟩, ()⟩ tied ∧
        tied.queue.peek? = some head ∧ before.raisesInterrupt 20 () = false ∧
        before.submit? 10 () = some (⟨3⟩, ahead) ∧ before.Enqueues ⟨10, ⟨3⟩, ()⟩ ahead ∧
        ahead.queue.peek? = some ⟨10, ⟨3⟩, ()⟩ ∧ before.raisesInterrupt 10 () = true := by
  obtain ⟨one, two, before, first, second, answer, shown, cancelled, kept, held, tie, lead⟩ :
      ∃ one two before : Scheduler Unit,
        (Scheduler.start {} false).submit? 30 () = some (⟨1⟩, one) ∧
        one.submit? 20 () = some (⟨2⟩, two) ∧ two.cancel ⟨2⟩ = (true, before) ∧
        before.queue.peek? = some ⟨20, ⟨2⟩, ()⟩ ∧ before.roster.fate? ⟨2⟩ = some .cancelled ∧
        before.interrupt = true ∧
        before.queue.toList = [⟨20, ⟨2⟩, ()⟩, ⟨30, ⟨1⟩, ()⟩] ∧
        before.submit? 20 () = some (⟨3⟩, (before.accept 20 ()).announce ⟨3⟩) ∧
        before.submit? 10 () = some (⟨3⟩, (before.accept 10 ()).announce ⟨3⟩) := by
    refine ⟨((Scheduler.start {} false).accept 30 ()).announce ⟨1⟩,
      ((((Scheduler.start {} false).accept 30 ()).announce ⟨1⟩).accept 20 ()).announce ⟨2⟩,
      (((((Scheduler.start {} false).accept 30 ()).announce ⟨1⟩).accept 20 ()).announce ⟨2⟩
        |>.cancel ⟨2⟩).2, ?_, ?_, ?_, ?_, ?_, ?_, ?_, ?_, ?_⟩ <;> cbv
  have run : Run ⟨0, Scheduler.start {} false⟩
      [.accepted ⟨1⟩ 30, .accepted ⟨2⟩ 20, .cancelAnswered ⟨2⟩ true] ⟨0, before⟩ := by
    have accepted : Run ⟨0, Scheduler.start {} false⟩ [.accepted ⟨1⟩ 30, .accepted ⟨2⟩ 20] ⟨0, two⟩ :=
      (Run.single (.submit first)).step (.submit second)
    have cancelled := accepted.step (.cancel two ⟨2⟩)
    rw [answer] at cancelled
    exact cancelled
  have behind := enqueues_of_submit? run tie
  have overtaking := enqueues_of_submit? run lead
  obtain ⟨_, quiet, head, seen, stays⟩ := behind.tie ⟨20, ⟨2⟩, ()⟩ (by simp [held]) (Int.le_refl _)
  cases shown.symm.trans seen
  have raised := overtaking.interrupt.2 (by simp [held])
  exact ⟨before, _, _, _, run, shown, cancelled, rfl, kept, tie, behind, stays, quiet, lead,
    overtaking, overtaking.first (.inr raised), raised⟩

end Run

end Agenda
