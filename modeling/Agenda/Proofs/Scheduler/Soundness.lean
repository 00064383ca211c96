import Agenda.Proofs.Heap.Repair
import Agenda.Proofs.Scheduler.Run

/-!
# The invariant of a scheduler

`Sound` ties the queue to the roster, and the place of the worker to the queue, the kept signals
and the flag.  A worker that parks has seen the queue; what happens behind its back either leaves
its reason to park alone or leaves a signal that wakes it.
-/

namespace Agenda

universe u

variable {ω : Type u}

instance : IsStrictWeakOrder (Entry ω) fun a b => Entry.before a b = true where
  irrefl a := by simp [Entry.before]
  trans a b c first second := by
    simp only [Entry.before, decide_eq_true_eq] at *
    omega
  incomp_trans a b c first second := by
    simp only [Entry.before, decide_eq_true_eq] at *
    omega

theorem Worker.isBusy_iff {worker : Worker ω} :
    worker.isBusy = true ↔ ∃ id work, worker = .busy id work := by
  cases worker <;> simp [Worker.isBusy]

namespace TaskQueue

variable {queue rest : TaskQueue ω} {head entry : Entry ω}

theorem isOrdered_of_pop? (ordered : queue.IsOrdered)
    (popped : queue.pop? = some (head, rest)) : rest.IsOrdered := by
  rw [(Heap.pop?_eq_some_iff.1 popped).2]
  exact Heap.isOrdered_tail ordered

theorem due_le_of_pop? (ordered : queue.IsOrdered) (popped : queue.pop? = some (head, rest))
    (held : entry ∈ queue.toList) : head.due ≤ entry.due := by
  have later := Heap.less_root ordered (Heap.pop?_eq_some_iff.1 popped).1 held
  simpa [Entry.before] using later

end TaskQueue

structure Stored (queue : TaskQueue ω) (roster : Roster) : Prop where
  ordered : queue.IsOrdered
  distinct : (queue.toList.map Entry.id).Nodup
  /-- A queued task has not begun. -/
  waiting : ∀ entry ∈ queue.toList,
    roster.fate? entry.id = some .pending ∨ roster.fate? entry.id = some .cancelled
  queued : ∀ id, roster.fate? id = some .pending → ∃ entry ∈ queue.toList, entry.id = id

namespace Stored

variable {queue rest : TaskQueue ω} {roster : Roster} {head entry : Entry ω}

theorem empty : Stored (Heap.empty : TaskQueue ω) {} where
  ordered := Heap.isOrdered_empty
  distinct := List.nodup_nil
  waiting := nofun
  queued := by
    intro id pending
    rw [Roster.fate?_empty] at pending
    cases pending

theorem known (stored : Stored queue roster) (held : entry ∈ queue.toList) :
    roster.fate? entry.id ≠ none := by
  rcases stored.waiting entry held with pending | cancelled
  · rw [pending]
    nofun
  · rw [cancelled]
    nofun

theorem fresh (stored : Stored queue roster) (held : entry ∈ queue.toList) :
    entry.id ≠ roster.nextId :=
  Roster.ne_nextId_of_known (stored.known held)

theorem accept (stored : Stored queue roster) (due : Int) (work : ω) :
    Stored (queue.insert ⟨due, roster.nextId, work⟩) roster.accept := by
  have filled := Heap.toList_insert_perm queue ⟨due, roster.nextId, work⟩
  constructor
  · exact Heap.isOrdered_insert stored.ordered _
  · rw [(filled.map Entry.id).nodup_iff, List.map_cons, List.nodup_cons]
    refine ⟨?_, stored.distinct⟩
    intro old
    obtain ⟨entry, held, same⟩ := List.mem_map.1 old
    exact stored.fresh held same
  · intro entry held
    rw [Roster.fate?_accept]
    split
    · exact .inl rfl
    · rename_i different
      rcases Heap.mem_insert_iff.1 held with new | old
      · rw [new] at different
        exact absurd rfl different
      · exact stored.waiting entry old
  · intro id pending
    rw [Roster.fate?_accept] at pending
    split at pending
    · rename_i new
      exact ⟨_, Heap.mem_insert_iff.2 (.inl rfl), new.symm⟩
    · obtain ⟨entry, held, same⟩ := stored.queued id pending
      exact ⟨entry, Heap.mem_insert_iff.2 (.inr held), same⟩

theorem cancel (stored : Stored queue roster) (id : TaskId) :
    Stored queue (roster.resolve id .cancelled) := by
  refine ⟨stored.ordered, stored.distinct, ?_, ?_⟩
  · intro entry held
    rw [Roster.fate?_resolve]
    split
    · exact .inr rfl
    · exact stored.waiting entry held
  · intro other pending
    rw [Roster.fate?_resolve] at pending
    split at pending
    · cases pending
    · exact stored.queued other pending

theorem tail (stored : Stored queue roster) (popped : queue.pop? = some (head, rest)) :
    rest.IsOrdered ∧ (rest.toList.map Entry.id).Nodup ∧
      ∀ entry ∈ rest.toList, entry.id ≠ head.id := by
  have taken := Heap.toList_pop?_perm popped
  have distinct := stored.distinct
  rw [(taken.map Entry.id).nodup_iff, List.map_cons, List.nodup_cons] at distinct
  refine ⟨TaskQueue.isOrdered_of_pop? stored.ordered popped, distinct.2, ?_⟩
  intro entry held same
  exact distinct.1 (List.mem_map.2 ⟨entry, held, same⟩)

theorem queued_tail (stored : Stored queue roster) (popped : queue.pop? = some (head, rest))
    {id : TaskId} (pending : roster.fate? id = some .pending) (different : id ≠ head.id) :
    ∃ entry ∈ rest.toList, entry.id = id := by
  obtain ⟨entry, held, same⟩ := stored.queued id pending
  rcases (Heap.mem_iff_of_pop? popped).1 held with first | later
  · rw [first] at same
    exact absurd same.symm different
  · exact ⟨entry, later, same⟩

theorem mem_of_pop? (popped : queue.pop? = some (head, rest)) (held : entry ∈ rest.toList) :
    entry ∈ queue.toList :=
  (Heap.mem_iff_of_pop? popped).2 (.inr held)

theorem head_mem (popped : queue.pop? = some (head, rest)) : head ∈ queue.toList :=
  (Heap.mem_iff_of_pop? popped).2 (.inl rfl)

theorem discard (stored : Stored queue roster) (popped : queue.pop? = some (head, rest))
    (resolved : roster.fate? head.id ≠ some .pending) : Stored rest roster := by
  obtain ⟨ordered, distinct, _⟩ := stored.tail popped
  refine ⟨ordered, distinct, ?_, ?_⟩
  · intro entry held
    exact stored.waiting entry (mem_of_pop? popped held)
  · intro id pending
    apply stored.queued_tail popped pending
    intro same
    rw [same] at pending
    exact resolved pending

theorem begin (stored : Stored queue roster) (popped : queue.pop? = some (head, rest)) :
    Stored rest (roster.resolve head.id .fired) := by
  obtain ⟨ordered, distinct, apart⟩ := stored.tail popped
  refine ⟨ordered, distinct, ?_, ?_⟩
  · intro entry held
    rw [Roster.fate?_resolve_of_ne _ (apart entry held)]
    exact stored.waiting entry (mem_of_pop? popped held)
  · intro id pending
    rw [Roster.fate?_resolve] at pending
    split at pending
    · cases pending
    · rename_i kept
      apply stored.queued_tail popped pending
      intro same
      subst same
      exact kept ⟨rfl, pending⟩

theorem abandon (stored : Stored queue roster) :
    Stored (Heap.empty : TaskQueue ω)
      ((queue.toList.map Entry.id).foldl (fun roster id => roster.resolve id .cancelled) roster) := by
  refine ⟨Heap.isOrdered_empty, List.nodup_nil, nofun, ?_⟩
  intro id pending
  rw [Roster.fate?_cancelAll] at pending
  split at pending
  · cases pending
  · rename_i kept
    obtain ⟨entry, held, same⟩ := stored.queued id pending
    exact absurd ⟨List.mem_map.2 ⟨entry, held, same⟩, pending⟩ kept

theorem head_due_le (stored : Stored queue roster) (popped : queue.pop? = some (head, rest))
    (held : entry ∈ queue.toList) : head.due ≤ entry.due :=
  TaskQueue.due_le_of_pop? stored.ordered popped held

end Stored

namespace Scheduler

structure Sound (scheduler : Scheduler ω) : Prop where
  stored : Stored scheduler.queue scheduler.roster
  idle : scheduler.worker = .idle →
    scheduler.ready = true ∨ scheduler.queue.size = 0 ∧ scheduler.stopped = false
  asleep : ∀ {due}, scheduler.worker = .asleep due →
    scheduler.queue.size ≠ 0 ∧
      (scheduler.interrupt = true ∨ ∀ entry ∈ scheduler.queue.toList, due ≤ entry.due)
  busy : ∀ {id work}, scheduler.worker = .busy id work →
    scheduler.roster.fate? id = some .fired
  exited : scheduler.worker = .exited → scheduler.queue.size = 0 ∧ scheduler.stopped = true

variable {scheduler : Scheduler ω}

theorem sound_start (settings : Settings) (halted : Bool) :
    (start settings halted : Scheduler ω).Sound :=
  ⟨.empty, nofun, nofun, nofun, nofun⟩

namespace Sound

theorem congr {after : Scheduler ω} (sound : scheduler.Sound)
    (queue : after.queue = scheduler.queue) (roster : after.roster = scheduler.roster)
    (worker : after.worker = scheduler.worker) (stopped : after.stopped = scheduler.stopped)
    (ready : after.ready = scheduler.ready) (interrupt : after.interrupt = scheduler.interrupt) :
    after.Sound := by
  obtain ⟨stored, idle, asleep, busy, exited⟩ := sound
  constructor <;> simp only [queue, roster, worker, stopped, ready, interrupt] <;> assumption

theorem note (sound : scheduler.Sound) (notice : Notice) : (scheduler.note notice).Sound :=
  sound.congr rfl rfl rfl rfl rfl rfl

theorem signalDrained (sound : scheduler.Sound) : scheduler.signalDrained.Sound :=
  sound.congr (by simp) (by simp) (by simp) (by simp) (by simp) (by simp)

theorem disown (sound : scheduler.Sound) (id : TaskId) : (scheduler.disown id).2.Sound :=
  sound.note _

theorem halt (sound : scheduler.Sound) : scheduler.halt.Sound :=
  sound.congr rfl rfl rfl rfl rfl rfl

theorem join (sound : scheduler.Sound) : scheduler.join.Sound :=
  sound.congr rfl rfl rfl rfl rfl rfl

theorem fail (sound : scheduler.Sound) (id : TaskId) (message : String) :
    (scheduler.fail id message).Sound := by
  unfold Scheduler.fail
  dsimp only
  split
  · exact (sound.note _).note _
  · exact sound.note _

theorem stopInside (sound : scheduler.Sound) (running : scheduler.worker.isBusy = true) :
    scheduler.stopInside.Sound := by
  obtain ⟨id, work, busy⟩ := Worker.isBusy_iff.1 running
  unfold Scheduler.stopInside
  split
  · exact sound
  · apply Sound.note
    refine ⟨sound.stored, ?_, sound.asleep, sound.busy, ?_⟩
    · intro idle
      cases busy.symm.trans idle
    · intro exited
      cases busy.symm.trans exited

theorem close (sound : scheduler.Sound) : scheduler.close.Sound := by
  unfold Scheduler.close
  split
  · exact ⟨sound.stored, fun _ => .inl rfl, sound.asleep, sound.busy, sound.exited⟩
  · apply Sound.note
    refine ⟨sound.stored, fun _ => .inl rfl, sound.asleep, sound.busy, ?_⟩
    intro exited
    exact ⟨(sound.exited exited).1, rfl⟩

theorem wake (sound : scheduler.Sound) {after : Scheduler ω} (wakes : Wakes scheduler after) :
    after.Sound := by
  have looking := wakes.worker
  constructor
  · rw [wakes.queue, wakes.roster]
    exact sound.stored
  all_goals
    rw [looking]
    nofun

theorem proceed (sound : scheduler.Sound) {id : TaskId} {work : ω}
    (running : scheduler.worker = .busy id work) (rest : ω) :
    (scheduler.proceed id rest).Sound := by
  refine ⟨sound.stored, nofun, nofun, ?_, nofun⟩
  intro other work same
  cases same
  exact sound.busy running

theorem finish (sound : scheduler.Sound) : scheduler.finish.Sound :=
  signalDrained ⟨sound.stored, nofun, nofun, nofun, nofun⟩

theorem cancel (sound : scheduler.Sound) (id : TaskId) : (scheduler.cancel id).2.Sound := by
  constructor
  · rw [queue_cancel, roster_cancel]
    exact sound.stored.cancel id
  · simpa using sound.idle
  · intro due asleep
    rw [worker_cancel] at asleep
    rw [queue_cancel, interrupt_cancel]
    exact sound.asleep asleep
  · intro other work running
    rw [worker_cancel] at running
    have fired := sound.busy running
    rw [roster_cancel, Roster.fate?_resolve]
    split
    · rename_i pending
      rw [pending.1, pending.2] at fired
      cases fired
    · exact fired
  · simpa using sound.exited

/-- An accepted task that does not go to the head is due no earlier than some other one. -/
theorem le_due_of_not_heads (sound : scheduler.Sound) {due bound : Int} {work : ω}
    (behind : ¬ (scheduler.accept due work).heads scheduler.roster.nextId = true)
    (later : ∀ entry ∈ scheduler.queue.toList, bound ≤ entry.due) : bound ≤ due := by
  have filled := Heap.toList_insert_perm scheduler.queue ⟨due, scheduler.roster.nextId, work⟩
  cases seen : (scheduler.accept due work).queue.peek? with
  | none =>
      have vacant := Heap.peek?_eq_none_iff.1 seen
      simp [Scheduler.accept] at vacant
  | some root =>
      have other : root.id ≠ scheduler.roster.nextId := by
        intro same
        simp [heads, seen, same] at behind
      have ordered := (sound.stored.accept due work).ordered
      have lower := Heap.less_root ordered seen (Heap.mem_insert_iff.2 (.inl rfl))
      simp only [Entry.before, decide_eq_false_iff_not, Int.not_lt] at lower
      have held := filled.mem_iff.1 (Heap.toList_tail_perm seen |>.mem_iff.2 List.mem_cons_self)
      rcases List.mem_cons.1 held with new | old
      · rw [new] at other
        exact absurd rfl other
      · exact Int.le_trans (later root old) lower

/-- An acceptance leaves a parked worker with a reason to stay parked or a signal to wake. -/
theorem submit (sound : scheduler.Sound) {due : Int} {work : ω} {id : TaskId}
    {after : Scheduler ω} (accepted : scheduler.submit? due work = some (id, after)) :
    after.Sound := by
  unfold submit? isStopped at accepted
  split at accepted
  · cases accepted
  · rename_i running
    cases accepted
    have stored := sound.stored.accept due work
    have size := Heap.size_insert scheduler.queue ⟨due, scheduler.roster.nextId, work⟩
    have busy : ∀ {id work}, scheduler.worker = .busy id work →
        scheduler.roster.accept.fate? id = some .fired := by
      intro other work running
      exact Roster.fate?_accept_of_some (sound.busy running)
    have exited (past : scheduler.worker = .exited) : False := by
      simp [(sound.exited past).2] at running
    unfold announce
    split
    · rename_i alone
      refine ⟨stored, fun _ => .inl rfl, ?_, busy, fun past => (exited past).elim⟩
      intro bound asleep
      have occupied := (sound.asleep asleep).1
      simp only [Scheduler.accept, Scheduler.size] at alone
      omega
    · rename_i more
      have idle (parked : scheduler.worker = .idle) : scheduler.ready = true := by
        rcases sound.idle parked with ready | ⟨vacant, _⟩
        · exact ready
        · simp only [Scheduler.accept, Scheduler.size] at more
          omega
      have occupied : (scheduler.accept due work).queue.size ≠ 0 := by
        simp only [Scheduler.accept]
        omega
      split
      · apply Sound.note
        exact ⟨stored, fun parked => .inl (idle parked), fun _ => ⟨occupied, .inl rfl⟩, busy,
          fun past => (exited past).elim⟩
      · rename_i behind
        refine ⟨stored, fun parked => .inl (idle parked), ?_, busy, fun past => (exited past).elim⟩
        intro bound asleep
        refine ⟨occupied, ?_⟩
        rcases (sound.asleep asleep).2 with interrupt | later
        · exact .inl interrupt
        · right
          intro entry held
          rcases Heap.mem_insert_iff.1 held with new | old
          · rw [new]
            exact sound.le_due_of_not_heads behind later
          · exact later entry old

theorem discard (sound : scheduler.Sound) (looking : scheduler.worker = .looking)
    {head : Entry ω} {rest : TaskQueue ω} (popped : scheduler.queue.pop? = some (head, rest))
    (resolved : scheduler.roster.fate? head.id ≠ some .pending) :
    (scheduler.discard head.id rest).Sound := by
  apply signalDrained
  apply Sound.note
  refine ⟨sound.stored.discard popped resolved, ?_, ?_, ?_, ?_⟩ <;> simp [looking]

theorem choose (sound : scheduler.Sound) (looking : scheduler.worker = .looking) {now : Int}
    {after : Scheduler ω} (chosen : Chooses now scheduler after) : after.Sound := by
  induction chosen with
  | exit vacant stopped =>
      apply Sound.note
      exact ⟨sound.stored, nofun, nofun, nofun, fun _ => ⟨Heap.pop?_eq_none_iff.1 vacant, stopped⟩⟩
  | idle vacant stopped =>
      exact ⟨sound.stored, fun _ => .inr ⟨Heap.pop?_eq_none_iff.1 vacant, stopped⟩, nofun, nofun,
        nofun⟩
  | sleep popped pending early =>
      refine ⟨sound.stored, nofun, ?_, nofun, nofun⟩
      intro due asleep
      cases asleep
      refine ⟨?_, .inr fun entry held => sound.stored.head_due_le popped held⟩
      have shorter := Heap.size_of_pop? popped
      dsimp only
      omega
  | begin popped pending due =>
      apply Sound.note
      refine ⟨sound.stored.begin popped, nofun, nofun, ?_, nofun⟩
      intro id work running
      cases running
      exact Roster.fate?_resolve_self pending _
  | discard popped resolved _ inductionHypothesis =>
      exact inductionHypothesis (sound.discard looking popped resolved) (by simpa using looking)

theorem look (sound : scheduler.Sound) (looking : scheduler.worker = .looking) (now : Int) :
    (scheduler.look now).Sound := by
  unfold Scheduler.look
  split
  · apply Sound.note
    apply Sound.note
    exact ⟨sound.stored.abandon, nofun, nofun, nofun, fun _ => ⟨rfl, rfl⟩⟩
  · exact sound.choose looking (chooses_choose scheduler now)

theorem step (sound : scheduler.Sound) {now : Int} {occurred : List Occurrence}
    {after : Scheduler ω} (step : scheduler.Step now occurred after) : after.Sound := by
  cases step with
  | submit accepted => exact sound.submit accepted
  | cancel id => exact sound.cancel id
  | disown id => exact sound.disown id
  | halt => exact sound.halt
  | stopInside running => exact sound.stopInside running
  | close _ => exact sound.close
  | join => exact sound.join
  | look looking => exact sound.look looking now
  | wake woke => exact sound.wake (wakes_of_wake? woke)
  | proceed rest running => exact sound.proceed running rest
  | fail message _ => exact sound.fail _ message
  | finish _ => exact sound.finish

end Sound

end Scheduler

theorem Run.sound {first last : Moment ω} {record : List Occurrence} (run : Run first record last)
    (start : first.scheduler.Sound) : last.scheduler.Sound :=
  run.keeps (fun sound step => sound.step step) start

end Agenda
