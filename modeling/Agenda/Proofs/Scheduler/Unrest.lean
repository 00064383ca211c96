import Agenda.Proofs.Scheduler.Acts
import Agenda.Proofs.Scheduler.Preempting
import Agenda.Proofs.Scheduler.Signalling
import Mathlib.Tactic.SplitIfs

/-!
# What is in store for a worker

At a standing clock a worker looks only as often as something is in store for it: a queued entry, a
kept wakeup, the stop signal, or the end of the task in its hands.  A look spends some of that, and
nothing but a submission that is accepted adds to it.
-/

namespace Agenda

universe u

variable {ω : Type u}

def Worker.unrest (worker : Worker ω) (halted : Bool) (now : Int) : Nat :=
  match worker with
  | .starting => 1
  | .looking => 1
  | .idle => halted.toNat
  | .asleep due => (halted || due ≤ now).toNat
  | .busy _ _ => 1
  | .exited => 0

namespace Scheduler

/-- The wakeups that are kept, and the stop signal that may still come. -/
def signals (scheduler : Scheduler ω) : Nat :=
  scheduler.ready.toNat + scheduler.interrupt.toNat + (!scheduler.halted).toNat

def load (scheduler : Scheduler ω) (now : Int) : Nat :=
  1 + scheduler.size + scheduler.signals + scheduler.worker.unrest scheduler.halted now

/-- A bound on the looks of the worker at the time `now`, if nothing is submitted.  A look that finds
the scheduler stopped and drained is the last one. -/
def unrest (scheduler : Scheduler ω) (now : Int) : Nat :=
  if scheduler.worker.isExited then 0
  else if scheduler.stopped && scheduler.isDrained then 1
  else scheduler.load now

def Act.isLook : Act ω → Bool
  | .look => true
  | _ => false

def Act.isSubmission : Act ω → Bool
  | .submit _ _ => true
  | _ => false

variable {now : Int} {before after : Scheduler ω}

theorem one_le_load (scheduler : Scheduler ω) (now : Int) : 1 ≤ scheduler.load now := by
  unfold load
  omega

theorem unrest_of_exited (exited : after.worker = .exited) : after.unrest now = 0 := by
  rw [unrest, exited]
  rfl

theorem unrest_le_load (scheduler : Scheduler ω) (now : Int) :
    scheduler.unrest now ≤ scheduler.load now := by
  have some := one_le_load scheduler now
  unfold unrest
  split_ifs <;> omega

theorem one_le_unrest (running : before.worker.isExited = false) : 1 ≤ before.unrest now := by
  have some := one_le_load before now
  rw [unrest, running]
  simp only [Bool.false_eq_true, if_false]
  split_ifs <;> omega

/-- Before a scheduler is stopped and drained, its unrest is its load. -/
theorem unrest_of_open (running : before.worker.isExited = false)
    (occupied : (before.stopped && before.isDrained) = false) :
    before.unrest now = before.load now := by
  rw [unrest, running, occupied]
  rfl

/-- Unless the scheduler comes to be open again, its unrest grows by no more than its load. -/
theorem unrest_le_of_load (more : Nat) (load : after.load now ≤ before.load now + more)
    (exited : before.worker.isExited = true → after.worker.isExited = true)
    (closed : (before.stopped && before.isDrained) = true →
      (after.stopped && after.isDrained) = true) :
    after.unrest now ≤ before.unrest now + more := by
  have some := one_le_load before now
  unfold unrest
  split_ifs <;> simp_all
  omega

/-- A scheduler that is stopped and drained has no unrest but the last look. -/
theorem unrest_le_of_closed (exited : before.worker.isExited = true → after.worker.isExited = true)
    (closed : (after.stopped && after.isDrained) = true) : after.unrest now ≤ before.unrest now := by
  have some := one_le_load before now
  unfold unrest
  split_ifs <;> simp_all

/-! ### Looks -/

theorem load_discard {head : Entry ω} {rest : TaskQueue ω}
    (popped : before.queue.pop? = some (head, rest)) :
    (before.discard head.id rest).load now < before.load now := by
  have shorter : rest.size + 1 = before.size := Heap.size_of_pop? popped
  have left : (before.discard head.id rest).size = rest.size :=
    congrArg Heap.size (queue_discard ..)
  simp only [load, signals, worker_discard, halted_discard, ready_discard, interrupt_discard, left]
  omega

/-- A choice ends the worker, or it spends some of what is in store. -/
theorem Chooses.exited_or_load_lt (chosen : Chooses now before after)
    (looking : before.worker = .looking) (live : before.halted = false) :
    after.worker = .exited ∨ ((before.stopped && before.isDrained) = false ∧
      after.load now < before.load now) := by
  have occupied {scheduler : Scheduler ω} {head : Entry ω} {rest : TaskQueue ω}
      (popped : scheduler.queue.pop? = some (head, rest)) :
      (scheduler.stopped && scheduler.isDrained) = false := by
    rw [Bool.and_eq_false_iff, ← Bool.not_eq_true scheduler.isDrained, isDrained_iff]
    have shorter := Heap.size_of_pop? popped
    exact .inr fun drained => by omega
  induction chosen with
  | exit _ _ => exact .inl rfl
  | idle _ running =>
      refine .inr ⟨by rw [running, Bool.false_and], ?_⟩
      simp [load, signals, Worker.unrest, looking, live, size]
  | sleep popped _ early =>
      refine .inr ⟨occupied popped, ?_⟩
      simp [load, signals, Worker.unrest, looking, live, size, early]
  | @begin scheduler head rest popped _ _ =>
      refine .inr ⟨occupied popped, ?_⟩
      have shorter : rest.size + 1 = scheduler.size := Heap.size_of_pop? popped
      have begun : (scheduler.begin head rest now).load now = 1 + rest.size + scheduler.signals + 1 :=
        rfl
      have stored : scheduler.load now = 1 + scheduler.size + scheduler.signals + 1 := by
        rw [load, looking]
        rfl
      omega
  | @discard scheduler last head rest popped _ _ inductionHypothesis =>
      refine (inductionHypothesis (by simpa using looking) (by simpa using live)).imp_right ?_
      exact fun onward => ⟨occupied popped, Nat.lt_trans onward.2 (load_discard popped)⟩

theorem unrest_look (looking : before.worker = .looking) :
    (before.look now).unrest now < before.unrest now := by
  have running : before.worker.isExited = false := by rw [looking]; rfl
  have some : 0 < before.unrest now := one_le_unrest running
  unfold look
  split
  · rwa [unrest_of_exited rfl]
  · rename_i live
    rcases (chooses_choose before now).exited_or_load_lt looking (by simpa using live) with
      exited | ⟨occupied, spent⟩
    · rwa [unrest_of_exited exited]
    · rw [unrest_of_open running occupied]
      exact Nat.lt_of_le_of_lt (unrest_le_load _ _) spent

/-! ### Other acts -/

theorem load_wake? (woke : before.wake? now = some after) : after.load now ≤ before.load now := by
  unfold wake? at woke
  split at woke
  · rename_i starting
    cases woke
    simp [load, signals, Worker.unrest, starting, size, note]
  · rename_i idle
    split at woke
    · rename_i halted
      cases woke
      simp [load, signals, Worker.unrest, idle, halted, size]
    · split at woke <;> cases woke
      rename_i live ready
      simp [load, signals, Worker.unrest, idle, live, ready, size]
  · rename_i due asleep
    split at woke
    · rename_i halted
      cases woke
      simp [load, signals, Worker.unrest, asleep, halted, size]
    · split at woke
      · rename_i live interrupt
        cases woke
        simp [load, signals, Worker.unrest, asleep, live, interrupt, size, note]
        omega
      · split at woke <;> cases woke
        rename_i reached
        simp [load, signals, Worker.unrest, asleep, reached, size]
  · cases woke

/-- Of the two wakeups one is raised at most. -/
theorem load_announce (scheduler : Scheduler ω) (id : TaskId) (now : Int) :
    (scheduler.announce id).load now ≤ scheduler.load now + 1 := by
  have told : (scheduler.announce id).load now = 1 + scheduler.size
      + ((scheduler.ready || decide (scheduler.size = 1)).toNat
        + (scheduler.interrupt || scheduler.overtakes id).toNat + (!scheduler.halted).toNat)
      + scheduler.worker.unrest scheduler.halted now := by
    rw [announce_eq]
    rfl
  have one (ready interrupt alone heads : Bool) :
      (ready || alone).toNat + (interrupt || (!alone && heads)).toNat ≤
        ready.toNat + interrupt.toNat + 1 := by
    cases ready <;> cases interrupt <;> cases alone <;> cases heads <;> decide
  have raised := one scheduler.ready scheduler.interrupt (decide (scheduler.size = 1))
    (scheduler.heads id)
  rw [told, overtakes, load, signals]
  omega

/-- A submission adds its entry, and the one wakeup that it raises. -/
theorem unrest_submit {due : Int} {work : ω} {id : TaskId}
    (accepted : before.submit? due work = some (id, after)) :
    after.unrest now ≤ before.unrest now + 2 := by
  unfold submit? at accepted
  split at accepted <;> cases accepted
  rename_i running
  have longer : (before.accept due work).size = before.size + 1 := Heap.size_insert ..
  have stored : (before.accept due work).load now = 1 + (before.accept due work).size
      + before.signals + before.worker.unrest before.halted now := rfl
  have raised := load_announce (before.accept due work) before.roster.nextId now
  refine unrest_le_of_load 2 ?_ (fun gone => ?_) fun closed => ?_
  · have full : before.load now = 1 + before.size + before.signals
        + before.worker.unrest before.halted now := rfl
    omega
  · rw [announce_eq]
    exact gone
  · simp only [isStopped, Bool.or_eq_true, not_or] at running
    exact absurd (Bool.and_eq_true_iff.1 closed).1 running.2

theorem unrest_halt (scheduler : Scheduler ω) (now : Int) :
    scheduler.halt.unrest now ≤ scheduler.unrest now := by
  refine unrest_le_of_load 0 ?_ id id
  cases halted : scheduler.halted with
  | true =>
      have same : scheduler.halt = scheduler := by rw [halt, ← halted]
      rw [same]
      exact Nat.le_refl _
  | false =>
      have more : scheduler.worker.unrest true now ≤ scheduler.worker.unrest false now + 1 := by
        cases scheduler.worker <;> simp [Worker.unrest]
      simp only [load, signals, halt, halted, size, Bool.not_true, Bool.not_false, Bool.toNat_true,
        Bool.toNat_false]
      omega

theorem unrest_congr (worker : after.worker = before.worker) (queue : after.queue = before.queue)
    (halted : after.halted = before.halted) (ready : after.ready = before.ready)
    (interrupt : after.interrupt = before.interrupt) (stopped : after.stopped = before.stopped) :
    after.unrest now = before.unrest now := by
  unfold unrest load isDrained isEmpty isRunning size signals
  rw [worker, queue, halted, ready, interrupt, stopped]

theorem unrest_stopInside (busy : before.worker.isBusy = true) :
    before.stopInside.unrest now ≤ before.unrest now := by
  unfold stopInside
  split
  · exact Nat.le_refl _
  · refine unrest_le_of_load 0 (Nat.le_refl _) id fun closed => ?_
    rw [Bool.and_eq_true, isDrained_iff, busy] at closed
    cases closed.2.2

theorem unrest_close (drained : before.isDrained = true) :
    before.close.unrest now ≤ before.unrest now := by
  refine unrest_le_of_closed ?_ ?_
  · unfold close
    split <;> exact id
  · rw [stopped_close, isDrained_close, drained]
    rfl

theorem unrest_wake? (woke : before.wake? now = some after) :
    after.unrest now ≤ before.unrest now := by
  have wakes := wakes_of_wake? woke
  refine unrest_le_of_load 0 (load_wake? woke) ?_ ?_
  · exact fun exited => absurd (Worker.isExited_iff.1 exited) wakes.ne_exited
  · rw [Bool.and_eq_true, Bool.and_eq_true, isDrained_iff, isDrained_iff, wakes.stopped, wakes.queue,
      wakes.worker]
    exact fun closed => ⟨closed.1, closed.2.1, rfl⟩

theorem unrest_finish {id : TaskId} {work : ω} (busy : before.worker = .busy id work) :
    before.finish.unrest now ≤ before.unrest now := by
  have same : before.finish.load now = before.load now := by
    simp only [load, signals, finish, size, worker_signalDrained, queue_signalDrained,
      halted_signalDrained, ready_signalDrained, interrupt_signalDrained, busy, Worker.unrest]
  have occupied : (before.stopped && before.isDrained) = false := by
    rw [Bool.and_eq_false_iff, ← Bool.not_eq_true before.isDrained, isDrained_iff, busy]
    exact .inr fun drained => absurd drained.2.symm Bool.false_ne_true
  rw [unrest_of_open (by rw [busy]; rfl) occupied, ← same]
  exact unrest_le_load _ _

theorem Act.unrest_le {act : Act ω} (done : act.result? now before = some after) :
    after.unrest now + act.isLook.toNat ≤ before.unrest now + 2 * act.isSubmission.toNat := by
  cases act with
  | submit due work =>
      obtain ⟨⟨id, _⟩, accepted, rfl⟩ := Option.map_eq_some_iff.1 done
      exact unrest_submit accepted
  | cancel id =>
      cases done
      exact Nat.le_of_eq (unrest_congr (by simp) (by simp) (by simp) (by simp) (by simp) (by simp))
  | disown id =>
      cases done
      exact Nat.le_refl _
  | halt =>
      cases done
      exact unrest_halt before now
  | stopInside =>
      obtain ⟨busy, same⟩ := Option.ite_none_right_eq_some.1 done
      cases same
      exact unrest_stopInside busy
  | close =>
      obtain ⟨drained, same⟩ := Option.ite_none_right_eq_some.1 done
      cases same
      exact unrest_close drained
  | join =>
      cases done
      exact Nat.le_refl _
  | look =>
      obtain ⟨looking, rfl⟩ := looking_of_result? done
      exact unrest_look looking
  | wake => exact unrest_wake? done
  | proceed rest =>
      obtain ⟨id, work, busy, rfl⟩ := busy_of_result? done
      refine Nat.le_of_eq ?_
      unfold unrest load isDrained isRunning
      rw [busy]
      rfl
  | fail message =>
      obtain ⟨id, work, _, rfl⟩ := busy_of_result? done
      unfold Scheduler.fail
      dsimp only
      split <;> exact Nat.le_refl _
  | finish =>
      obtain ⟨id, work, busy, rfl⟩ := busy_of_result? done
      exact unrest_finish busy

end Scheduler

end Agenda
