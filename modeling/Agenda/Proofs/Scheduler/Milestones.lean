import Agenda.Proofs.Scheduler.Closing
import Agenda.Proofs.Scheduler.Departures

/-!
# The milestones of a scheduler

Five kinds of notices tell of the scheduler itself and not of its tasks: that its worker has started,
that it was asked to stop, from inside or from outside, that its worker has given up the queue, and that
its worker has exited.  A scheduler comes to each at most once, and in one order, but for a caller from
outside who may shut it down before its worker has come up.
-/

namespace Agenda

universe u

variable {ω : Type u}

namespace Notice

def asksToStop : Notice → Bool
  | .stopping _ => true
  | .shuttingDown => true
  | _ => false

theorem asksToStop_iff {notice : Notice} : notice.asksToStop = true ↔
    notice = .shuttingDown ∨ ∃ queued, notice = .stopping queued := by
  cases notice <;> simp [asksToStop]

def isAbandonment : Notice → Bool
  | .abandoned _ => true
  | _ => false

/-- The notice tells of the scheduler and not of a task. -/
def isMilestone : Notice → Bool
  | .started => true
  | .stopped => true
  | notice => notice.asksToStop || notice.isAbandonment

end Notice

inductive Phase where
  | starting
  | live
  | exited
  deriving DecidableEq

def Worker.phase : Worker ω → Phase
  | .starting => .starting
  | .exited => .exited
  | _ => .live

/-- The milestones up to where the worker runs and the scheduler is stopped or not. -/
inductive Opening : (stopped : Bool) → List Notice → Prop where
  | running : Opening false [.started]
  | asked {request : Notice} : request.asksToStop = true → Opening true [.started, request]
  /-- Somebody shut the scheduler down before its worker came up. -/
  | forestalled : Opening true [.shuttingDown, .started]

/-- The milestones that a scheduler can have come to, by where its worker is. -/
inductive Life : Phase → (stopped : Bool) → List Notice → Prop where
  | waiting : Life .starting false []
  | forestalled : Life .starting true [.shuttingDown]
  | opened {stopped : Bool} {opening : List Notice} :
      Opening stopped opening → Life .live stopped opening
  | drained {opening : List Notice} :
      Opening true opening → Life .exited true (opening ++ [.stopped])
  | abandoned {stopped : Bool} {opening : List Notice} (ids : List TaskId) :
      Opening stopped opening → Life .exited true (opening ++ [.abandoned ids, .stopped])

theorem Worker.phase_of_isBusy {worker : Worker ω} (busy : worker.isBusy = true) :
    worker.phase = .live := by
  obtain ⟨id, work, rfl⟩ := Worker.isBusy_iff.1 busy
  rfl

theorem Worker.phase_eq_exited_iff {worker : Worker ω} : worker.phase = .exited ↔ worker = .exited := by
  cases worker <;> simp [Worker.phase]

theorem Worker.phase_eq_starting_iff {worker : Worker ω} :
    worker.phase = .starting ↔ worker = .starting := by
  cases worker <;> simp [Worker.phase]

namespace Opening

variable {stopped : Bool} {opening : List Notice}

theorem count_started (opens : Opening stopped opening) : opening.count .started = 1 := by
  cases opens with
  | asked asks => obtain rfl | ⟨queued, rfl⟩ := Notice.asksToStop_iff.1 asks <;> rfl
  | _ => rfl

theorem count_stopped (opens : Opening stopped opening) : opening.count .stopped = 0 := by
  cases opens with
  | asked asks => obtain rfl | ⟨queued, rfl⟩ := Notice.asksToStop_iff.1 asks <;> rfl
  | _ => rfl

theorem countP_asksToStop (opens : Opening stopped opening) :
    opening.countP Notice.asksToStop = stopped.toNat := by
  cases opens with
  | asked asks => obtain rfl | ⟨queued, rfl⟩ := Notice.asksToStop_iff.1 asks <;> rfl
  | _ => rfl

theorem countP_isAbandonment (opens : Opening stopped opening) :
    opening.countP Notice.isAbandonment = 0 := by
  cases opens with
  | asked asks => obtain rfl | ⟨queued, rfl⟩ := Notice.asksToStop_iff.1 asks <;> rfl
  | _ => rfl

theorem abandoned_not_mem (opens : Opening stopped opening) (ids : List TaskId) :
    .abandoned ids ∉ opening := by
  intro given
  have some : 0 < opening.countP Notice.isAbandonment := List.countP_pos_iff.2 ⟨_, given, rfl⟩
  rw [opens.countP_isAbandonment] at some
  exact absurd some (Nat.lt_irrefl 0)

end Opening

namespace Life

variable {phase : Phase} {stopped : Bool} {milestones : List Notice}

theorem ask (life : Life phase false milestones) {request : Notice}
    (asks : request.asksToStop = true) (fits : phase = .starting → request = .shuttingDown) :
    Life phase true (milestones ++ [request]) := by
  cases life with
  | waiting =>
      rw [fits rfl]
      exact .forestalled
  | opened opens =>
      cases opens with
      | running => exact .opened (.asked asks)

theorem start (life : Life .starting stopped milestones) :
    Life .live stopped (milestones ++ [.started]) := by
  cases life with
  | waiting => exact .opened .running
  | forestalled => exact .opened .forestalled

theorem drain (life : Life .live true milestones) :
    Life .exited true (milestones ++ [.stopped]) := by
  cases life with
  | opened opens => exact .drained opens

theorem abandon (life : Life .live stopped milestones) (ids : List TaskId) :
    Life .exited true (milestones ++ [.abandoned ids, .stopped]) := by
  cases life with
  | opened opens => exact .abandoned ids opens

theorem stopped_of_exited (life : Life .exited stopped milestones) : stopped = true := by
  cases life <;> rfl

/-- Whoever has given up the queue has left. -/
theorem exited_of_abandoned (life : Life phase stopped milestones) {ids : List TaskId}
    (given : .abandoned ids ∈ milestones) : phase = .exited := by
  cases life with
  | waiting | forestalled => simp at given
  | opened opens => exact absurd given (opens.abandoned_not_mem ids)
  | _ => rfl

theorem phase_of_nil (life : Life phase stopped []) : phase = .starting := by
  generalize same : ([] : List Notice) = milestones at life
  cases life with
  | waiting => rfl
  | forestalled => cases same
  | opened opens => cases opens <;> cases same
  | drained opens | abandoned ids opens =>
      exact absurd same.symm (List.append_ne_nil_of_right_ne_nil _ (List.cons_ne_nil _ _))

theorem eq_nil_of_starting (life : Life .starting false milestones) : milestones = [] := by
  cases life
  rfl

/-- Only a shutdown from outside can come before the start of the worker. -/
theorem started_first (life : Life phase stopped milestones) (up : phase ≠ .starting) :
    ∃ rest, milestones = .started :: rest ∨ milestones = .shuttingDown :: .started :: rest := by
  cases life with
  | waiting | forestalled => exact absurd rfl up
  | opened opens | drained opens | abandoned ids opens =>
      cases opens with
      | forestalled => exact ⟨_, .inr rfl⟩
      | _ => exact ⟨_, .inl rfl⟩

theorem count_started (life : Life phase stopped milestones) :
    milestones.count .started = if phase = .starting then 0 else 1 := by
  cases life with
  | waiting | forestalled => rfl
  | opened opens => exact opens.count_started
  | drained opens | abandoned ids opens => simp [opens.count_started]

theorem count_stopped (life : Life phase stopped milestones) :
    milestones.count .stopped = if phase = .exited then 1 else 0 := by
  cases life with
  | waiting | forestalled => rfl
  | opened opens => exact opens.count_stopped
  | drained opens | abandoned ids opens => simp [opens.count_stopped]

theorem countP_asksToStop_le (life : Life phase stopped milestones) :
    milestones.countP Notice.asksToStop ≤ 1 := by
  cases life with
  | waiting | forestalled => simp [Notice.asksToStop]
  | opened opens | drained opens | abandoned ids opens =>
      simp [opens.countP_asksToStop, Notice.asksToStop, Bool.toNat_le]

theorem countP_isAbandonment_le (life : Life phase stopped milestones) :
    milestones.countP Notice.isAbandonment ≤ 1 := by
  cases life with
  | waiting | forestalled => simp [Notice.isAbandonment]
  | opened opens | drained opens => simp [opens.countP_isAbandonment, Notice.isAbandonment]
  | abandoned ids opens =>
      rw [List.countP_append, opens.countP_isAbandonment]
      rfl

end Life

namespace Scheduler

variable {before after : Scheduler ω} {now : Int}

def milestones (scheduler : Scheduler ω) : List Notice :=
  scheduler.journal.toList.filter Notice.isMilestone

def arrival (scheduler : Scheduler ω) : List Notice :=
  match scheduler.worker with
  | .starting => [.started]
  | _ => []

/-- What a call that stops a scheduler notes: nothing if the scheduler is stopped already. -/
def request (scheduler : Scheduler ω) (notice : Notice) : List Notice :=
  if scheduler.stopped then [] else [notice]

/-- What a look of the worker notes if the worker exits. -/
def farewell (scheduler : Scheduler ω) (now : Int) : List Notice :=
  if scheduler.halted then [.abandoned scheduler.waiting, .stopped]
  else if (scheduler.choose now).worker.isExited then [.stopped]
  else []

def Lives (scheduler : Scheduler ω) : Prop :=
  Life scheduler.worker.phase scheduler.stopped scheduler.milestones

theorem milestones_note (scheduler : Scheduler ω) (notice : Notice) :
    (scheduler.note notice).milestones =
      scheduler.milestones ++ [notice].filter Notice.isMilestone := by
  rw [milestones, note, Array.toList_push, List.filter_append]
  rfl

theorem milestones_of_note {notice : Notice} (task : notice.isMilestone = false)
    (journal : before.milestones = after.milestones) :
    (before.note notice).milestones = after.milestones := by
  rw [milestones_note, List.filter_cons_of_neg (by simp [task]), journal]
  exact List.append_nil _

@[simp]
theorem milestones_signalDrained (scheduler : Scheduler ω) :
    scheduler.signalDrained.milestones = scheduler.milestones := by
  unfold signalDrained
  split <;> rfl

@[simp]
theorem milestones_join (scheduler : Scheduler ω) :
    scheduler.join.milestones = scheduler.milestones := rfl

@[simp]
theorem milestones_proceed (scheduler : Scheduler ω) (id : TaskId) (work : ω) :
    (scheduler.proceed id work).milestones = scheduler.milestones := rfl

@[simp]
theorem milestones_disown (scheduler : Scheduler ω) (id : TaskId) :
    (scheduler.disown id).2.milestones = scheduler.milestones :=
  milestones_of_note rfl rfl

@[simp]
theorem milestones_cancel (scheduler : Scheduler ω) (id : TaskId) :
    (scheduler.cancel id).2.milestones = scheduler.milestones := by
  unfold cancel
  split
  · exact milestones_of_note rfl rfl
  · rfl

@[simp]
theorem milestones_fail (scheduler : Scheduler ω) (id : TaskId) (message : String) :
    (scheduler.fail id message).milestones = scheduler.milestones := by
  unfold fail
  dsimp only
  split
  · exact milestones_of_note rfl (milestones_of_note rfl rfl)
  · exact milestones_of_note rfl rfl

@[simp]
theorem milestones_finish (scheduler : Scheduler ω) :
    scheduler.finish.milestones = scheduler.milestones :=
  milestones_signalDrained _

theorem milestones_submit? {due : Int} {work : ω} {id : TaskId}
    (accepted : before.submit? due work = some (id, after)) :
    after.milestones = before.milestones := by
  unfold submit? at accepted
  split at accepted <;> cases accepted
  unfold announce
  split
  · rfl
  · split
    · exact milestones_of_note rfl rfl
    · rfl

theorem Wakes.milestones (wakes : Wakes before after) :
    after.milestones = before.milestones ++ before.arrival := by
  by_cases starting : before.worker = .starting
  · rw [Scheduler.milestones, wakes.started starting, arrival, starting]
    exact milestones_note before .started
  · have silent : before.arrival = [] := by
      rcases wakes.dormant with worker | worker | ⟨due, worker⟩
      · exact absurd worker starting
      all_goals rw [arrival, worker]
    rw [silent, List.append_nil]
    rcases wakes.woken starting with same | pushed
    · rw [Scheduler.milestones, same]
      rfl
    · have woken : (before.note .wokeEarly).milestones = before.milestones :=
        milestones_of_note rfl rfl
      rw [Scheduler.milestones, pushed]
      exact woken

theorem milestones_stopInside (scheduler : Scheduler ω) :
    scheduler.stopInside.milestones =
      scheduler.milestones ++ scheduler.request (.stopping scheduler.size) := by
  unfold stopInside request
  split
  · exact (List.append_nil _).symm
  · exact milestones_note _ _

theorem milestones_close (scheduler : Scheduler ω) :
    scheduler.close.milestones = scheduler.milestones ++ scheduler.request .shuttingDown := by
  unfold close request
  split
  · exact (List.append_nil _).symm
  · exact milestones_note _ _

theorem stopped_stopInside (scheduler : Scheduler ω) : scheduler.stopInside.stopped = true := by
  unfold stopInside
  split
  · rename_i stopped
    exact stopped
  · rfl

theorem worker_stopInside (scheduler : Scheduler ω) :
    scheduler.stopInside.worker = scheduler.worker := by
  unfold stopInside
  split <;> rfl

theorem worker_close (scheduler : Scheduler ω) : scheduler.close.worker = scheduler.worker := by
  unfold close
  split <;> rfl

theorem milestones_abandon (scheduler : Scheduler ω) :
    scheduler.abandon.milestones =
      scheduler.milestones ++ [.abandoned scheduler.waiting, .stopped] := by
  rw [abandon, milestones_note, milestones_note, List.append_assoc]
  rfl

theorem Chooses.milestones (chosen : Chooses now before after) :
    after.milestones = before.milestones ++ if after.worker.isExited then [.stopped] else [] := by
  induction chosen with
  | exit _ _ => exact milestones_note _ _
  | idle _ _ => exact (List.append_nil _).symm
  | sleep _ _ _ => exact (List.append_nil _).symm
  | begin _ _ _ => exact (milestones_of_note rfl rfl).trans (List.append_nil _).symm
  | discard _ _ _ inductionHypothesis =>
      rw [inductionHypothesis, Scheduler.discard, milestones_signalDrained]
      congr 1
      exact milestones_of_note rfl rfl

theorem milestones_look (scheduler : Scheduler ω) (now : Int) :
    (scheduler.look now).milestones = scheduler.milestones ++ scheduler.farewell now := by
  unfold look farewell
  split
  · exact milestones_abandon scheduler
  · exact (chooses_choose scheduler now).milestones

theorem mem_arrival_iff {scheduler : Scheduler ω} {notice : Notice} :
    notice ∈ scheduler.arrival ↔ scheduler.worker = .starting ∧ notice = .started := by
  unfold arrival
  split
  · rename_i starting
    simp [starting]
  · rename_i up
    exact iff_of_false List.not_mem_nil fun noted => up noted.1

theorem mem_request_iff {scheduler : Scheduler ω} {notice other : Notice} :
    other ∈ scheduler.request notice ↔ scheduler.stopped = false ∧ other = notice := by
  rw [request, List.mem_ite_nil_left, Bool.not_eq_true, List.mem_singleton]

theorem abandoned_mem_farewell_iff {scheduler : Scheduler ω} {ids : List TaskId} :
    .abandoned ids ∈ scheduler.farewell now ↔
      scheduler.halted = true ∧ ids = scheduler.waiting := by
  unfold farewell
  split
  · rename_i halted
    simp [halted]
  · rename_i running
    split <;> simp [running]

theorem asksToStop_of_mem_farewell {scheduler : Scheduler ω} {notice : Notice}
    (noted : notice ∈ scheduler.farewell now) : notice.asksToStop = false := by
  unfold farewell at noted
  split at noted
  · rcases List.mem_pair.1 noted with rfl | rfl <;> rfl
  · rw [List.mem_singleton.1 (List.mem_ite_nil_right.1 noted).2]
    rfl

/-- A choice stops nothing, and ends with the exit only of a worker whose scheduler is stopped. -/
theorem Chooses.stopped (chosen : Chooses now before after) :
    after.stopped = before.stopped ∧ (after.worker = .exited → before.stopped = true) := by
  induction chosen with
  | exit _ stopped => exact ⟨rfl, fun _ => stopped⟩
  | idle _ _ => exact ⟨rfl, nofun⟩
  | sleep _ _ _ => exact ⟨rfl, nofun⟩
  | begin _ _ _ => exact ⟨rfl, nofun⟩
  | discard _ _ _ inductionHypothesis =>
      rw [stopped_discard] at inductionHypothesis
      exact inductionHypothesis

theorem Chooses.phase (chosen : Chooses now before after) (looking : before.worker = .looking)
    (live : after.worker.isExited = false) : after.worker.phase = .live := by
  induction chosen with
  | exit _ _ => cases live
  | discard _ _ _ inductionHypothesis =>
      exact inductionHypothesis ((worker_discard _ _ _).trans looking) live
  | _ => rfl

theorem lives_start (settings : Settings) (halted : Bool) :
    (start settings halted : Scheduler ω).Lives := .waiting

namespace Lives

theorem congr (lives : before.Lives) (milestones : after.milestones = before.milestones)
    (stopped : after.stopped = before.stopped) (phase : after.worker.phase = before.worker.phase) :
    after.Lives := by
  rw [Lives, milestones, stopped, phase]
  exact lives

/-- A scheduler that is stopped notes who stopped it, if nobody did before. -/
theorem ask (lives : before.Lives) {notice : Notice} (asks : notice.asksToStop = true)
    (fits : before.worker.phase = .starting → notice = .shuttingDown)
    (milestones : after.milestones = before.milestones ++ before.request notice)
    (stopped : after.stopped = true) (worker : after.worker = before.worker) : after.Lives := by
  rw [Lives, milestones, stopped, worker, request]
  rw [Lives] at lives
  cases already : before.stopped with
  | true =>
      rw [already] at lives
      rw [if_pos rfl, List.append_nil]
      exact lives
  | false =>
      rw [already] at lives
      exact lives.ask asks fits

theorem wake (lives : before.Lives) (wakes : Wakes before after) : after.Lives := by
  rw [Lives, wakes.milestones, wakes.stopped, wakes.worker, arrival]
  rw [Lives] at lives
  rcases wakes.dormant with worker | worker | ⟨due, worker⟩ <;> rw [worker] at lives ⊢
  · exact lives.start
  all_goals
    rw [List.append_nil]
    exact lives

theorem look (lives : before.Lives) (looking : before.worker = .looking) (now : Int) :
    (before.look now).Lives := by
  rw [Lives, looking] at lives
  rw [Lives, milestones_look, Scheduler.look, farewell]
  cases before.halted with
  | true => exact lives.abandon before.waiting
  | false =>
      obtain ⟨stopped, exits⟩ := (chooses_choose before now).stopped
      rw [if_neg Bool.false_ne_true, if_neg Bool.false_ne_true, stopped]
      have awake := (chooses_choose before now).phase looking
      cases exited : (before.choose now).worker.isExited with
      | true =>
          rw [exits (Worker.isExited_iff.1 exited)] at lives ⊢
          rw [Worker.isExited_iff.1 exited]
          exact lives.drain
      | false =>
          rw [if_neg Bool.false_ne_true, List.append_nil, awake exited]
          exact lives

end Lives

theorem Step.lives {occurred : List Occurrence} (step : before.Step now occurred after)
    (lives : before.Lives) : after.Lives := by
  cases step with
  | submit accepted =>
      have milestones := milestones_submit? accepted
      obtain ⟨_, _, ready, interrupt, journal, rfl⟩ := eq_of_submit? accepted
      exact lives.congr milestones rfl rfl
  | cancel id =>
      exact lives.congr (milestones_cancel before id) (stopped_cancel before id) (by rw [worker_cancel])
  | disown id => exact lives.congr (milestones_disown before id) rfl rfl
  | halt => exact lives.congr rfl rfl rfl
  | stopInside busy =>
      refine lives.ask rfl (fun starting => ?_) (milestones_stopInside before)
        (stopped_stopInside before) (worker_stopInside before)
      cases starting.symm.trans (Worker.phase_of_isBusy busy)
  | close _ =>
      exact lives.ask rfl (fun _ => rfl) (milestones_close before) (stopped_close before)
        (worker_close before)
  | join => exact lives.congr rfl rfl rfl
  | look looking => exact lives.look looking now
  | wake woke => exact lives.wake (wakes_of_wake? woke)
  | proceed rest busy =>
      refine lives.congr rfl rfl ?_
      rw [busy]
      rfl
  | fail message busy =>
      refine lives.congr (milestones_fail before _ message) ?_ (by rw [worker_fail])
      unfold Scheduler.fail
      dsimp only
      split <;> rfl
  | finish busy =>
      refine lives.congr (milestones_finish before) (stopped_signalDrained _) ?_
      rw [Scheduler.finish, worker_signalDrained, busy]
      rfl

theorem Step.milestones_of_exited {occurred : List Occurrence}
    (step : before.Step now occurred after) (exited : before.worker = .exited)
    (stopped : before.stopped = true) :
    after.worker = .exited ∧ after.milestones = before.milestones := by
  have none (notice : Notice) : before.request notice = [] := if_pos stopped
  have free {id : TaskId} {work : ω} : before.worker ≠ .busy id work := by
    rw [exited]
    nofun
  cases step with
  | submit accepted =>
      have milestones := milestones_submit? accepted
      obtain ⟨_, _, ready, interrupt, journal, rfl⟩ := eq_of_submit? accepted
      exact ⟨exited, milestones⟩
  | cancel id => exact ⟨(worker_cancel before id).trans exited, milestones_cancel before id⟩
  | disown id => exact ⟨exited, milestones_disown before id⟩
  | halt => exact ⟨exited, rfl⟩
  | stopInside busy =>
      obtain ⟨_, _, busy⟩ := Worker.isBusy_iff.1 busy
      exact absurd busy free
  | close _ =>
      refine ⟨(worker_close before).trans exited, ?_⟩
      rw [milestones_close, none, List.append_nil]
  | join => exact ⟨exited, rfl⟩
  | look looking => cases looking.symm.trans exited
  | wake woke => exact absurd exited (wakes_of_wake? woke).ne_exited
  | proceed rest busy => exact absurd busy free
  | fail message busy => exact absurd busy free
  | finish busy => exact absurd busy free

end Scheduler

namespace Run

variable {first last : Moment ω} {record : List Occurrence}

theorem lives (run : Run first record last) (lives : first.scheduler.Lives) :
    last.scheduler.Lives :=
  run.keeps (fun lives step => step.lives lives) lives

/-- The exit of the worker is the end of a life. -/
theorem milestones_of_exited (run : Run first record last) (lives : first.scheduler.Lives)
    (exited : first.scheduler.worker = .exited) :
    last.scheduler.worker = .exited ∧
      last.scheduler.milestones = first.scheduler.milestones := by
  induction run with
  | rest => exact ⟨exited, rfl⟩
  | step earlier step inductionHypothesis =>
      obtain ⟨out, same⟩ := inductionHypothesis
      -- No step keeps by itself that an exited worker leaves a stopped scheduler; the life does.
      have still := earlier.lives lives
      rw [Scheduler.Lives, out] at still
      have stopped := still.stopped_of_exited
      obtain ⟨still, silent⟩ := step.milestones_of_exited out stopped
      exact ⟨still, silent.trans same⟩
  | pass _ _ inductionHypothesis => exact inductionHypothesis

end Run

end Agenda
