import Agenda.Proofs.Rejection.Answers
import Agenda.Proofs.Isolation.Moves

/-!
# Mirror images move in step

Whatever move a system has, its mirror image has it too, and they stay mirror images.  Only the task
that makes a step may read otherwise: then it makes the same step first, and what comes after that
step is what it reads from then on.
-/

namespace Agenda

universe u

variable {V : Type u}

namespace Guise

/-- From now on the script of one task reads otherwise. -/
def retell (guise : Guise V) (id : SchedulerId) (task : TaskId)
    (reading : Script V → Script V) : Guise V :=
  { guise with
    script := fun place number => if place = id ∧ number = task then reading
      else guise.script place number }

variable {guise : Guise V} {id : SchedulerId} {task : TaskId} {reading : Script V → Script V}

theorem script_retell_self : (guise.retell id task reading).script id task = reading :=
  if_pos ⟨rfl, rfl⟩

theorem script_retell_of_ne {place : SchedulerId} {number : TaskId}
    (apart : ¬(place = id ∧ number = task)) :
    (guise.retell id task reading).script place number = guise.script place number :=
  if_neg apart

theorem retell_self (same : guise.script id task = reading) :
    guise.retell id task reading = guise := by
  have script : (guise.retell id task reading).script = guise.script := by
    funext place number
    by_cases own : place = id ∧ number = task
    · rw [own.1, own.2, script_retell_self, same]
    · exact script_retell_of_ne own
  exact congrArg (fun script => { guise with script }) script

theorem work_retell_of_ne {place : SchedulerId} {number : TaskId}
    (apart : ¬(place = id ∧ number = task)) :
    (guise.retell id task reading).work place number = guise.work place number := by
  funext work
  cases work with
  | task label handle script =>
      exact congrArg (fun reading : Script V → Script V => Work.task label handle (reading script))
        (script_retell_of_ne apart)
  | deletion cache key generation => rfl

/-- The task that the worker of a scheduler can go on with is read as it is. -/
def Plain (guise : Guise V) (system : System V) (id : SchedulerId) : Prop :=
  ∀ {host task label handle script}, system.scheduler? id = some host →
    host.worker = .busy task (.task label handle script) → system.callOf? id = none →
    guise.script id task = fun script => script

end Guise

namespace Scheduler

variable {ω : Type u} {υ : Type u} {image other : TaskId → ω → υ} {scheduler : Scheduler ω}

theorem queue_recast_congr
    (queued : ∀ entry ∈ scheduler.queue.toList,
      image entry.id entry.work = other entry.id entry.work) :
    (scheduler.recast false image).queue = (scheduler.recast false other).queue := by
  refine congrArg Heap.mk (Array.map_congr_left fun entry held => ?_)
  rw [Entry.recast, queued entry (Array.mem_toList_iff.2 held), Entry.recast]

theorem recast_congr
    (queued : ∀ entry ∈ scheduler.queue.toList,
      image entry.id entry.work = other entry.id entry.work)
    (busy : ∀ {id work}, scheduler.worker = .busy id work → image id work = other id work) :
    scheduler.recast false image = scheduler.recast false other := by
  have worker : (scheduler.recast false image).worker = (scheduler.recast false other).worker := by
    rw [worker_recast, worker_recast]
    cases place : scheduler.worker with
    | busy id work => exact congrArg (Worker.busy id) (busy place)
    | _ => rfl
  exact congrArg₂ (fun queue worker => ({ scheduler.recast false image with queue, worker } : Scheduler υ))
    (queue_recast_congr queued) worker

theorem proceed_recast_congr
    (queued : ∀ entry ∈ scheduler.queue.toList,
      image entry.id entry.work = other entry.id entry.work) (id : TaskId) (work : ω) :
    (scheduler.recast false image).proceed id (other id work) =
      (scheduler.proceed id work).recast false other :=
  congrArg (fun queue => ({ scheduler.recast false image with queue, worker := .busy id (other id work) } :
    Scheduler υ)) (queue_recast_congr queued)

theorem finish_recast_congr
    (queued : ∀ entry ∈ scheduler.queue.toList,
      image entry.id entry.work = other entry.id entry.work) :
    (scheduler.recast false image).finish = scheduler.finish.recast false other := by
  rw [finish_recast]
  refine recast_congr (fun entry held => ?_) fun busy => ?_
  · rw [finish, queue_signalDrained] at held
    exact queued entry held
  · rw [finish, worker_signalDrained] at busy
    cases busy

/-- The task in progress is not queued. -/
theorem Sound.ne_of_busy {scheduler : Scheduler ω} (sound : scheduler.Sound) {id : TaskId} {work : ω}
    (busy : scheduler.worker = .busy id work) :
    ∀ entry ∈ scheduler.queue.toList, entry.id ≠ id := by
  rintro entry held rfl
  rcases sound.stored.waiting entry held with waits | waits
  · cases waits.symm.trans (sound.busy busy)
  · cases waits.symm.trans (sound.busy busy)

end Scheduler

def Script.onward (change : Script V → Script V) : Script V → Script V
  | .done => .done
  | .panic payload => .panic payload
  | .wait gate rest => .wait gate (change rest)
  | .threadName rest => .threadName (change rest)
  | .submit scheduler handle due act rest => .submit scheduler handle due act (change rest)
  | .request asked rest => .request asked (change rest)
  | .part parting rest => .part parting (change rest)

theorem Script.onward_self (script : Script V) : script.onward (fun rest => rest) = script := by
  cases script <;> rfl

theorem System.step_of_move? {system moved : System V} {turn next : SchedulerId}
    (move : system.move? turn = some (next, moved)) : System.Step system moved := by
  rcases System.worker_or_call_of_move? move with byWorker | ⟨_, _, position, byCall⟩
  · exact .worker byWorker
  · exact .call byCall

namespace System.Mirrors

variable {guise : Guise V} {image system : System V}

section Calls

theorem returnTo (mirrors : Mirrors guise image system) (caller : Caller) :
    Mirrors guise (image.returnTo caller) (system.returnTo caller) := by
  cases caller with
  | helper label =>
      exact { mirrors with returned := congrArg (Array.push · label) mirrors.returned }
  | worker id scheduler handle => exact mirrors.report _

theorem callOf? (mirrors : Mirrors guise image system) (id : SchedulerId) :
    image.callOf? id = system.callOf? id := by
  rw [System.callOf?, mirrors.calls, System.callOf?]

theorem awaitExit (mirrors : Mirrors guise image system) (caller : Caller) (id : SchedulerId)
    (host : Scheduler (Work V)) :
    Mirrors guise (image.awaitExit caller id (host.recast false (guise.work id)))
      (system.awaitExit caller id host) := by
  unfold System.awaitExit
  rw [Scheduler.joined_recast]
  split
  · exact mirrors.returnTo caller
  · exact { mirrors.putScheduler id host.join with calls := congrArg (· ++ [_]) mirrors.calls }

theorem leave (mirrors : Mirrors guise image system) (caller : Caller) (id : SchedulerId) :
    Mirrors guise (image.leave caller id) (system.leave caller id) := by
  unfold System.leave
  rw [mirrors.keepsScheduler, mirrors.scheduler?]
  split
  · exact mirrors.returnTo caller
  · cases system.scheduler? id with
    | none => exact mirrors.returnTo caller
    | some host => exact mirrors.awaitExit caller id host

theorem shutdown (mirrors : Mirrors guise image system) (caller : Caller) (id : SchedulerId)
    (host : Scheduler (Work V)) :
    Mirrors guise (image.shutdown caller id (host.recast false (guise.work id)))
      (system.shutdown caller id host) := by
  unfold System.shutdown
  rw [Scheduler.stopInside_recast]
  split
  · exact (mirrors.putScheduler id host.stopInside).returnTo caller
  · exact { mirrors with calls := congrArg (· ++ [_]) mirrors.calls }

theorem release (mirrors : Mirrors guise image system) (caller : Caller) (label : Label)
    (id : SchedulerId) :
    Mirrors guise (image.release caller label id) (system.release caller label id) := by
  have erased : Mirrors guise { image with schedulerLabels := image.schedulerLabels.erase label }
      { system with schedulerLabels := system.schedulerLabels.erase label } :=
    { mirrors with schedulerLabels := congrArg (Std.TreeMap.erase · label) mirrors.schedulerLabels }
  exact erased.sweep.leave caller id

theorem releaseCache (mirrors : Mirrors guise image system) (caller : Caller) (label : Label)
    (id : CacheId) (scheduler : SchedulerId) :
    Mirrors guise (image.releaseCache caller label id scheduler)
      (system.releaseCache caller label id scheduler) := by
  have erased : Mirrors guise { image with cacheLabels := image.cacheLabels.erase label }
      { system with cacheLabels := system.cacheLabels.erase label } :=
    { mirrors with cacheLabels := congrArg (Std.TreeMap.erase · label) mirrors.cacheLabels }
  unfold System.releaseCache
  dsimp only
  rw [erased.sweep.keepsCache]
  split
  · exact erased.sweep.returnTo caller
  · exact erased.sweep.leave caller scheduler

theorem part? (mirrors : Mirrors guise image system) (caller : Caller) (parting : Parting) :
    (∃ reply, image.part? caller parting = .error reply ∧
      system.part? caller parting = .error reply) ∨
    ∃ reflected begun, image.part? caller parting = .ok reflected ∧
      system.part? caller parting = .ok begun ∧ Mirrors guise reflected begun := by
  cases parting with
  | shutdown label =>
      simp only [System.part?, mirrors.schedulerAt?]
      cases system.schedulerAt? label with
      | none => exact .inl ⟨_, rfl, rfl⟩
      | some found => exact .inr ⟨_, _, rfl, rfl, mirrors.shutdown caller found.1 found.2⟩
  | release label =>
      simp only [System.part?, mirrors.schedulerLabels]
      cases system.schedulerLabels[label]? with
      | none => exact .inl ⟨_, rfl, rfl⟩
      | some id => exact .inr ⟨_, _, rfl, rfl, mirrors.release caller label id⟩
  | releaseCache label =>
      simp only [System.part?]
      cases located : system.cacheAt? label with
      | none =>
          rw [mirrors.cacheAt?_of_none located]
          exact .inl ⟨_, rfl, rfl⟩
      | some held =>
          obtain ⟨twin, found, alike⟩ := mirrors.cacheAt?_of_some located
          rw [found]
          dsimp only
          rw [alike.scheduler]
          exact .inr ⟨_, _, rfl, rfl, mirrors.releaseCache caller label held.1 held.2.scheduler⟩

theorem endCall (mirrors : Mirrors guise image system) (position : Nat) (call : Call) :
    Mirrors guise (image.endCall position call) (system.endCall position call) := by
  have erased : Mirrors guise { image with calls := image.calls.eraseIdx position }
      { system with calls := system.calls.eraseIdx position } :=
    { mirrors with calls := congrArg (List.eraseIdx · position) mirrors.calls }
  exact erased.sweep.returnTo call.caller

theorem setStage (mirrors : Mirrors guise image system) (position : Nat) (call : Call)
    (stage : Stage) :
    Mirrors guise (image.setStage position call stage) (system.setStage position call stage) :=
  { mirrors with calls := congrArg (List.set · position _) mirrors.calls }

theorem moveCall? (mirrors : Mirrors guise image system) (position : Nat) :
    Option.Rel (Mirrors guise) (image.moveCall? position) (system.moveCall? position) := by
  unfold System.moveCall?
  rw [mirrors.calls]
  cases system.calls[position]? with
  | none => exact .none
  | some call =>
      rw [Option.bind_some, Option.bind_some, mirrors.scheduler?]
      cases system.scheduler? call.scheduler with
      | none => exact .none
      | some host =>
          rw [Option.map_some, Option.bind_some, Option.bind_some]
          cases call.stage with
          | checking =>
              dsimp only
              rw [Scheduler.isDrained_recast, Scheduler.joined_recast, Scheduler.close_recast,
                Scheduler.join_recast, Scheduler.drains_recast]
              split
              · split
                · exact .some ((mirrors.putScheduler _ _).endCall position call)
                · exact .some ((mirrors.putScheduler _ _).setStage position call .joining)
              · exact .some (mirrors.setStage position call _)
          | parked drains =>
              dsimp only
              rw [Scheduler.drains_recast]
              split
              · exact .none
              · exact .some (mirrors.setStage position call .checking)
          | joining =>
              dsimp only
              rw [Scheduler.worker_recast, Worker.isExited_recast]
              split
              · exact .some (mirrors.endCall position call)
              · exact .none

end Calls

section Workers

variable {id : SchedulerId} {host : Scheduler (Work V)} {task : TaskId}
  {reading : Script V → Script V}

theorem moveLooking (mirrors : Mirrors guise image system) (id : SchedulerId)
    (host : Scheduler (Work V)) :
    Mirrors guise (image.moveLooking id (host.recast false (guise.work id))) (system.moveLooking id host) := by
  unfold System.moveLooking
  dsimp only
  rw [mirrors.now, Scheduler.look_recast, Scheduler.worker_recast]
  have looked := mirrors.putScheduler id (host.look system.now)
  cases (host.look system.now).worker with
  | busy task work =>
      cases work with
      | task label handle script =>
          dsimp only [Worker.recast, Guise.work]
          rw [show (image.putScheduler id _).now = image.now from rfl, mirrors.now]
          exact looked.report _
      | deletion cache key generation => exact looked
  | _ => exact looked

theorem putRetold (mirrors : Mirrors guise image system) (id : SchedulerId) (task : TaskId)
    (reading : Script V → Script V) (host : Scheduler (Work V)) :
    Mirrors (guise.retell id task reading)
      (image.putScheduler id (host.recast false ((guise.retell id task reading).work id)))
      (system.putScheduler id host) := by
  refine { mirrors with scheduler? := fun other => ?_ }
  rw [scheduler?_putScheduler, scheduler?_putScheduler, mirrors.scheduler?, mirrors.scheduler?]
  split
  · rename_i own
    rw [own, Option.map_map, Option.map_map]
    rfl
  · rename_i apart
    have same : (guise.retell id task reading).work other = guise.work other := by
      funext number
      exact Guise.work_retell_of_ne fun own => apart own.1
    rw [same]

theorem finishTask (mirrors : Mirrors guise image system) (id : SchedulerId)
    (host : Scheduler (Work V)) :
    Mirrors guise (image.finishTask id (host.recast false (guise.work id))) (system.finishTask id host) := by
  unfold System.finishTask
  rw [Scheduler.finish_recast]
  exact mirrors.putScheduler id host.finish

theorem reportAnswer {answer result : Reply V × System V} (agrees : Agrees guise answer result)
    (label handle : Label) :
    Mirrors guise (System.reportAnswer label handle answer)
      (System.reportAnswer label handle result) := by
  unfold System.reportAnswer
  rw [agrees.reply]
  exact agrees.mirrors.report _

theorem moveDeletion? (mirrors : Mirrors guise image system) (id : SchedulerId)
    (host : Scheduler (Work V)) (cacheId : CacheId) (key : String) (generation : Nat) :
    Option.Rel (Mirrors guise)
      (image.moveDeletion? id (host.recast false (guise.work id)) cacheId key
        (guise.number cacheId generation))
      (system.moveDeletion? id host cacheId key generation) := by
  unfold System.moveDeletion?
  cases held : system.cache? cacheId with
  | none =>
      rw [mirrors.absent held]
      exact .some (mirrors.finishTask id host)
  | some cache =>
      obtain ⟨twin, found, alike⟩ := mirrors.found held
      rw [found]
      dsimp only
      rw [alike.dropped, mirrors.isUnlocked]
      split
      · exact .some (mirrors.finishTask id host)
      · split
        · have expired := mirrors.putCache (alike.expire (guise.injective cacheId) key generation)
          exact .some (expired.finishTask id host).sweep
        · exact .none

section Tasks

/-- No task is read otherwise that is queued beside the one in progress. -/
theorem agreed (guise : Guise V) (id : SchedulerId) (reading : Script V → Script V)
    (alone : ∀ entry ∈ host.queue.toList, entry.id ≠ task) :
    ∀ entry ∈ host.queue.toList, guise.work id entry.id entry.work =
      (guise.retell id task reading).work id entry.id entry.work :=
  fun entry held =>
    (congrFun (Guise.work_retell_of_ne fun own => alone entry held own.2) entry.work).symm

theorem proceedTask (mirrors : Mirrors guise image system)
    (alone : ∀ entry ∈ host.queue.toList, entry.id ≠ task) (label handle : Label)
    (rest : Script V) :
    Mirrors (guise.retell id task reading)
      (image.proceedTask id (host.recast false (guise.work id)) task label handle (reading rest))
      (system.proceedTask id host task label handle rest) := by
  have proceeds := Scheduler.proceed_recast_congr (agreed guise id reading alone) task
    (.task label handle rest)
  rw [Guise.work, Guise.script_retell_self] at proceeds
  unfold System.proceedTask
  rw [proceeds]
  exact mirrors.putRetold id task reading _

theorem finishRetold (mirrors : Mirrors guise image system)
    (alone : ∀ entry ∈ host.queue.toList, entry.id ≠ task) :
    Mirrors (guise.retell id task reading) (image.finishTask id (host.recast false (guise.work id)))
      (system.finishTask id host) := by
  unfold System.finishTask
  rw [Scheduler.finish_recast_congr (agreed guise id reading alone)]
  exact mirrors.putRetold id task reading _

theorem failTask (mirrors : Mirrors guise image system)
    (alone : ∀ entry ∈ host.queue.toList, entry.id ≠ task) (message : String) :
    Mirrors (guise.retell id task reading)
      (image.failTask id (host.recast false (guise.work id)) task message)
      (system.failTask id host task message) := by
  have still : ∀ entry ∈ (host.fail task message).queue.toList, entry.id ≠ task := by
    rw [Scheduler.queue_fail]
    exact alone
  unfold System.failTask
  dsimp only
  rw [Scheduler.fail_recast, Scheduler.settings_recast]
  cases host.settings.hook with
  | none => exact mirrors.finishRetold still
  | some hook => exact (mirrors.finishRetold still).report _

/-- The next step of a task is the same if what comes after it is what the task reads from then
on. -/
theorem moveTask? (mirrors : Mirrors guise image system) (reading : Script V → Script V)
    (suits : (guise.retell id task reading).Suits system) (found : system.scheduler? id = some host)
    (alone : ∀ entry ∈ host.queue.toList, entry.id ≠ task) (label handle : Label)
    (script : Script V) :
    Option.Rel (Mirrors (guise.retell id task reading))
      (image.moveTask? id (host.recast false (guise.work id)) task label handle (script.onward reading))
      (system.moveTask? id host task label handle script) := by
  have proceeds (rest : Script V) : Mirrors (guise.retell id task reading)
      (image.proceedTask id (host.recast false (guise.work id)) task label handle (reading rest))
      (system.proceedTask id host task label handle rest) :=
    mirrors.proceedTask alone label handle rest
  have suited (rest : Script V) :
      (guise.retell id task reading).Suits (system.proceedTask id host task label handle rest) :=
    suits.put found (Nat.le_refl _)
  cases script with
  | done => exact .some (mirrors.finishRetold alone)
  | panic payload => exact .some (mirrors.failTask alone payload.message)
  | wait gate rest =>
      simp only [Script.onward, System.moveTask?]
      rw [mirrors.openGates]
      split
      · exact .some (proceeds rest)
      · exact .none
  | threadName rest => exact .some ((proceeds rest).report _)
  | submit target name due act rest =>
      exact .some (reportAnswer ((proceeds rest).submit (suited rest) target name due act) label handle)
  | request asked rest =>
      simp only [Script.onward, System.moveTask?]
      exact rel_map (fun agrees => reportAnswer agrees label handle)
        ((proceeds rest).answer? (suited rest) asked)
  | part parting rest =>
      simp only [Script.onward, System.moveTask?]
      rcases (proceeds rest).part? (.worker id label handle) parting with
        ⟨reply, seen, own⟩ | ⟨reflected, begun, seen, own, alike⟩
      · rw [seen, own]
        exact .some ((proceeds rest).report _)
      · rw [seen, own]
        exact .some alike

end Tasks

theorem moveWorker? (mirrors : Mirrors guise image system) (suits : guise.Suits system)
    (sound : ∀ {host}, system.scheduler? id = some host → host.Sound)
    (plain : guise.Plain system id) :
    Option.Rel (Mirrors guise) (image.moveWorker? id) (system.moveWorker? id) := by
  unfold System.moveWorker?
  rw [mirrors.scheduler?]
  cases found : system.scheduler? id with
  | none => exact .none
  | some host =>
      rw [Option.map_some, Option.bind_some, Option.bind_some, Scheduler.worker_recast]
      have wakes : Option.Rel (Mirrors guise)
          (((host.recast false (guise.work id)).wake? image.now).map (image.putScheduler id))
          ((host.wake? system.now).map (system.putScheduler id)) := by
        rw [mirrors.now, Scheduler.wake?_recast, Option.map_map]
        cases host.wake? system.now with
        | none => exact .none
        | some woken => exact .some (mirrors.putScheduler id woken)
      cases busy : host.worker with
      | looking => exact .some (mirrors.moveLooking id host)
      | busy task work =>
          cases work with
          | task label handle script =>
              dsimp only [Worker.recast, Guise.work]
              rw [mirrors.callOf?]
              cases waits : system.callOf? id with
              | some position => exact mirrors.moveCall? position
              | none =>
                  have same := plain found busy waits
                  have alone := Scheduler.Sound.ne_of_busy (sound found) busy
                  have moved := mirrors.moveTask? (fun script => script)
                    (by rwa [Guise.retell_self same]) found alone label handle script
                  rw [Guise.retell_self same, Script.onward_self] at moved
                  rw [same]
                  exact moved
          | deletion cache key generation =>
              exact mirrors.moveDeletion? id host cache key generation
      | _ => exact wakes

end Workers

section Settling

theorem moveWorkers? (mirrors : Mirrors guise image system)
    (workers : ∀ id, Option.Rel (Mirrors guise) (image.moveWorker? id) (system.moveWorker? id))
    (turn : SchedulerId) :
    Option.Rel (Agrees guise) (image.moveWorkers? turn) (system.moveWorkers? turn) := by
  unfold System.moveWorkers?
  rw [mirrors.size_schedulers]
  exact rel_findSome? (fun id => rel_map (fun moved => ⟨rfl, moved⟩) (workers id)) _

theorem moveCalls? (mirrors : Mirrors guise image system) :
    Option.Rel (Mirrors guise) image.moveCalls? system.moveCalls? := by
  unfold System.moveCalls?
  rw [mirrors.calls]
  exact rel_findSome? mirrors.moveCall? _

theorem move? (mirrors : Mirrors guise image system)
    (workers : ∀ id, Option.Rel (Mirrors guise) (image.moveWorker? id) (system.moveWorker? id))
    (turn : SchedulerId) :
    Option.Rel (Agrees guise) (image.move? turn) (system.move? turn) := by
  unfold System.move?
  have moves := mirrors.moveWorkers? workers turn
  cases move : system.moveWorkers? turn with
  | none =>
      rw [move] at moves
      rw [eq_none_of_rel moves]
      exact rel_map (fun moved => ⟨rfl, moved⟩) mirrors.moveCalls?
  | some next =>
      rw [move] at moves
      obtain ⟨reflected, seen, agrees⟩ := exists_of_rel moves
      rw [seen]
      exact .some agrees

theorem settleWithin (mirrors : Mirrors guise image system) (suits : guise.Suits system)
    (renumbers : guise.Renumbers) (reachable : Reachable system) (limit : Nat)
    (turn : SchedulerId) :
    Mirrors guise (System.settleWithin limit turn image) (System.settleWithin limit turn system) := by
  induction limit generalizing turn image system with
  | zero => exact mirrors
  | succ limit inductionHypothesis =>
      have moves := mirrors.move? (fun id => mirrors.moveWorker? suits (fun found =>
        reachable.sound found) fun _ _ _ => renumbers id _) turn
      unfold System.settleWithin
      cases move : system.move? turn with
      | none =>
          rw [move] at moves
          rw [eq_none_of_rel moves]
          exact mirrors
      | some next =>
          rw [move] at moves
          obtain ⟨⟨_, reflected⟩, seen, rfl, alike⟩ := exists_of_rel moves
          have step := step_of_move? move
          rw [seen]
          exact inductionHypothesis alike (suits.leads reachable.numbered (.single step))
            (reachable.step step) _

/-- A system and its mirror image come to rest after the same moves. -/
theorem settle (mirrors : Mirrors guise image system) (suits : guise.Suits system)
    (renumbers : guise.Renumbers) (reachable : Reachable system) :
    Mirrors guise image.settle system.settle := by
  have enough := Nat.le_max_left image.potential system.potential
  have plenty := Nat.le_max_right image.potential system.potential
  have settled := mirrors.settleWithin suits renumbers reachable
    (max image.potential system.potential) ⟨0⟩
  rwa [settleWithin_of_le image enough ⟨0⟩ (isSettled_settle _),
    settleWithin_of_le system plenty ⟨0⟩ (isSettled_settle _)] at settled

end Settling

end System.Mirrors

end Agenda
