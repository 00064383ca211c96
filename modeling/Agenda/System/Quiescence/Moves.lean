import Agenda.System.Moves
import Agenda.System.Quiescence.Costs

/-!
The moves of workers spend stock.
-/

namespace Agenda

universe u

variable {V : Type u}

/-- A change that spends stock and adds no calls that were not in store. -/
structure Spends (before after : System V) : Prop where
  stock : after.stock < before.stock
  partings : after.partings ≤ before.partings

namespace Spends

theorem then_free {first second third : System V} (spends : Spends first second)
    (free : Costs second third 0 0) : Spends first third := by
  obtain ⟨_, _⟩ := spends
  obtain ⟨_, _⟩ := free
  constructor <;> omega

end Spends

namespace System

variable {system : System V}

theorem spends_putScheduler {id : SchedulerId} {old new : Scheduler (Work V)}
    (found : system.scheduler? id = some old)
    (weight : new.weight system.now < old.weight system.now)
    (partings : new.partings ≤ old.partings) : Spends system (system.putScheduler id new) := by
  have stock := system.stock_putScheduler new found
  have stored := system.partings_putScheduler new found
  constructor <;> omega

theorem spends_looking {id : SchedulerId} {scheduler : Scheduler (Work V)}
    (found : system.scheduler? id = some scheduler) (looking : scheduler.worker = .looking) :
    Spends system (system.moveLooking id scheduler) := by
  have looked : (scheduler.look system.now).weight system.now < scheduler.weight system.now ∧
      (scheduler.look system.now).partings ≤ scheduler.partings := by
    unfold Scheduler.look
    split
    · rename_i halted
      simp [Scheduler.abandon, Scheduler.weight_eq, Scheduler.partings, Scheduler.note,
        Worker.weight, Worker.partings, halted, looking]
      omega
    · rename_i live
      exact Scheduler.choose_lt looking (by simpa using live)
  have spent := spends_putScheduler found looked.1 looked.2
  unfold moveLooking
  dsimp only
  split
  · exact spent.then_free (costs_report _ _)
  · exact spent

theorem spends_wake {id : SchedulerId} {scheduler woken : Scheduler (Work V)}
    (found : system.scheduler? id = some scheduler)
    (woke : scheduler.wake? system.now = some woken) :
    Spends system (system.putScheduler id woken) := by
  have lighter : woken.weight system.now < scheduler.weight system.now ∧
      woken.partings ≤ scheduler.partings := by
    unfold Scheduler.wake? at woke
    split at woke
    · rename_i starting
      cases woke
      simp [Scheduler.weight_eq, Scheduler.partings, Scheduler.note, Worker.weight,
        Worker.partings, starting]
    · rename_i idle
      split at woke
      · rename_i halted
        cases woke
        simp [Scheduler.weight_eq, Scheduler.partings, Worker.weight, Worker.partings, halted,
          idle]
      · rename_i live
        split at woke
        · rename_i ready
          cases woke
          simp [Scheduler.weight_eq, Scheduler.partings, Worker.weight, Worker.partings, live,
            idle, ready]
          omega
        · cases woke
    · rename_i due asleep
      split at woke
      · rename_i halted
        cases woke
        simp [Scheduler.weight_eq, Scheduler.partings, Worker.weight, Worker.partings, halted,
          asleep]
      · rename_i live
        split at woke
        · rename_i interrupt
          cases woke
          simp [Scheduler.weight_eq, Scheduler.partings, Scheduler.note, Worker.weight,
            Worker.partings, live, asleep, interrupt]
          omega
        · split at woke
          · rename_i reached
            cases woke
            simp [Scheduler.weight_eq, Scheduler.partings, Worker.weight, Worker.partings, live,
              asleep, reached]
          · cases woke
    · cases woke
  exact spends_putScheduler found lighter.1 lighter.2

theorem weight_finish {scheduler : Scheduler (Work V)} {task : TaskId} {work : Work V} (now : Int)
    (busy : scheduler.worker = .busy task work) :
    scheduler.finish.weight now + work.weight + 1 = scheduler.weight now := by
  simp only [Scheduler.finish, Scheduler.weight_signalDrained]
  simp only [Scheduler.weight_eq, Worker.weight, busy]
  omega

theorem partings_finish {scheduler : Scheduler (Work V)} {task : TaskId} {work : Work V}
    (busy : scheduler.worker = .busy task work) :
    scheduler.finish.partings + work.partings = scheduler.partings := by
  simp only [Scheduler.finish, Scheduler.partings_signalDrained]
  simp only [Scheduler.partings, Worker.partings, busy]
  omega

theorem spends_finishTask {id : SchedulerId} {scheduler : Scheduler (Work V)} {task : TaskId}
    {work : Work V} (found : system.scheduler? id = some scheduler)
    (busy : scheduler.worker = .busy task work) :
    Spends system (system.finishTask id scheduler) := by
  have weight := weight_finish system.now busy
  have partings := partings_finish busy
  exact spends_putScheduler found (by omega) (by omega)

theorem spends_failTask {id : SchedulerId} {scheduler : Scheduler (Work V)} {task : TaskId}
    {work : Work V} (found : system.scheduler? id = some scheduler)
    (busy : scheduler.worker = .busy task work) (failed : TaskId) (message : String) :
    Spends system (system.failTask id scheduler failed message) := by
  have noted : (scheduler.fail failed message).worker = .busy task work ∧
      (scheduler.fail failed message).weight system.now = scheduler.weight system.now ∧
      (scheduler.fail failed message).partings = scheduler.partings := by
    unfold Scheduler.fail
    dsimp only
    split <;> exact ⟨busy, rfl, rfl⟩
  have weight := weight_finish system.now noted.1
  have partings := partings_finish noted.1
  have spent : Spends system
      (system.finishTask id (scheduler.fail failed message)) :=
    spends_putScheduler found (by omega) (by omega)
  unfold failTask
  dsimp only
  split
  · exact spent
  · exact spent.then_free (costs_report _ _)

/-- Going on with the rest of a task sets free what the step before it had in store. -/
theorem stock_proceedTask {id : SchedulerId} {scheduler : Scheduler (Work V)} {task : TaskId}
    {label handle : Label} {script : Script V}
    (found : system.scheduler? id = some scheduler)
    (busy : scheduler.worker = .busy task (.task label handle script)) (rest : Script V) :
    (system.proceedTask id scheduler task label handle rest).stock + script.weight
        = system.stock + rest.weight ∧
      (system.proceedTask id scheduler task label handle rest).partings + script.partings
        = system.partings + rest.partings := by
  have stock := system.stock_putScheduler
    (scheduler.proceed task (.task label handle rest)) found
  have stored := system.partings_putScheduler
    (scheduler.proceed task (.task label handle rest)) found
  simp only [Scheduler.proceed, Scheduler.weight_eq, Scheduler.partings, Worker.weight,
    Worker.partings, Work.weight, Work.partings, busy] at stock stored
  simp only [proceedTask, Scheduler.proceed]
  constructor <;> omega

/-- A step of a task may cost as much as going on with the rest of the task sets free. -/
theorem spends_of_proceedTask {id : SchedulerId} {scheduler : Scheduler (Work V)} {task : TaskId}
    {label handle : Label} {script rest : Script V} {moved : System V} {moves calls : Nat}
    (found : system.scheduler? id = some scheduler)
    (busy : scheduler.worker = .busy task (.task label handle script))
    (costs : Costs (system.proceedTask id scheduler task label handle rest) moved moves calls)
    (weight : rest.weight + moves < script.weight)
    (partings : rest.partings + calls ≤ script.partings) : Spends system moved := by
  obtain ⟨stock, stored⟩ := stock_proceedTask found busy rest
  obtain ⟨_, _⟩ := costs
  constructor <;> omega

theorem costs_reportAnswer (label handle : Label) (reply : Reply V) (system : System V) :
    Costs system (reportAnswer label handle (reply, system)) 0 0 := costs_report _ _

theorem spends_task {id : SchedulerId} {scheduler : Scheduler (Work V)} {task : TaskId}
    {label handle : Label} {script : Script V} {moved : System V}
    (found : system.scheduler? id = some scheduler)
    (busy : scheduler.worker = .busy task (.task label handle script))
    (move : system.moveTask? id scheduler task label handle script = some moved) :
    Spends system moved := by
  cases script with
  | done =>
      cases move
      exact spends_finishTask found busy
  | panic payload =>
      cases move
      exact spends_failTask found busy _ _
  | wait gate rest =>
      simp only [moveTask?] at move
      split at move <;> cases move
      exact spends_of_proceedTask found busy (.refl _) (Nat.lt_succ_self _) (Nat.le_refl _)
  | threadName rest =>
      cases move
      exact spends_of_proceedTask found busy (costs_reportAnswer _ _ _ _) (Nat.lt_succ_self _)
        (Nat.le_refl _)
  | submit target name due act rest =>
      cases move
      have costs := costs_submit (system.proceedTask id scheduler task label handle rest)
        target name due act
      refine spends_of_proceedTask found busy
        (costs.then_free (costs_reportAnswer label handle _ _)) ?_ ?_
      · simp only [Script.weight]
        omega
      · simp only [Script.partings]
        omega
  | request request rest =>
      obtain ⟨⟨reply, answered⟩, answer, same⟩ := Option.map_eq_some_iff.1 move
      cases same
      have costs := (costs_answer? answer).then_free (costs_reportAnswer label handle reply _)
      exact spends_of_proceedTask found busy costs (Nat.lt_succ_self _) (Nat.le_refl _)
  | part parting rest =>
      simp only [moveTask?] at move
      split at move <;> cases move
      · refine spends_of_proceedTask found busy (costs_reportAnswer _ _ _ _) ?_ (Nat.le_succ _)
        simp only [Script.weight]
        omega
      · rename_i begun
        exact spends_of_proceedTask found busy (costs_part? begun) (Nat.lt_succ_self _)
          (Nat.le_refl _)

theorem spends_deletion {id : SchedulerId} {scheduler : Scheduler (Work V)} {task : TaskId}
    {cache : CacheId} {key : String} {generation : Nat} {moved : System V}
    (found : system.scheduler? id = some scheduler)
    (busy : scheduler.worker = .busy task (.deletion cache key generation))
    (move : system.moveDeletion? id scheduler cache key generation = some moved) :
    Spends system moved := by
  have finished := spends_finishTask found busy
  unfold moveDeletion? at move
  split at move
  · cases move
    exact finished
  · rename_i target _
    split at move
    · cases move
      exact finished
    · split at move <;> cases move
      have expired : Spends system
          ((system.putCache cache (target.expire key generation)).finishTask id scheduler) :=
        ⟨finished.stock, finished.partings⟩
      exact expired.then_free (costs_sweep _)

end System

end Agenda
