import Agenda.System.Ownership

/-!
Calls that wait for a worker: shutdowns, and the release of a scheduler by its last owner.
-/

namespace Agenda

universe u

variable {V : Type u}

def Caller.isWorkerOf (caller : Caller) (id : SchedulerId) : Bool :=
  match caller with
  | .helper _ => false
  | .worker own _ _ => own = id

namespace System

def returnTo (system : System V) : Caller → System V
  | .helper label => { system with returned := system.returned.push label }
  | .worker _ scheduler handle => system.report (.answered scheduler handle .ok)

def callOf? (system : System V) (id : SchedulerId) : Option Nat :=
  system.calls.findIdx? fun call => call.caller.isWorkerOf id

/-- Waits for the exit of a worker, unless somebody else already does. -/
def awaitExit (system : System V) (caller : Caller) (id : SchedulerId)
    (scheduler : Scheduler (Work V)) : System V :=
  if scheduler.joined then system.returnTo caller
  else
    let system := system.putScheduler id scheduler.join
    { system with calls := system.calls ++ [⟨caller, id, false, .joining⟩] }

/-- What follows when a caller has given up its share of a scheduler: the last owner waits for
the worker to exit, unless it is that worker itself. -/
def leave (system : System V) (caller : Caller) (id : SchedulerId) : System V :=
  if system.keepsScheduler id || caller.isWorkerOf id then system.returnTo caller
  else
    match system.scheduler? id with
    | none => system.returnTo caller
    | some scheduler => system.awaitExit caller id scheduler

/-- Shuts a scheduler down: at once from one of its own tasks, and otherwise by a call that
waits until the scheduler is drained. -/
def shutdown (system : System V) (caller : Caller) (id : SchedulerId)
    (scheduler : Scheduler (Work V)) : System V :=
  if caller.isWorkerOf id then (system.putScheduler id scheduler.stopInside).returnTo caller
  else { system with calls := system.calls ++ [⟨caller, id, true, .checking⟩] }

def release (system : System V) (caller : Caller) (label : Label) (id : SchedulerId) :
    System V :=
  { system with schedulerLabels := system.schedulerLabels.erase label }.sweep.leave caller id

/-- Takes the label from a cache, which also gives up the cache's share of its scheduler if
nobody else refers to the cache. -/
def releaseCache (system : System V) (caller : Caller) (label : Label) (id : CacheId)
    (scheduler : SchedulerId) : System V :=
  let swept := { system with cacheLabels := system.cacheLabels.erase label }.sweep
  if swept.keepsCache id then swept.returnTo caller else swept.leave caller scheduler

def part? (system : System V) (caller : Caller) : Parting → Except (Reply V) (System V)
  | .shutdown label =>
      match system.schedulerAt? label with
      | none => .error .noScheduler
      | some (id, scheduler) => .ok (system.shutdown caller id scheduler)
  | .release label =>
      match system.schedulerLabels[label]? with
      | none => .error .noScheduler
      | some id => .ok (system.release caller label id)
  | .releaseCache label =>
      match system.cacheAt? label with
      | none => .error .noCache
      | some (id, cache) => .ok (system.releaseCache caller label id cache.scheduler)

def endCall (system : System V) (position : Nat) (call : Call) : System V :=
  ({ system with calls := system.calls.eraseIdx position }.sweep).returnTo call.caller

def setStage (system : System V) (position : Nat) (call : Call) (stage : Stage) : System V :=
  { system with calls := system.calls.set position { call with stage } }

/-- The next move of the call at a position, if it has one.  A shutdown that finds its scheduler
drained stops it, and then waits for the worker to exit, unless somebody else already does. -/
def moveCall? (system : System V) (position : Nat) : Option (System V) :=
  (system.calls[position]?).bind fun call =>
    (system.scheduler? call.scheduler).bind fun scheduler =>
      match call.stage with
      | .checking =>
          if scheduler.isDrained then
            let closed := scheduler.close
            if scheduler.joined then
              some ((system.putScheduler call.scheduler closed).endCall position call)
            else
              some ((system.putScheduler call.scheduler closed.join).setStage position call
                .joining)
          else
            some (system.setStage position call (.parked scheduler.drains))
      | .parked drains =>
          if scheduler.drains = drains then none
          else some (system.setStage position call .checking)
      | .joining =>
          if scheduler.worker.isExited then some (system.endCall position call) else none

end System

end Agenda
