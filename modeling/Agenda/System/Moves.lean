import Agenda.System.Answering
import Agenda.System.Calls

/-!
The moves by which a system goes on while the clock stands still.
-/

namespace Agenda.System

universe u

variable {V : Type u}

def moveLooking (system : System V) (id : SchedulerId) (scheduler : Scheduler (Work V)) :
    System V :=
  let looked := scheduler.look system.now
  let system := system.putScheduler id looked
  match looked.worker with
  | .busy _ (.task label handle _) =>
      system.report (.began label handle (Clock.toMillis system.now))
  | _ => system

def finishTask (system : System V) (id : SchedulerId) (scheduler : Scheduler (Work V)) :
    System V :=
  system.putScheduler id scheduler.finish

def failTask (system : System V) (id : SchedulerId) (scheduler : Scheduler (Work V))
    (task : TaskId) (message : String) : System V :=
  let system := system.finishTask id (scheduler.fail task message)
  match scheduler.settings.hook with
  | none => system
  | some hook => system.report (.failed hook.label task message)

/-- Leaves the worker of a scheduler with the rest of its task. -/
def proceedTask (system : System V) (id : SchedulerId) (scheduler : Scheduler (Work V))
    (task : TaskId) (label handle : Label) (rest : Script V) : System V :=
  system.putScheduler id (scheduler.proceed task (.task label handle rest))

def reportAnswer (label handle : Label) (answer : Reply V × System V) : System V :=
  answer.2.report (.answered label handle answer.1)

def moveTask? (system : System V) (id : SchedulerId) (scheduler : Scheduler (Work V))
    (task : TaskId) (label handle : Label) (script : Script V) : Option (System V) :=
  let proceed := system.proceedTask id scheduler task label handle
  match script with
  | .done => some (system.finishTask id scheduler)
  | .panic payload => some (system.failTask id scheduler task payload.message)
  | .wait gate rest => if system.openGates.contains gate then some (proceed rest) else none
  | .threadName rest =>
      some (reportAnswer label handle (.text scheduler.settings.threadName, proceed rest))
  | .submit target name due act rest =>
      some (reportAnswer label handle ((proceed rest).submit target name due act))
  | .request request rest => ((proceed rest).answer? request).map (reportAnswer label handle)
  | .part parting rest =>
      match (proceed rest).part? (.worker id label handle) parting with
      | .error reply => some (reportAnswer label handle (reply, proceed rest))
      | .ok system => some system

/-- The one step of a deletion, if the cache's lock is free.  The deletion of an entry in a
dropped cache does nothing. -/
def moveDeletion? (system : System V) (id : SchedulerId) (scheduler : Scheduler (Work V))
    (cacheId : CacheId) (key : String) (generation : Nat) : Option (System V) :=
  match system.cache? cacheId with
  | none => some (system.finishTask id scheduler)
  | some cache =>
      if cache.dropped then some (system.finishTask id scheduler)
      else if system.isUnlocked cacheId then
        some ((system.putCache cacheId (cache.expire key generation)).finishTask id scheduler).sweep
      else none

/-- The next move of the worker of a scheduler, if it has one.  A worker that waits for a call
of its own makes the moves of that call. -/
def moveWorker? (system : System V) (id : SchedulerId) : Option (System V) :=
  (system.scheduler? id).bind fun scheduler =>
    match scheduler.worker with
    | .looking => some (system.moveLooking id scheduler)
    | .busy task (.task label handle script) =>
        match system.callOf? id with
        | some position => system.moveCall? position
        | none => system.moveTask? id scheduler task label handle script
    | .busy _ (.deletion cache key generation) =>
        system.moveDeletion? id scheduler cache key generation
    | _ => (scheduler.wake? system.now).map (system.putScheduler id)

/-- The next move of a worker: of the one whose turn it is, or else of the first that has one. -/
def moveWorkers? (system : System V) (turn : SchedulerId) : Option (SchedulerId × System V) :=
  (turn :: (List.range system.schedulers.size).map SchedulerId.mk).findSome? fun id =>
    (system.moveWorker? id).map fun moved => (id, moved)

def moveCalls? (system : System V) : Option (System V) :=
  (List.range system.calls.length).findSome? system.moveCall?

/-- The next move of the system, with the worker whose turn it is after that.  A worker goes on
as long as it can, and calls move when no worker can. -/
def move? (system : System V) (turn : SchedulerId) : Option (SchedulerId × System V) :=
  match system.moveWorkers? turn with
  | some next => some next
  | none => system.moveCalls?.map fun moved => (turn, moved)

end Agenda.System
