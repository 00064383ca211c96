import Agenda.System.Basic
import Agenda.System.Quiescence.Sums

/-!
A bound on what a system can do while the clock stands still.

Each move of a worker spends some of what is stored in scripts, queued tasks, kept signals and
stop signals not yet given.  A call that was woken for nothing parks again, and such wakings are
bounded by the moves of the workers.
-/

namespace Agenda

universe u

variable {V : Type u}

/-- A bound on the moves that a script can cause, those of the tasks it submits included. -/
def Script.weight : Script V → Nat
  | .done => 0
  | .panic _ => 1
  | .wait _ rest => rest.weight + 1
  | .threadName rest => rest.weight + 1
  | .submit _ _ _ act rest => act.weight + rest.weight + 6
  | .request _ rest => rest.weight + 7
  | .part _ rest => rest.weight + 5

/-- How many calls that may have to wait a script can begin, with those of the tasks it
submits. -/
def Script.partings : Script V → Nat
  | .done => 0
  | .panic _ => 0
  | .wait _ rest => rest.partings
  | .threadName rest => rest.partings
  | .submit _ _ _ act rest => act.partings + rest.partings
  | .request _ rest => rest.partings
  | .part _ rest => rest.partings + 1

def Work.weight : Work V → Nat
  | .task _ _ script => script.weight
  | .deletion _ _ _ => 1

def Work.partings : Work V → Nat
  | .task _ _ script => script.partings
  | .deletion _ _ _ => 0

def Worker.weight (worker : Worker (Work V)) (halted : Bool) (now : Int) : Nat :=
  match worker with
  | .starting => 2
  | .looking => 1
  | .idle => if halted then 2 else 0
  | .asleep due => if halted || due ≤ now then 2 else 0
  | .busy _ work => work.weight + 2
  | .exited => 0

def Worker.partings : Worker (Work V) → Nat
  | .busy _ work => work.partings
  | _ => 0

def TaskQueue.weight (queue : TaskQueue (Work V)) : Nat :=
  total (fun entry => entry.work.weight + 3) queue.toList

def TaskQueue.partings (queue : TaskQueue (Work V)) : Nat :=
  total (fun entry => entry.work.partings) queue.toList

def Scheduler.weight (scheduler : Scheduler (Work V)) (now : Int) : Nat :=
  (if scheduler.halted then 0 else 4) + (if scheduler.ready then 2 else 0)
    + (if scheduler.interrupt then 2 else 0) + scheduler.worker.weight scheduler.halted now
    + TaskQueue.weight scheduler.queue

def Scheduler.partings (scheduler : Scheduler (Work V)) : Nat :=
  scheduler.worker.partings + TaskQueue.partings scheduler.queue

/-- What a call can still cause, besides being woken for nothing. -/
def Call.weight (call : Call) : Nat :=
  match call.stage with
  | .joining => 1
  | _ => 4

namespace System

/-- How many moves a call is away from being parked. -/
def restlessness (system : System V) (call : Call) : Nat :=
  match call.stage with
  | .checking => 1
  | .parked drains =>
      if (system.scheduler? call.scheduler).any fun scheduler => scheduler.drains = drains then 0
      else 2
  | .joining => 0

/-- A bound on the moves of workers and on the stages that calls go through. -/
def stock (system : System V) : Nat :=
  total (fun scheduler => scheduler.weight system.now) system.schedulers.toList
    + total Call.weight system.calls

/-- A bound on the calls under way, now or later. -/
def partings (system : System V) : Nat :=
  total Scheduler.partings system.schedulers.toList + system.calls.length

/-- A bound on the moves that are possible while the clock stands still. -/
def potential (system : System V) : Nat :=
  system.stock * (2 * system.partings + 1) + total system.restlessness system.calls

end System

end Agenda
