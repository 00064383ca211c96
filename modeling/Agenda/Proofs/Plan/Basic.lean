import Agenda.Session.Run
import Mathlib.Logic.Function.Basic

/-!
# A plain scheduler

A plan is a scheduler without heap, worker and signals: a list of what is pending.  A cancelled
task leaves the list at once, the stop signal empties it, and after every step and every tick all
tasks run that are due.
-/

namespace Agenda

universe u

variable {V : Type u}

structure Item where
  due : Int
  id : TaskId
  handle : Label
  deriving DecidableEq, Repr

structure Round where
  now : Int
  items : List Item
  deriving DecidableEq, Repr

structure Plan where
  settings : Settings
  now : Int
  stopped : Bool
  pending : List Item := []
  count : Nat := 0
  fates : TaskId → Option Fate := fun _ => none
  handles : Label → Option TaskId := fun _ => none

namespace Plan

inductive Command where
  | submit (handle : Label) (due : Due)
  | cancel (handle : Label)
  | fateOf (handle : Label)
  | cancelToken (token : Label)
  | advance (millis : Nat)
  deriving DecidableEq, Repr

def add (plan : Plan) (handle : Label) (instant : Int) : Plan :=
  { plan with
    pending := ⟨instant, ⟨plan.count + 1⟩, handle⟩ :: plan.pending
    count := plan.count + 1
    fates := Function.update plan.fates ⟨plan.count + 1⟩ (some .pending)
    handles := Function.update plan.handles handle (some ⟨plan.count + 1⟩) }

theorem fates_add (plan : Plan) (handle : Label) (instant : Int) (id : TaskId) :
    (plan.add handle instant).fates id
      = if id = ⟨plan.count + 1⟩ then some .pending else plan.fates id :=
  Function.update_apply ..

theorem handles_add (plan : Plan) (handle other : Label) (instant : Int) :
    (plan.add handle instant).handles other
      = if other = handle then some ⟨plan.count + 1⟩ else plan.handles other :=
  Function.update_apply ..

def submit (plan : Plan) (handle : Label) (due : Due) : Reply V × Plan :=
  match due.instant? plan.now with
  | none => (.overflow, plan)
  | some instant =>
      if plan.stopped then (.refused (.stopped plan.settings.name), plan)
      else (.accepted ⟨plan.count + 1⟩, plan.add handle instant)

def has (plan : Plan) (id : TaskId) : Bool := plan.pending.any fun item => item.id = id

def drop (plan : Plan) (id : TaskId) : Plan :=
  { plan with
    pending := plan.pending.filter fun item => item.id ≠ id
    fates := Function.update plan.fates id (some .cancelled) }

theorem fates_drop (plan : Plan) (id other : TaskId) :
    (plan.drop id).fates other = if other = id then some .cancelled else plan.fates other :=
  Function.update_apply ..

def cancel (plan : Plan) (handle : Label) : Reply V × Plan :=
  match plan.handles handle with
  | none => (.noHandle, plan)
  | some id => if plan.has id then (.flag true, plan.drop id) else (.flag false, plan)

def fateOf (plan : Plan) (handle : Label) : Reply V :=
  match plan.handles handle with
  | none => .noHandle
  | some id =>
      match plan.fates id with
      | none => .noHandle
      | some fate => .fate id fate

def stop (plan : Plan) : Plan :=
  { plan with
    stopped := true
    pending := []
    fates := fun id => if plan.has id then some .cancelled else plan.fates id }

def cancelToken (plan : Plan) (token : Label) : Plan :=
  if plan.settings.token = .named token then plan.stop else plan

def ripe (plan : Plan) : List Item := plan.pending.filter fun item => item.due ≤ plan.now

def run (plan : Plan) : Round × Plan :=
  (⟨plan.now, plan.ripe⟩,
    { plan with
      pending := plan.pending.filter fun item => plan.now < item.due
      fates := fun id =>
        if plan.ripe.any fun item => item.id = id then some .fired else plan.fates id })

def pass : Nat → Plan → List Round × Plan
  | 0, plan => ([], plan)
  | ticks + 1, plan =>
      let (round, plan) :=
        run { plan with now := plan.now + Clock.ofMillis Session.tickMillis 0 }
      let (rounds, plan) := pass ticks plan
      (round :: rounds, plan)

/-- Carries out a command, up to the run that follows every command. -/
def execute (plan : Plan) : Command → Reply V × List Round × Plan
  | .submit handle due =>
      let (reply, plan) := plan.submit handle due
      (reply, [], plan)
  | .cancel handle =>
      let (reply, plan) := plan.cancel handle
      (reply, [], plan)
  | .fateOf handle => (plan.fateOf handle, [], plan)
  | .cancelToken token => (.ok, [], plan.cancelToken token)
  | .advance millis =>
      let (rounds, plan) := pass (millis / Session.tickMillis) plan
      (.clock (Clock.toMillis plan.now), rounds, plan)

def step (plan : Plan) (command : Command) : (Reply V × List Round) × Plan :=
  let (reply, rounds, plan) := plan.execute command
  let (round, plan) := plan.run
  ((reply, rounds ++ [round]), plan)

def follow (plan : Plan) : List Command → List (Reply V × List Round) × Plan
  | [] => ([], plan)
  | command :: commands =>
      let (answer, plan) := plan.step command
      let (answers, plan) := plan.follow commands
      (answer :: answers, plan)

end Plan

end Agenda
