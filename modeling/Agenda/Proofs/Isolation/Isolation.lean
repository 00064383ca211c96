import Agenda.Proofs.Isolation.Sessions
import Agenda.Proofs.Session.Recording
import Agenda.Proofs.Session.Showing

/-!
# Panics stay with the tasks that panic

If panics are left out of the tasks of a session, nothing changes but the failures that become known
and the log.  A panic makes one failure known, where there is a hook, at the end of its own run.
-/

namespace Agenda

universe u

variable {V : Type u}

/-- Some of the panics of a script, and of the scripts that it submits, are left out. -/
inductive Script.Cut : Script V → Script V → Prop where
  | done : Cut .done .done
  | panic (payload : Payload) : Cut (.panic payload) (.panic payload)
  | leaveOut (payload : Payload) : Cut (.panic payload) .done
  | wait (gate : Label) {rest left : Script V} : Cut rest left →
      Cut (.wait gate rest) (.wait gate left)
  | threadName {rest left : Script V} : Cut rest left → Cut (.threadName rest) (.threadName left)
  | submit (scheduler handle : Label) (due : Due) {act part rest left : Script V} : Cut act part →
      Cut rest left →
      Cut (.submit scheduler handle due act rest) (.submit scheduler handle due part left)
  | request (asked : Request V) {rest left : Script V} : Cut rest left →
      Cut (.request asked rest) (.request asked left)
  | part (parting : Parting) {rest left : Script V} : Cut rest left →
      Cut (.part parting rest) (.part parting left)

theorem Script.Cut.calm {script part : Script V} (cut : script.Cut part) :
    script.calm = part.calm := by
  induction cut with
  | done => rfl
  | panic payload => rfl
  | leaveOut payload => rfl
  | wait gate _ inductionHypothesis => exact congrArg (Script.wait gate) inductionHypothesis
  | threadName _ inductionHypothesis => exact congrArg Script.threadName inductionHypothesis
  | submit scheduler handle due _ _ act rest =>
      rw [Script.calm, Script.calm, act, rest]
  | request asked _ inductionHypothesis => exact congrArg (Script.request asked) inductionHypothesis
  | part parting _ inductionHypothesis => exact congrArg (Script.part parting) inductionHypothesis

/-- What is to be known at the end of a run, when this is left of it: the failure, if there is a
hook and the task has come to a panic. -/
def Launch.failures (launch : Launch V) (hook : Option Hook) (left : Option (Work V)) :
    List (Event V) :=
  match left, launch.work with
  | none, .task _ _ script => script.failures hook launch.task
  | _, _ => []

/-- A run tells of a failure at its end or not at all. -/
theorem Launch.Tells.failures {launch : Launch V} {hook : Option Hook} {left : Option (Work V)}
    {events : List (Event V)} (tells : launch.Tells hook left events) :
    ∃ own, events = own ++ launch.failures hook left ∧ ∀ event ∈ own, event.isFailure = false := by
  have ordinary (label handle : Label) (millis : Int) (replies : List (Reply V)) :
      ∀ event ∈ Event.began label handle millis :: replies.map (.answered label handle),
        event.isFailure = false := by
    intro event listed
    rcases List.mem_cons.1 listed with rfl | listed
    · rfl
    · obtain ⟨_, _, rfl⟩ := List.mem_map.1 listed
      rfl
  cases tells with
  | deletion cache key generation does _ =>
      refine ⟨[], ?_, nofun⟩
      cases left <;> simp [Launch.failures, does]
  | going millis replies _ _ => exact ⟨_, (List.append_nil _).symm, ordinary _ _ millis replies⟩
  | @ended label handle script millis replies does =>
      refine ⟨_, ?_, ordinary label handle millis replies⟩
      simp [Launch.failures, does]

namespace System

structure Alike (system other : System V) : Prop where
  /-- Only work still to be done, failures and records of panics differ. -/
  calm : system.calm = other.calm
  rosters : ∀ id, (system.scheduler? id).map Scheduler.roster =
    (other.scheduler? id).map Scheduler.roster
  sizes : ∀ id, (system.scheduler? id).map Scheduler.size = (other.scheduler? id).map Scheduler.size
  caches : system.caches = other.caches
  handles : system.handles = other.handles
  calls : system.calls = other.calls
  returned : system.returned = other.returned

/-- The runs of a system, with what became known in each: first of all else, and then of the
failure. -/
structure Chronicle (launches : List (Launch V)) (mentions : List (Mention V)) (system : System V) :
    Prop where
  history : History launches mentions system
  recounts : Recounts launches mentions system
  failures : ∀ launch ∈ launches, ∃ host own, system.scheduler? launch.scheduler = some host ∧
    launch.told mentions = own ++ launch.failures host.settings.hook (system.left launch) ∧
      ∀ event ∈ own, event.isFailure = false

theorem History.chronicle {launches : List (Launch V)} {mentions : List (Mention V)}
    {system : System V} (history : History launches mentions system) :
    Chronicle launches mentions system where
  history := history
  recounts := history.recounts
  failures launch listed := by
    obtain ⟨host, found, _, tells⟩ := history.recounts.runs launch listed
    obtain ⟨own, told, ordinary⟩ := tells.failures
    exact ⟨host, own, found, told, ordinary⟩

end System

namespace Session

inductive Deed.Cut : Deed V → Deed V → Prop where
  | submit (scheduler handle : Label) (due : Due) {script part : Script V} : script.Cut part →
      Cut (.submit scheduler handle due script) (.submit scheduler handle due part)
  | request (asked : Request V) : Cut (.request asked) (.request asked)
  | part (parting : Parting) (helper : Label) : Cut (.part parting helper) (.part parting helper)

inductive Command.Cut : Command V → Command V → Prop where
  | deed {asked other : Deed V} : asked.Cut other → Cut (.deed asked) (.deed other)
  | advance (millis : Nat) : Cut (.advance millis) (.advance millis)
  | slowAccess (millis : Nat) (cache : Label) (key : String) (access : Access V) :
      Cut (.slowAccess millis cache key access) (.slowAccess millis cache key access)
  | parallel {threads others : List (List (Deed V))} :
      List.Forall₂ (List.Forall₂ Deed.Cut) threads others →
      Cut (.parallel threads) (.parallel others)

theorem Deed.Cut.calm {deed other : Deed V} (cut : deed.Cut other) : deed.calm = other.calm := by
  cases cut with
  | submit scheduler handle due cut => exact congrArg (Deed.submit scheduler handle due) cut.calm
  | request asked => rfl
  | part parting helper => rfl

/-- Items that are pairwise related have the same images if related items have. -/
theorem map_eq_of_forall₂ {α β : Type u} {related : α → α → Prop} {image : α → β}
    (same : ∀ {first second}, related first second → image first = image second)
    {items others : List α} (pairs : List.Forall₂ related items others) :
    items.map image = others.map image := by
  induction pairs with
  | nil => rfl
  | cons pair _ inductionHypothesis =>
      rw [List.map_cons, List.map_cons, same pair, inductionHypothesis]

theorem Command.Cut.calm {command other : Command V} (cut : command.Cut other) :
    command.calm = other.calm := by
  cases cut with
  | deed cut => exact congrArg Command.deed cut.calm
  | advance millis => rfl
  | slowAccess millis cache key access => rfl
  | parallel cuts =>
      refine congrArg Command.parallel ?_
      exact map_eq_of_forall₂ (fun deeds => map_eq_of_forall₂ Deed.Cut.calm deeds) cuts

end Session

end Agenda
