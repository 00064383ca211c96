import Agenda.Proofs.Plan.Deeds
import Agenda.Proofs.Session.Opening
import Mathlib.Data.List.Forall2

/-!
# A scheduler does what its plan says

A session with one scheduler, whose tasks do nothing but show that they ran, gives the answers that
the plan gives: the same replies, and in every step and every tick the same tasks, in an order in
which they are due.
-/

namespace Agenda

universe u

variable {V : Type u}

namespace Plan

/-- The command that a session gets for a command of the plan.  What is submitted does nothing but
show that it ran. -/
def Command.given (label : Label) : Command → Session.Command V
  | .submit handle due => .deed (.submit label handle due .done)
  | .cancel handle => .deed (.request (.cancel label handle))
  | .fateOf handle => .deed (.request (.fateOf handle))
  | .cancelToken token => .deed (.request (.cancelToken token))
  | .advance millis => .advance millis

def start (settings : Settings) (now : Int) (tokens : List Label) : Plan where
  settings := settings
  now := now
  stopped :=
    match settings.token with
    | .own => false
    | .named token => tokens.contains token

def Shows (label : Label) (rounds : List Round) (events : List (Event V)) : Prop :=
  ∃ parts, List.Forall₂ (Round.Shows label) rounds parts ∧ events = parts.flatten

structure Agrees (label : Label) (expected : Reply V × List Round) (answer : Session.Answer V) :
    Prop where
  outcome : answer.outcome = .reply expected.1
  events : Shows label expected.2 answer.events
  returned : answer.returned = []

variable {label : Label} {plan : Plan} {system : System V} {scheduler : Scheduler (Work V)}

theorem Shows.append {first second : List Round} {events later : List (Event V)}
    (before : Shows label first events) (after : Shows label second later) :
    Shows label (first ++ second) (events ++ later) := by
  obtain ⟨parts, shown, rfl⟩ := before
  obtain ⟨others, shownLater, rfl⟩ := after
  refine ⟨parts ++ others, ?_, List.flatten_append.symm⟩
  exact List.rel_append shown shownLater

theorem Shows.single {round : Round} {events : List (Event V)} (shown : round.Shows label events) :
    Shows label [round] events :=
  ⟨[events], .cons shown .nil, (List.append_nil events).symm⟩

theorem Rests.pass (rests : plan.Rests label system scheduler) (ticks : Nat) :
    ∃ after, (plan.pass ticks).2.Rests label (Session.pass ticks system).2 after ∧
      Shows label (plan.pass ticks).1 (Session.pass ticks system).1 ∧
      (Session.pass ticks system).2.returned = system.returned := by
  induction ticks generalizing plan system scheduler with
  | zero => exact ⟨scheduler, rests, ⟨[], .nil, rfl⟩, rfl⟩
  | succ ticks inductionHypothesis =>
      have later : Follows label
          { plan with now := plan.now + Clock.ofMillis Session.tickMillis 0 }
          { system with now := system.now + Clock.ofMillis Session.tickMillis 0 } scheduler :=
        ⟨⟨rests.hosts.only, rests.hosts.label, rests.hosts.calls⟩, rests.simple,
          ⟨rests.mirrors.pending, rests.mirrors.fates, rests.mirrors.count,
            rests.mirrors.stopped, rests.mirrors.settings⟩,
          congrArg (· + Clock.ofMillis Session.tickMillis 0) rests.now, rests.handles⟩
      obtain ⟨middle, settled, shown, kept⟩ := later.settle
      obtain ⟨after, passed, shownLater, keptLater⟩ := inductionHypothesis settled
      exact ⟨after, passed, (Shows.single shown).append shownLater, keptLater.trans kept⟩

theorem Rests.execute (rests : plan.Rests label system scheduler) (command : Command) :
    ∃ after, (plan.execute (V := V) command).2.2.Follows label
        (Session.execute system (command.given label)).2.2 after ∧
      (Session.execute system (command.given label)).1 = .reply (plan.execute command).1 ∧
      Shows label (plan.execute (V := V) command).2.1
        (Session.execute system (command.given label)).2.1 ∧
      (Session.execute system (command.given label)).2.2.returned = system.returned := by
  have quiet : Shows (V := V) label [] [] := ⟨[], .nil, rfl⟩
  cases command with
  | submit handle due =>
      obtain ⟨reply, kept, after, follows⟩ := rests.submit handle due
      exact ⟨after, follows, congrArg Session.Outcome.reply reply, quiet, kept⟩
  | cancel handle =>
      obtain ⟨reply, kept, after, follows⟩ := rests.cancel handle
      exact ⟨after, follows, congrArg Session.Outcome.reply reply, quiet, kept⟩
  | fateOf handle =>
      exact ⟨scheduler, rests.toFollows, congrArg Session.Outcome.reply (rests.fateOf handle),
        quiet, rfl⟩
  | cancelToken token =>
      obtain ⟨after, follows⟩ := rests.cancelToken token
      exact ⟨after, follows, rfl, quiet, rfl⟩
  | advance millis =>
      obtain ⟨after, passed, shown, kept⟩ := rests.pass (millis / Session.tickMillis)
      refine ⟨after, passed.toFollows, ?_, shown, kept⟩
      have now := congrArg Clock.toMillis passed.now
      exact congrArg (fun millis => Session.Outcome.reply (Reply.clock millis)) now.symm

theorem Rests.step (rests : plan.Rests label system scheduler) (command : Command) :
    ∃ after, (plan.step (V := V) command).2.Rests label
        (Session.step system (command.given label)).2 after ∧
      Agrees label (plan.step command).1 (Session.step system (command.given label)).1 := by
  obtain ⟨middle, follows, outcome, shown, kept⟩ := rests.execute command
  obtain ⟨after, settled, shownLater, keptLater⟩ := follows.settle
  refine ⟨after, settled, outcome, shown.append (Shows.single shownLater), ?_⟩
  have none : (Session.step system (command.given label)).1.returned
      = ((Session.settle (Session.execute system (command.given label)).2.2).2.returned.toList.drop
          system.returned.size).mergeSort Session.labelLE := rfl
  rw [none, keptLater, kept, ← Array.length_toList, List.drop_length]
  exact List.mergeSort_nil

theorem Rests.follow (rests : plan.Rests label system scheduler) (commands : List Command) :
    ∃ after, (plan.follow (V := V) commands).2.Rests label
        (Session.after system (commands.map (Command.given label))) after ∧
      List.Forall₂ (Agrees label) (plan.follow commands).1
        (Session.answersFrom system (commands.map (Command.given label))) := by
  induction commands generalizing plan system scheduler with
  | nil => exact ⟨scheduler, rests, .nil⟩
  | cons command commands inductionHypothesis =>
      obtain ⟨middle, settled, agrees⟩ := rests.step command
      obtain ⟨after, last, others⟩ := inductionHypothesis settled
      exact ⟨after, last, .cons agrees others⟩

theorem stopped_start (settings : Settings) (now : Int) (tokens : List Label) :
    ({ now, cancelledTokens := tokens } : System V).isCancelled settings.token
      = (start settings now tokens).stopped := by
  rw [start]
  cases settings.token <;> rfl

theorem follows_start (label : Label) (settings : Settings) (now : Int) (tokens : List Label) :
    (start settings now tokens).Follows label
      (({ now, cancelledTokens := tokens } : System V).create label settings).2
      (Scheduler.start settings (start settings now tokens).stopped) := by
  have created : (({ now, cancelledTokens := tokens } : System V).create label settings).2
      = { now, cancelledTokens := tokens
          schedulers := #[Scheduler.start settings (start settings now tokens).stopped]
          schedulerLabels := (∅ : Std.TreeMap Label SchedulerId).insert label ⟨0⟩ } := by
    rw [← stopped_start (V := V)]
    exact System.create_eq label settings now tokens
  rw [created]
  refine ⟨⟨rfl, Std.TreeMap.getElem?_insert_self, rfl⟩,
    ⟨Scheduler.sound_start .., nofun, ⟨nofun, nofun⟩⟩, ⟨?_, ?_, rfl, rfl, rfl⟩, rfl, ?_⟩
  · unfold Scheduler.outstanding
    split
    · exact .refl _
    · exact .refl _
  · intro id
    have absent : (Scheduler.start settings (start settings now tokens).stopped :
        Scheduler (Work V)).roster.fate? id = none := Roster.fate?_empty id
    rw [Scheduler.fateInView?, absent]
    simp [start]
  · intro handle
    exact Std.TreeMap.getElem?_emptyc

theorem rests_start (label : Label) (settings : Settings) (now : Int) (tokens : List Label) :
    ∃ scheduler, (start settings now tokens).Rests (V := V) label
      (Session.opened label settings now tokens) scheduler := by
  obtain ⟨scheduler, rests, _⟩ := (follows_start (V := V) label settings now tokens).settle
  exact ⟨scheduler, rests⟩

end Plan

/-- Every task has the fate that it has in the plan, and so is everybody told who asks.  What is
queued besides the pending tasks has been cancelled. -/
structure Plan.Alike (label : Label) (plan : Plan) (system : System V) : Prop where
  fates : ∃ scheduler, system.schedulerAt? label = some (⟨0⟩, scheduler) ∧
    plan.pending.length ≤ scheduler.size ∧ ∀ id, scheduler.roster.fate? id = plan.fates id
  told : ∀ handle, system.fateOf handle = plan.fateOf handle

/-- A session with one scheduler and a plan cannot be told apart: whatever is submitted, cancelled
and asked, whenever the token is cancelled and however the clock moves on, every reply is the same,
in every step and every tick the same tasks run at the same time, in an order in which they are
due, and after every step every task has the same fate. -/
theorem Session.agrees_with_plan (label : Label) (settings : Settings) (now : Int)
    (tokens : List Label) (commands : List Plan.Command) :
    List.Forall₂ (Plan.Agrees (V := V) label)
        ((Plan.start settings now tokens).follow commands).1
        (answersFrom (opened label settings now tokens)
          (commands.map (Plan.Command.given label))) ∧
      ∀ count,
        Plan.Alike (V := V) label
          ((Plan.start settings now tokens).follow (V := V) (commands.take count)).2
          (after (opened label settings now tokens)
            ((commands.take count).map (Plan.Command.given label))) := by
  obtain ⟨scheduler, start⟩ := Plan.rests_start (V := V) label settings now tokens
  constructor
  · obtain ⟨after, rests, agrees⟩ := start.follow commands
    exact agrees
  · intro count
    obtain ⟨after, rests, agrees⟩ := start.follow (commands.take count)
    exact ⟨⟨after, rests.hosts.schedulerAt?, rests.mirrors.length_pending_le, rests.shown⟩,
      rests.fateOf⟩

/-- Two tasks are due at the same time, one is past due when it is submitted, one is cancelled in
time, and one is still pending when the token is cancelled. -/
def Plan.sample : List Plan.Command :=
  [.submit "late" (.at (Clock.ofMillis 30 0)), .submit "soon" (.after (.ofMillis 10)),
    .submit "past" (.at (-5)), .cancel "soon", .cancel "past", .advance 20,
    .submit "level" (.after (.ofMillis 10)), .advance 10, .submit "last" (.after (.ofMillis 50)),
    .cancelToken "stop", .fateOf "last", .submit "refused" (.at 0)]

theorem Session.agrees_with_plan_of_past_due :
    List.Forall₂ (Plan.Agrees (V := Nat) "main")
      [(.accepted ⟨1⟩, [⟨0, []⟩]), (.accepted ⟨2⟩, [⟨0, []⟩]),
        (.accepted ⟨3⟩, [⟨0, [⟨-5, ⟨3⟩, "past"⟩]⟩]), (.flag true, [⟨0, []⟩]),
        (.flag false, [⟨0, []⟩]),
        (.clock 20, [⟨10000000, []⟩, ⟨20000000, []⟩, ⟨20000000, []⟩]),
        (.accepted ⟨4⟩, [⟨20000000, []⟩]),
        (.clock 30, [⟨30000000, [⟨30000000, ⟨4⟩, "level"⟩, ⟨30000000, ⟨1⟩, "late"⟩]⟩,
          ⟨30000000, []⟩]),
        (.accepted ⟨5⟩, [⟨30000000, []⟩]), (.ok, [⟨30000000, []⟩]),
        (.fate ⟨5⟩ .cancelled, [⟨30000000, []⟩]),
        (.refused (.stopped "M"), [⟨30000000, []⟩])]
      (answersFrom (opened "main" { name := "M", token := .named "stop" } 0 [])
        (Plan.sample.map (Plan.Command.given "main"))) :=
  (agrees_with_plan "main" { name := "M", token := .named "stop" } 0 [] Plan.sample).1

end Agenda
