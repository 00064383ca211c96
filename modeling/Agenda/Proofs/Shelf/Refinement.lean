import Agenda.Proofs.Session.Opening
import Agenda.Proofs.Shelf.Acts
import Mathlib

/-!
# Caches are shelves

A session in which there are caches on one scheduler, and besides these only harmless tasks, gives
the answers that shelves give, and has the same entries after every step and every tick.
-/

namespace Agenda

universe u

variable {V : Type u}

namespace Shelves

def Act.given (label : Label) : Act V → Session.Command V
  | .create cache => .deed (.request (.createCacheOn cache label))
  | .access cache key asked => .deed (.request (.access cache key asked))
  | .delete cache key => .deed (.request (.delete cache key))
  | .ask cache question => .deed (.request (.consult cache question.query))
  | .advance millis => .advance millis
  | .other deed => .deed deed

def start (now : Int) : Shelves V := { now }

def Agrees (expected : Option (Reply V)) (answer : Session.Answer V) : Prop :=
  ∀ {reply}, expected = some reply → answer.outcome = .reply reply

structure Rests (label : Label) (token : Token) (shelves : Shelves V) (system : System V) :
    Prop where
  alike : shelves.Alike system
  atRest : ∃ scheduler, system.AtRest label token scheduler

variable {label : Label} {token : Token} {shelves : Shelves V} {system : System V}
  {scheduler : Scheduler (Work V)}

theorem Alike.settle (alike : shelves.Alike system) (tidy : system.Tidy label token scheduler) :
    shelves.vanish.Rests label token system.settle := by
  obtain ⟨rest, now, labels, records⟩ := tidy.settle
  refine ⟨⟨now.trans alike.now, ?_, ?_⟩, rest⟩
  · intro cache
    rw [labels, shelf?_vanish, Option.isSome_map]
    exact alike.known cache
  · intro cache key
    rw [records, System.live?, alike.records, alike.now, shelf?_vanish]
    cases present : shelves.shelf? cache with
    | none => rfl
    | some shelf =>
        rw [Option.bind_some, Option.map_some, Option.bind_some, Shelf.left,
          Std.TreeMap.getElem?_filter']

theorem Rests.pass (rests : shelves.Rests label token system) (ticks : Nat) :
    (shelves.pass ticks).Rests label token (Session.pass ticks system).2 := by
  induction ticks generalizing shelves system with
  | zero => exact rests
  | succ ticks inductionHypothesis =>
      obtain ⟨scheduler, rest⟩ := rests.atRest
      have forth : 0 ≤ Clock.ofMillis Session.tickMillis 0 := by decide
      have tidy := rest.tick forth
      have alike := rests.alike.tick (Clock.ofMillis Session.tickMillis 0)
      exact inductionHypothesis (alike.settle tidy)

theorem execute_of_meets {request : Request V} {expected : Reply V × Shelves V}
    (met : ∃ given, system.answer? request = some given ∧ Meets label token expected given) :
    (∀ {reply}, some expected.1 = some reply →
        (Session.execute system (.deed (.request request))).1 = .reply reply) ∧
      expected.2.Alike (Session.execute system (.deed (.request request))).2.2 ∧
      ∃ scheduler, (Session.execute system (.deed (.request request))).2.2.Tidy label token
        scheduler := by
  obtain ⟨given, answered, meets⟩ := met
  have performed : Session.perform system (.request request) = given := by
    rw [Session.perform, answered]
    rfl
  rw [Session.execute, performed]
  refine ⟨?_, meets.alike, meets.tidy⟩
  intro reply same
  cases same
  exact congrArg Session.Outcome.reply meets.reply

/-- An act, up to the point where the system is left to itself. -/
theorem Rests.execute (rests : shelves.Rests label token system) {act : Act V}
    (harmless : act.IsHarmless token) :
    (∀ {reply}, (shelves.perform act).1 = some reply →
        (Session.execute system (act.given label)).1 = .reply reply) ∧
      (shelves.perform act).2.Alike (Session.execute system (act.given label)).2.2 ∧
      ∃ scheduler, (Session.execute system (act.given label)).2.2.Tidy label token scheduler := by
  obtain ⟨scheduler, rest⟩ := rests.atRest
  cases act with
  | create cache => exact execute_of_meets (rest.meets_create rests.alike cache)
  | access cache key asked => exact execute_of_meets (rest.meets_access rests.alike cache key asked)
  | delete cache key => exact execute_of_meets (rest.meets_delete rests.alike cache key)
  | ask cache question => exact execute_of_meets (rest.meets_ask rests.alike cache question)
  | advance millis =>
      have passed := rests.pass (millis / Session.tickMillis)
      obtain ⟨scheduler, rest⟩ := passed.atRest
      refine ⟨fun same => ?_, passed.alike, scheduler, rest.toTidy⟩
      cases same
      have now := congrArg Clock.toMillis passed.alike.now
      exact congrArg (fun millis => Session.Outcome.reply (Reply.clock millis)) now
  | other deed =>
      have mild : deed.IsHarmless token := harmless
      obtain ⟨spares, tidy⟩ := rest.perform mild
      exact ⟨nofun, rests.alike.spare spares, tidy⟩

theorem Rests.step (rests : shelves.Rests label token system) {act : Act V}
    (harmless : act.IsHarmless token) :
    (shelves.step act).2.Rests label token (Session.step system (act.given label)).2 ∧
      Agrees (shelves.step act).1 (Session.step system (act.given label)).1 := by
  obtain ⟨reply, alike, scheduler, tidy⟩ := rests.execute harmless
  exact ⟨alike.settle tidy, reply⟩

theorem Rests.follow (rests : shelves.Rests label token system) {acts : List (Act V)}
    (harmless : ∀ act ∈ acts, act.IsHarmless token) :
    (shelves.follow acts).2.Rests label token
        (Session.after system (acts.map (Act.given label))) ∧
      List.Forall₂ Agrees (shelves.follow acts).1
        (Session.answersFrom system (acts.map (Act.given label))) := by
  induction acts generalizing shelves system with
  | nil => exact ⟨rests, .nil⟩
  | cons act acts inductionHypothesis =>
      obtain ⟨first, others⟩ := List.forall_mem_cons.1 harmless
      obtain ⟨middle, agrees⟩ := rests.step first
      obtain ⟨last, agree⟩ := inductionHypothesis middle others
      exact ⟨last, .cons agrees agree⟩

theorem rests_start (label : Label) (settings : Settings) (now : Int) :
    (start now).Rests (V := V) label settings.token (Session.opened label settings now []) := by
  have running : ({ now, cancelledTokens := [] } : System V).isCancelled settings.token = false := by
    cases settings.token <;> rfl
  have created := System.create_eq (V := V) label settings now []
  rw [running] at created
  generalize opened : (({ now, cancelledTokens := [] } : System V).create label settings).2
    = system at created
  have tidy : system.Tidy label settings.token (Scheduler.start settings false) := by
    rw [created]
    refine ⟨⟨rfl, Std.TreeMap.getElem?_insert_self, rfl⟩, rfl,
      ⟨Scheduler.sound_start .., rfl, rfl, ⟨nofun, nofun⟩⟩, ?_, ?_, ?_⟩
    · intro handle held found
      cases Std.TreeMap.getElem?_emptyc.symm.trans found
    · intro cache id labelled
      cases Std.TreeMap.getElem?_emptyc.symm.trans labelled
    · intro first second id labelled
      cases Std.TreeMap.getElem?_emptyc.symm.trans labelled
  have alike : (start now).Alike system := by
    rw [created]
    refine ⟨rfl, ?_, ?_⟩
    · intro cache
      exact congrArg Option.isSome Std.TreeMap.getElem?_emptyc
    · intro cache key
      exact System.record?_of_none Std.TreeMap.getElem?_emptyc key
  rw [← opened] at alike tidy
  exact alike.settle tidy

end Shelves

/-- The caches on a scheduler cannot be told apart from shelves: as long as all else is harmless,
every reply about them is the same, and after every step and every tick they have the same
entries. -/
theorem Session.agrees_with_shelves (label : Label) (settings : Settings) (now : Int)
    (acts : List (Shelves.Act V)) (harmless : ∀ act ∈ acts, act.IsHarmless settings.token) :
    List.Forall₂ Shelves.Agrees ((Shelves.start now).follow acts).1
        (answersFrom (opened label settings now []) (acts.map (Shelves.Act.given label))) ∧
      ∀ count ticks, Shelves.Alike
        (((Shelves.start now).follow (acts.take count)).2.pass ticks)
        (pass ticks (after (opened label settings now [])
          ((acts.take count).map (Shelves.Act.given label)))).2 := by
  have start := Shelves.rests_start (V := V) label settings now
  constructor
  · exact (start.follow harmless).2
  · intro count ticks
    have some : ∀ act ∈ acts.take count, act.IsHarmless settings.token := fun act taken =>
      harmless act (List.mem_of_mem_take taken)
    exact ((start.follow some).1.pass ticks).alike

/-- Of two entries with the same time to live, one is read in time and the other is not. -/
def Shelves.sample : List (Shelves.Act Nat) :=
  [.create "first", .create "second", .access "first" "key" (.set 1 (.ofMillis 30)),
    .access "second" "key" (.add 2 (.ofMillis 30)),
    .other (.submit "main" "task" (.after (.ofMillis 5)) .done), .advance 20,
    .access "first" "key" .read, .advance 20, .ask "first" (.contains "key"),
    .ask "second" (.contains "key"), .delete "first" "key"]

theorem Session.agrees_with_shelves_of_two_caches :
    (∀ act ∈ Shelves.sample, act.IsHarmless .own) ∧
      List.Forall₂ Shelves.Agrees
        [some .ok, some .ok, some (.found none), some .ok, none, some (.clock 20),
          some (.found (some 1)), some (.clock 40), some (.flag true), some (.flag false),
          some (.found (some 1))]
        (answersFrom (opened "main" {} 0 [])
          (Shelves.sample.map (Shelves.Act.given "main"))) := by
  have harmless : ∀ act ∈ Shelves.sample, act.IsHarmless .own := by
    simp [Shelves.sample, Shelves.Act.IsHarmless, Session.Deed.IsHarmless, Script.IsHarmless]
  have agrees := (agrees_with_shelves "main" {} 0 Shelves.sample harmless).1
  have replies : ((Shelves.start 0).follow Shelves.sample).1
      = [some .ok, some .ok, some (.found none), some .ok, none, some (.clock 20),
          some (.found (some 1)), some (.clock 40), some (.flag true), some (.flag false),
          some (.found (some 1))] := by cbv
  rw [replies] at agrees
  exact ⟨harmless, agrees⟩

end Agenda
