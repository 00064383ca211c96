import Agenda.Proofs.Rejection.Meeting
import Agenda.Proofs.Session.Grouping

/-!
# Sessions on the way to a mark

A session in which a piece is inserted somewhere goes on as without the piece until a worker comes to
it, if any does.  If the piece is an attempt that fails, the session differs by one event from then on.
-/

namespace Agenda

universe u v

variable {V : Type u}

namespace Session

section Starts

/-- The systems that are left to themselves while time passes. -/
def passStarts : Nat → System V → List (System V)
  | 0, _ => []
  | ticks + 1, system =>
      let later := { system with now := system.now + Clock.ofMillis tickMillis 0 }
      later :: passStarts ticks (settle later).2

def accessStarts (system : System V) (millis : Nat) (label : Label) (key : String)
    (access : Access V) : List (System V) :=
  match system.cacheAt? label with
  | none => []
  | some (id, cache) =>
      match system.book id cache key access with
      | .error _ => []
      | .ok (_, system) => passStarts (millis / tickMillis) system

def executeStarts (system : System V) : Command V → List (System V)
  | .deed _ => []
  | .advance millis => passStarts (millis / tickMillis) system
  | .slowAccess millis cache key access => accessStarts system millis cache key access
  | .parallel _ => []

def stepStarts (system : System V) (command : Command V) : List (System V) :=
  executeStarts system command ++ [(execute system command).2.2]

def starts (system : System V) : List (Command V) → List (System V)
  | [] => []
  | command :: commands =>
      stepStarts system command ++ starts (step system command).2 commands

end Starts

section Gains

/-- One event has been put somewhere between the others. -/
def Gains (event : Event V) (more events : List (Event V)) : Prop :=
  ∃ front back, more = front ++ event :: back ∧ events = front ++ back

variable {event : Event V} {more events : List (Event V)}

theorem Gains.append_right (gains : Gains event more events) (others : List (Event V)) :
    Gains event (more ++ others) (events ++ others) := by
  obtain ⟨front, back, rfl, rfl⟩ := gains
  exact ⟨front, back ++ others, by simp, by simp⟩

theorem Gains.append_left (gains : Gains event more events) (others : List (Event V)) :
    Gains event (others ++ more) (others ++ events) := by
  obtain ⟨front, back, rfl, rfl⟩ := gains
  exact ⟨others ++ front, back, by simp, by simp⟩

theorem gains_of_discloses {image image' system system' : System V}
    (discloses : System.Discloses event image image' system system') :
    Gains event (grouped (eventsSince image image')) (grouped (eventsSince system system')) := by
  obtain ⟨front, back, sees, knows⟩ := discloses
  rw [eventsSince_of_append sees, eventsSince_of_append knows]
  obtain ⟨first, last, without, whole⟩ := exists_grouped_insert event front back
  exact ⟨first, last, whole, without⟩

/-- The same is said besides the event that one of the two has in addition. -/
def GainsBeside {α : Type v} (event : Event V) (more less : α × List (Event V)) : Prop :=
  more.1 = less.1 ∧ Gains event more.2 less.2

def AnswerGains (event : Event V) (more answer : Answer V) : Prop :=
  ∃ events, Gains event events answer.events ∧ more = { answer with events }

def AnswersGain (event : Event V) (more answers : List (Answer V)) : Prop :=
  ∃ earlier whole answer later, AnswerGains event whole answer ∧
    more = earlier ++ whole :: later ∧ answers = earlier ++ answer :: later

theorem AnswersGain.cons {more answers : List (Answer V)} (gains : AnswersGain event more answers)
    (answer : Answer V) : AnswersGain event (answer :: more) (answer :: answers) := by
  obtain ⟨earlier, whole, less, later, gains, rfl, rfl⟩ := gains
  exact ⟨answer :: earlier, whole, less, later, gains, rfl, rfl⟩

end Gains

end Session

namespace System

variable {image system before after : System V} {mark : Option Mark}
  {images reflected : (Script V → Script V) → System V}

/-- The systems differ by what is inserted at a mark that no worker has come to. -/
structure Approaches (mark : Option Mark) (images : (Script V → Script V) → System V)
    (system : System V) : Prop extends Marked mark images system where
  away : system.Away mark

theorem Away.onward (away : before.Away mark) (hands : ∀ id, after.hand? id = before.hand? id)
    (detains : ∀ id, Detains id before after) : after.Away mark := by
  intro m same arrived
  refine away m same ⟨arrived.here, ?_, detains _ arrived.free⟩
  rw [← hands]
  exact arrived.hand

namespace Approaches

theorem refl (reachable : Reachable system) : Approaches none (fun _ => system) system where
  mirrors _ := .refl system
  knows := nofun
  reachable := reachable
  away := nofun

theorem twins (approaches : Approaches mark images system) (piece : Script V → Script V) :
    (images piece).Twins (Guise.marked piece mark) system :=
  ⟨approaches.mirrors piece, approaches.suits piece, approaches.reachable⟩

theorem onward (approaches : Approaches mark images system)
    (mirrors : ∀ piece, Mirrors (Guise.marked piece mark) (reflected piece) after)
    (leads : Leads system after) (hands : ∀ id, after.hand? id = system.hand? id)
    (detains : ∀ id, Detains id system after) : Approaches mark reflected after where
  mirrors := mirrors
  knows same := (approaches.knows same).leads leads
  reachable := approaches.reachable.leads leads
  away := approaches.away.onward hands detains

theorem quiet (approaches : Approaches mark images system)
    (mirrors : ∀ piece, Mirrors (Guise.marked piece mark) (reflected piece) after)
    (leads : Leads system after) (quiet : Quiet system after) : Approaches mark reflected after :=
  approaches.onward mirrors leads quiet.hands fun _ => quiet.detains

theorem tick (approaches : Approaches mark images system) :
    Approaches mark (fun piece =>
        { images piece with now := (images piece).now + Clock.ofMillis Session.tickMillis 0 })
      { system with now := system.now + Clock.ofMillis Session.tickMillis 0 } := by
  have forth : 0 ≤ Clock.ofMillis Session.tickMillis 0 := by decide
  exact approaches.quiet (fun piece => (approaches.twins piece).tick.mirrors)
    (.single (.pass (by omega))) (.of_eq rfl rfl rfl)

theorem perform (approaches : Approaches mark images system) (deed : Session.Deed V) :
    (∀ piece, (Session.perform (images piece) deed).1 = (Session.perform system deed).1) ∧
      Approaches mark (fun piece => (Session.perform (images piece) deed).2)
        (Session.perform system deed).2 := by
  have performed (piece : Script V → Script V) :=
    Session.Twins.perform (approaches.twins piece) deed
  refine ⟨fun piece => (performed piece).1, approaches.onward (fun piece => (performed piece).2.mirrors)
    (.single (.deed system deed)) ?_ fun _ => detains_perform system deed⟩
  rcases quiet_or_parts_perform system deed with quiet | ⟨_, parts⟩
  · exact quiet.hands
  · exact parts.silent.1

theorem performAll (approaches : Approaches mark images system) (deeds : List (Session.Deed V)) :
    (∀ piece, (Session.performAll (images piece) deeds).1 = (Session.performAll system deeds).1) ∧
      Approaches mark (fun piece => (Session.performAll (images piece) deeds).2)
        (Session.performAll system deeds).2 := by
  induction deeds generalizing images system with
  | nil => exact ⟨fun _ => rfl, approaches⟩
  | cons deed deeds inductionHypothesis =>
      obtain ⟨reply, performed⟩ := approaches.perform deed
      obtain ⟨replies, rest⟩ := inductionHypothesis performed
      exact ⟨fun piece => congrArg₂ (Session.anonymous · :: ·) (reply piece) (replies piece), rest⟩

theorem performThreads (approaches : Approaches mark images system)
    (threads : List (List (Session.Deed V))) :
    (∀ piece, (Session.performThreads (images piece) threads).1 =
        (Session.performThreads system threads).1) ∧
      Approaches mark (fun piece => (Session.performThreads (images piece) threads).2)
        (Session.performThreads system threads).2 := by
  induction threads generalizing images system with
  | nil => exact ⟨fun _ => rfl, approaches⟩
  | cons deeds threads inductionHypothesis =>
      obtain ⟨replies, performed⟩ := approaches.performAll deeds
      obtain ⟨others, rest⟩ := inductionHypothesis performed
      exact ⟨fun piece => congrArg₂ List.cons (replies piece) (others piece), rest⟩

theorem confirm (approaches : Approaches mark images system) {booking : Booking V}
    (held : booking ∈ system.bookings) :
    (∀ piece, ((images piece).confirm booking).1 = (system.confirm booking).1) ∧
      Approaches mark (fun piece => ((images piece).confirm booking).2) (system.confirm booking).2 := by
  have confirmed (piece : Script V → Script V) : Agrees (Guise.marked piece mark)
      ((images piece).confirm booking) (system.confirm booking) := by
    have agrees := (approaches.mirrors piece).confirm booking
    cases mark <;> exact agrees
  exact ⟨fun piece => (confirmed piece).reply, approaches.quiet (fun piece => (confirmed piece).mirrors)
    (.single (.confirm held)) (.confirm system booking)⟩

end Approaches

end System

namespace Session

open Agenda.System

variable {α : Type v} {β : Type v} {γ : Type v} {image system : System V} {mark : Option Mark}
  {images : (Script V → Script V) → System V}

/-- What an attempt that fails at the mark comes to: it shows in the result by one event, and nothing
else can be told apart from then on. -/
def Differs (gains : Event V → α → α → Prop) (image result : α × System V) (event : Event V) : Prop :=
  gains event image.1 result.1 ∧ image.2.Indistinct result.2

/-- A part of a session, with a piece inserted and without.  The results are the same, and the piece
is still to come if it ever comes, or a worker comes to it in the meantime. -/
inductive Course (gains : Event V → α → α → Prop)
    (starts : (Script V → Script V) → List (System V)) (images : (Script V → Script V) → α × System V)
    (result : α × System V) : Prop where
  | onward (next : Option Mark) : Approaches next (fun piece => (images piece).2) result.2 →
      (∀ piece, (images piece).1 = result.1) → Course gains starts images result
  | meets (juncture : Juncture V) :
      (∀ piece, Meets juncture (starts piece) piece (Differs gains (images piece) result)) →
      Course gains starts images result

theorem Course.andThen {first : Event V → α → α → Prop} {second : Event V → β → β → Prop}
    {whole : Event V → γ → γ → Prop} {starts : (Script V → Script V) → List (System V)}
    {images : (Script V → Script V) → α × System V} {result : α × System V}
    (course : Course first starts images result) (next : System V → β × System V)
    (ends : System V → List (System V)) (join : α → β → γ)
    (approaches : ∀ {mark}, Approaches mark (fun piece => (images piece).2) result.2 →
      Course second (fun piece => ends (images piece).2) (fun piece => next (images piece).2)
        (next result.2))
    (alike : ∀ {piece}, (images piece).2.Indistinct result.2 →
      (next (images piece).2).1 = (next result.2).1 ∧
        (next (images piece).2).2.Indistinct (next result.2).2)
    (early : ∀ {event more less} (rest : β), first event more less →
      whole event (join more rest) (join less rest))
    (late : ∀ {event more less} (begun : α), second event more less →
      whole event (join begun more) (join begun less)) :
    Course whole (fun piece => starts piece ++ ends (images piece).2)
      (fun piece => (join (images piece).1 (next (images piece).2).1, (next (images piece).2).2))
      (join result.1 (next result.2).1, (next result.2).2) := by
  cases course with
  | onward mark approaching same =>
      cases approaches approaching with
      | onward mark onward again =>
          exact .onward mark onward fun piece => congrArg₂ join (same piece) (again piece)
      | meets juncture meets =>
          refine .meets juncture fun piece => (meets piece).imp (List.subset_append_right _ _) ?_
          rintro event ⟨gains, others⟩
          refine ⟨?_, others⟩
          dsimp only
          rw [same]
          exact late _ gains
  | meets juncture meets =>
      refine .meets juncture fun piece => (meets piece).imp (List.subset_append_left _ _) ?_
      rintro event ⟨gains, others⟩
      obtain ⟨same, further⟩ := alike others
      refine ⟨?_, further⟩
      dsimp only
      rw [same]
      exact early _ gains

theorem Course.andEnd {first : Event V → α → α → Prop} {whole : Event V → γ → γ → Prop}
    {starts : (Script V → Script V) → List (System V)}
    {images : (Script V → Script V) → α × System V} {result : α × System V}
    (course : Course first starts images result) (next : System V → β × System V) (join : α → β → γ)
    (approaches : ∀ {mark}, Approaches mark (fun piece => (images piece).2) result.2 →
      (∀ piece, (next (images piece).2).1 = (next result.2).1) ∧
        Approaches mark (fun piece => (next (images piece).2).2) (next result.2).2)
    (alike : ∀ {piece}, (images piece).2.Indistinct result.2 →
      (next (images piece).2).1 = (next result.2).1 ∧
        (next (images piece).2).2.Indistinct (next result.2).2)
    (early : ∀ {event more less} (rest : β), first event more less →
      whole event (join more rest) (join less rest)) :
    Course whole starts
      (fun piece => (join (images piece).1 (next (images piece).2).1, (next (images piece).2).2))
      (join result.1 (next result.2).1, (next result.2).2) := by
  have ends {mark : Option Mark} (onward : Approaches mark (fun piece => (images piece).2) result.2) :
      Course (fun _ _ _ => False) (fun _ => []) (fun piece => next (images piece).2)
        (next result.2) := by
    obtain ⟨same, further⟩ := approaches onward
    exact .onward mark further same
  have joined := course.andThen next (fun _ => []) join ends alike early fun _ never => never.elim
  simp only [List.append_nil] at joined
  exact joined

theorem Course.settle (approaches : Approaches mark images system) :
    Course Gains (fun piece => [images piece]) (fun piece => Session.settle (images piece))
      (Session.settle system) := by
  rcases approaches.toMarked.settle approaches.away with ⟨next, rests, still⟩ | ⟨juncture, meets⟩
  · refine .onward next ⟨rests, still⟩ fun piece => congrArg grouped ?_
    have before := approaches.toMarked.events piece
    obtain ⟨_, _, _, known, tells⟩ := (leads_settle system).informs
    have grown : (images piece).settle.events.toList = (images piece).events.toList ++ known := by
      rw [rests.events, tells.events, before]
    rw [eventsSince_of_append tells.events, eventsSince_of_append grown]
  · refine .meets juncture fun piece => (meets piece).imp (fun _ => id) ?_
    rintro event ⟨discloses, others⟩
    exact ⟨gains_of_discloses discloses, others⟩

theorem Course.pass (ticks : Nat) (approaches : Approaches mark images system) :
    Course Gains (fun piece => passStarts ticks (images piece))
      (fun piece => Session.pass ticks (images piece)) (Session.pass ticks system) := by
  induction ticks generalizing mark images system with
  | zero => exact .onward mark approaches fun _ => rfl
  | succ ticks inductionHypothesis =>
      exact (Course.settle approaches.tick).andThen (Session.pass ticks) (passStarts ticks)
        (· ++ ·) (fun onward => inductionHypothesis onward) (fun alike => Indistinct.pass alike ticks)
        (fun rest gains => gains.append_right rest) fun begun gains => gains.append_left begun

def told (result : α × List (Event V) × System V) : (α × List (Event V)) × System V :=
  ((result.1, result.2.1), result.2.2)

/-- An access during which time passes takes the lock in the image as well. -/
theorem exists_book_of_approaches (approaches : Approaches mark images system) (millis : Nat)
    {label : Label} {key : String} {access : Access V} {id : CacheId} {cache : Cache V}
    (located : system.cacheAt? label = some (id, cache)) {booking : Booking V} {locked : System V}
    (booked : system.book id cache key access = .ok (booking, locked))
    (piece : Script V → Script V) :
    ∃ reflected, Mirrors (Guise.marked piece mark) reflected locked ∧
      accessStarts (images piece) millis label key access =
        passStarts (millis / tickMillis) reflected ∧
      Session.accessSlowly (images piece) millis label key access =
        (((Session.pass (millis / tickMillis) reflected).2.confirm booking).1,
          (Session.pass (millis / tickMillis) reflected).1,
          ((Session.pass (millis / tickMillis) reflected).2.confirm booking).2) := by
  have mirrors := approaches.mirrors piece
  obtain ⟨twin, found, alike⟩ := mirrors.cacheAt?_of_some located
  rcases mirrors.book (approaches.suits piece) (cache?_of_cacheAt? located) alike key access with
    ⟨reply, _, own⟩ | ⟨_, _, reflected, seen, own, books⟩
  · cases booked.symm.trans own
  · cases booked.symm.trans own
    have same : (Guise.marked piece mark).booking booking = booking := by cases mark <;> rfl
    rw [same] at seen
    refine ⟨reflected, books, ?_, ?_⟩
    · simp only [accessStarts, found, seen]
    · simp only [Session.accessSlowly, found, seen]

theorem accessSlowly_of_error (approaches : Approaches mark images system) (millis : Nat)
    {label : Label} {key : String} {access : Access V} {id : CacheId} {cache : Cache V}
    (located : system.cacheAt? label = some (id, cache)) {reply : Reply V}
    (refused : system.book id cache key access = .error reply) (piece : Script V → Script V) :
    Session.accessSlowly (images piece) millis label key access = (reply, [], images piece) := by
  obtain ⟨twin, found, alike⟩ := (approaches.mirrors piece).cacheAt?_of_some located
  rcases (approaches.mirrors piece).book (approaches.suits piece) (cache?_of_cacheAt? located) alike
    key access with ⟨_, seen, own⟩ | ⟨_, _, _, _, own, _⟩
  · cases refused.symm.trans own
    simp only [Session.accessSlowly, found, seen]
  · cases refused.symm.trans own

theorem Course.slowAccess (approaches : Approaches mark images system) (free : system.bookings = [])
    (millis : Nat) (label : Label) (key : String) (access : Access V) :
    Course GainsBeside (fun piece => executeStarts (images piece) (.slowAccess millis label key access))
      (fun piece => told (Session.execute (images piece) (.slowAccess millis label key access)))
      (told (Session.execute system (.slowAccess millis label key access))) := by
  simp only [executeStarts, Session.execute]
  cases located : system.cacheAt? label with
  | none =>
      have missing (piece : Script V → Script V) :=
        (approaches.mirrors piece).cacheAt?_of_none located
      simp only [Session.accessSlowly, located, missing]
      exact .onward mark approaches fun _ => rfl
  | some held =>
      obtain ⟨id, cache⟩ := held
      cases booked : system.book id cache key access with
      | error reply =>
          have refused := accessSlowly_of_error approaches millis located booked
          simp only [refused]
          simp only [Session.accessSlowly, located, booked]
          exact .onward mark approaches fun _ => rfl
      | ok result =>
          obtain ⟨booking, locked⟩ := result
          have books (piece : Script V → Script V) :=
            exists_book_of_approaches approaches millis located booked piece
          choose reflected mirrors starts passes using books
          have locks : Step system locked :=
            .book located (isAccessible_of_free free id key access) booked
          have taken := approaches.quiet mirrors (.single locks) (.book booked)
          have only : (Session.pass (millis / tickMillis) locked).2.bookings = [booking] := by
            obtain ⟨_, _, _, same⟩ := eq_of_book booked
            rw [(Proceeds.pass (millis / tickMillis) taken.reachable).bookings, same, free]
          simp only [starts, passes]
          simp only [Session.accessSlowly, located, booked]
          exact (Course.pass (millis / tickMillis) taken).andEnd
            (fun system => (Outcome.reply (system.confirm booking).1, (system.confirm booking).2))
            (fun events outcome => (outcome, events))
            (fun onward => by
              obtain ⟨reply, confirmed⟩ := onward.confirm (by rw [only]; exact List.mem_singleton_self _)
              exact ⟨fun piece => congrArg Outcome.reply (reply piece), confirmed⟩)
            (fun alike => by
              obtain ⟨reply, confirmed⟩ := Indistinct.confirm alike only
              exact ⟨congrArg Outcome.reply reply, confirmed⟩)
            fun _ gains => ⟨rfl, gains⟩

theorem Course.advance (approaches : Approaches mark images system) (millis : Nat) :
    Course GainsBeside (fun piece => executeStarts (images piece) (.advance millis))
      (fun piece => told (Session.execute (images piece) (.advance millis)))
      (told (Session.execute system (.advance millis))) :=
  (Course.pass (millis / tickMillis) approaches).andEnd
    (fun system => (Outcome.reply (.clock (Clock.toMillis system.now)), system))
    (fun events outcome => (outcome, events))
    (fun onward => ⟨fun piece => by rw [(onward.mirrors piece).now], onward⟩)
    (fun alike => by
      have same := alike
      obtain ⟨_, _, twins, _⟩ := same
      exact ⟨by rw [twins.mirrors.now], alike⟩)
    fun _ gains => ⟨rfl, gains⟩

theorem Course.execute (approaches : Approaches mark images system) (free : system.bookings = [])
    (command : Command V) :
    Course GainsBeside (fun piece => executeStarts (images piece) command)
      (fun piece => told (Session.execute (images piece) command))
      (told (Session.execute system command)) := by
  cases command with
  | deed deed =>
      obtain ⟨reply, performed⟩ := approaches.perform deed
      exact .onward mark performed fun piece =>
        congrArg (fun reply => (Outcome.reply reply, ([] : List (Event V)))) (reply piece)
  | advance millis => exact .advance approaches millis
  | slowAccess millis cache key access => exact .slowAccess approaches free millis cache key access
  | parallel threads =>
      obtain ⟨replies, performed⟩ := approaches.performThreads threads
      exact .onward mark performed fun piece =>
        congrArg (fun replies => (Outcome.threads replies, ([] : List (Event V)))) (replies piece)

theorem Course.step (approaches : Approaches mark images system)
    {asked : (Script V → Script V) → Command V} {command : Command V}
    (course : Course GainsBeside (fun piece => executeStarts (images piece) (asked piece))
      (fun piece => told (Session.execute (images piece) (asked piece)))
      (told (Session.execute system command))) :
    Course AnswerGains (fun piece => stepStarts (images piece) (asked piece))
      (fun piece => Session.step (images piece) (asked piece)) (Session.step system command) := by
  have whole : Course GainsBeside _ _ _ := course.andThen Session.settle (fun system => [system])
    (fun said events => (said.1, said.2 ++ events)) (fun onward => Course.settle onward)
    (fun alike => Indistinct.settle alike) (fun rest gains => ⟨gains.1, gains.2.append_right rest⟩)
    fun said gains => ⟨rfl, gains.append_left said.2⟩
  cases whole with
  | onward next approaching same =>
      refine .onward next approaching fun piece => ?_
      obtain ⟨outcome, events⟩ := Prod.mk.inj (same piece)
      have answer := answer_of_mirrors (approaches.mirrors piece) (approaching.mirrors piece)
      exact answer.trans (congrArg₂ (fun outcome events =>
        { (Session.step system command).1 with outcome, events }) outcome events)
  | meets juncture meets =>
      refine .meets juncture fun piece => (meets piece).imp (fun _ => id) ?_
      rintro event ⟨⟨outcome, gains⟩, alike⟩
      refine ⟨⟨_, gains, ?_⟩, alike⟩
      obtain ⟨_, _, twins, _⟩ := alike
      have answer := answer_of_mirrors (approaches.mirrors piece) twins.mirrors
      exact answer.trans (congrArg (fun outcome => { (Session.step system command).1 with
        outcome, events := (Session.step (images piece) (asked piece)).1.events }) outcome)

end Session

end Agenda
