import Agenda.Proofs.Rejection.Moves
import Agenda.Proofs.Session.Recording

/-!
# Sessions on mirror images

A session cannot tell a system from its mirror image: the answers are the same, to the lines of the
log.
-/

namespace Agenda

universe u

variable {V : Type u}

/-- A reachable system with its mirror image, which differs in nothing that is still to come. -/
structure System.Twins (guise : Guise V) (image system : System V) : Prop where
  mirrors : Mirrors guise image system
  suits : guise.Suits system
  reachable : Reachable system

theorem System.Twins.onward {guise : Guise V} {image system reflected after : System V}
    (twins : Twins guise image system) (mirrors : Mirrors guise reflected after)
    (leads : Leads system after) : Twins guise reflected after :=
  ⟨mirrors, twins.suits.leads twins.reachable.numbered leads, twins.reachable.leads leads⟩

theorem System.Twins.tick {guise : Guise V} {image system : System V}
    (twins : image.Twins guise system) :
    System.Twins guise { image with now := image.now + Clock.ofMillis Session.tickMillis 0 }
      { system with now := system.now + Clock.ofMillis Session.tickMillis 0 } := by
  have forth : 0 ≤ Clock.ofMillis Session.tickMillis 0 := by decide
  refine twins.onward ?_ (.single (.pass (by omega)))
  exact { twins.mirrors with now := congrArg (· + Clock.ofMillis Session.tickMillis 0) twins.mirrors.now }

def System.Indistinct (image system : System V) : Prop :=
  ∃ guise : Guise V, guise.Renumbers ∧ image.Twins guise system ∧ image.bookings = system.bookings

namespace Session

variable {guise : Guise V} {image system : System V}

section Seen

variable {guise₀ : Guise V} {image₀ system₀ : System V}

theorem eventsSince_mirrors (before : image₀.Mirrors guise system₀)
    (after : image.Mirrors guise system) : eventsSince image₀ image = eventsSince system₀ system := by
  obtain ⟨early, heard₀, kept₀⟩ := before.events
  obtain ⟨news, heard, kept⟩ := after.events
  have drops (past : List (Event V)) :
      (past ++ news).drop (past ++ early).length = news.drop early.length := by
    rw [List.length_append, ← List.drop_drop, List.drop_left]
  rw [eventsSince, eventsSince, ← Array.length_toList, ← Array.length_toList, heard₀, heard, kept₀,
    kept, drops, drops]

theorem flatMap_zipIdx_eq {α β γ : Type*} {items : List α} {others : List β}
    {first : α × Nat → List γ} {second : β × Nat → List γ}
    (same : ∀ index : Nat, items[index]?.map (fun item => first (item, index)) =
      others[index]?.map fun other => second (other, index)) :
    items.zipIdx.flatMap first = others.zipIdx.flatMap second := by
  rw [List.flatMap_def, List.flatMap_def]
  congr 1
  apply List.ext_getElem?
  intro index
  rw [List.getElem?_map, List.getElem?_map, List.getElem?_zipIdx, List.getElem?_zipIdx,
    Option.map_map, Option.map_map, Nat.zero_add]
  exact same index

theorem schedulerLinesSince_mirrors (before : image₀.Mirrors guise₀ system₀)
    (after : image.Mirrors guise system) :
    schedulerLinesSince image₀ image = schedulerLinesSince system₀ system := by
  refine flatMap_zipIdx_eq fun index => ?_
  have earlier : image₀.schedulers[index]? = _ := before.scheduler? ⟨index⟩
  have later : image.schedulers[index]? = _ := after.scheduler? ⟨index⟩
  rw [Array.getElem?_toList, Array.getElem?_toList, later, Option.map_map]
  dsimp only
  rw [earlier, Option.map_map]
  rfl

theorem cacheLinesSince_mirrors (before : image₀.Mirrors guise₀ system₀)
    (after : image.Mirrors guise system) :
    cacheLinesSince image₀ image = cacheLinesSince system₀ system := by
  have named (id : SchedulerId) : (image.scheduler? id).map Scheduler.name =
      (system.scheduler? id).map Scheduler.name := by
    rw [after.scheduler?, Option.map_map]
    rfl
  refine flatMap_zipIdx_eq fun index => ?_
  have earlier := before.map_cache? (fun old => old.journal.size)
    (fun alike => congrArg Array.size alike.journal) index
  rw [Array.getElem?_toList, Array.getElem?_toList]
  simp only [earlier, named]
  exact after.map_cache? _ (fun alike => by rw [alike.scheduler, alike.journal]) index

theorem linesSince_mirrors (before : image₀.Mirrors guise₀ system₀)
    (after : image.Mirrors guise system) : linesSince image₀ image = linesSince system₀ system := by
  rw [linesSince, schedulerLinesSince_mirrors before after, cacheLinesSince_mirrors before after,
    linesSince]

end Seen

/-- Commands on alike systems show the same, but for their outcome and the events. -/
theorem answer_of_mirrors {guise₀ : Guise V} {asked command : Command V}
    (before : image.Mirrors guise₀ system)
    (after : (Session.step image asked).2.Mirrors guise (Session.step system command).2) :
    (Session.step image asked).1 = { (Session.step system command).1 with
      outcome := (Session.execute image asked).1
      events := (Session.step image asked).1.events } := by
  have lines := linesSince_mirrors before after
  have returned := before.returned
  have returnedLater := after.returned
  unfold Session.step at lines returnedLater ⊢
  dsimp only at lines returnedLater ⊢
  rw [lines, returned, returnedLater]

theorem perform_mirrors (mirrors : image.Mirrors guise system) (suits : guise.Suits system)
    (deed : Deed V) : System.Agrees guise (perform image deed) (perform system deed) := by
  cases deed with
  | submit scheduler handle due script => exact mirrors.submit suits scheduler handle due script
  | request asked =>
      have answers := mirrors.answer? suits asked
      simp only [perform]
      cases answered : system.answer? asked with
      | none =>
          rw [answered] at answers
          rw [eq_none_of_rel answers]
          exact ⟨rfl, mirrors⟩
      | some result =>
          rw [answered] at answers
          obtain ⟨reflected, seen, agrees⟩ := exists_of_rel answers
          rw [seen]
          exact agrees
  | part parting helper =>
      simp only [perform]
      rcases mirrors.part? (.helper helper) parting with
        ⟨reply, seen, own⟩ | ⟨reflected, begun, seen, own, alike⟩
      · rw [seen, own]
        exact ⟨rfl, mirrors⟩
      · rw [seen, own]
        exact ⟨rfl, alike⟩

theorem Twins.perform (twins : image.Twins guise system) (deed : Deed V) :
    (Session.perform image deed).1 = (Session.perform system deed).1 ∧
      (Session.perform image deed).2.Twins guise (Session.perform system deed).2 := by
  obtain ⟨reply, alike⟩ := perform_mirrors twins.mirrors twins.suits deed
  exact ⟨reply, twins.onward alike (Proceeds.perform twins.reachable deed).leads⟩

theorem Twins.performAll (twins : image.Twins guise system) (deeds : List (Deed V)) :
    (Session.performAll image deeds).1 = (Session.performAll system deeds).1 ∧
      (Session.performAll image deeds).2.Twins guise (Session.performAll system deeds).2 := by
  induction deeds generalizing image system with
  | nil => exact ⟨rfl, twins⟩
  | cons deed deeds inductionHypothesis =>
      obtain ⟨reply, performed⟩ := Twins.perform twins deed
      obtain ⟨replies, rest⟩ := inductionHypothesis performed
      exact ⟨congrArg₂ (anonymous · :: ·) reply replies, rest⟩

theorem Twins.performThreads (twins : image.Twins guise system) (threads : List (List (Deed V))) :
    (Session.performThreads image threads).1 = (Session.performThreads system threads).1 ∧
      (Session.performThreads image threads).2.Twins guise
        (Session.performThreads system threads).2 := by
  induction threads generalizing image system with
  | nil => exact ⟨rfl, twins⟩
  | cons deeds threads inductionHypothesis =>
      obtain ⟨replies, performed⟩ := Twins.performAll twins deeds
      obtain ⟨others, rest⟩ := inductionHypothesis performed
      exact ⟨congrArg₂ List.cons replies others, rest⟩

section Running

variable (renumbers : guise.Renumbers)

include renumbers

theorem Twins.settle (twins : image.Twins guise system) :
    (Session.settle image).1 = (Session.settle system).1 ∧
      (Session.settle image).2.Twins guise (Session.settle system).2 := by
  have settled := twins.mirrors.settle twins.suits renumbers twins.reachable
  refine ⟨congrArg grouped (eventsSince_mirrors twins.mirrors settled), ?_⟩
  exact twins.onward settled (Proceeds.settle twins.reachable).leads

theorem Twins.pass (twins : image.Twins guise system) (ticks : Nat) :
    (Session.pass ticks image).1 = (Session.pass ticks system).1 ∧
      (Session.pass ticks image).2.Twins guise (Session.pass ticks system).2 := by
  induction ticks generalizing image system with
  | zero => exact ⟨rfl, twins⟩
  | succ ticks inductionHypothesis =>
      have later := twins.tick
      obtain ⟨first, settled⟩ := Twins.settle renumbers later
      obtain ⟨further, passed⟩ := inductionHypothesis settled
      exact ⟨congrArg₂ (· ++ ·) first further, passed⟩

theorem Twins.accessSlowly (twins : image.Twins guise system) (free : system.bookings = [])
    (millis : Nat) (label : Label) (key : String) (access : Access V) :
    (Session.accessSlowly image millis label key access).1 =
        (Session.accessSlowly system millis label key access).1 ∧
      (Session.accessSlowly image millis label key access).2.1 =
        (Session.accessSlowly system millis label key access).2.1 ∧
      (Session.accessSlowly image millis label key access).2.2.Twins guise
        (Session.accessSlowly system millis label key access).2.2 := by
  have leads := (Proceeds.accessSlowly twins.reachable free millis label key access).leads
  unfold Session.accessSlowly at leads ⊢
  cases located : system.cacheAt? label with
  | none =>
      rw [twins.mirrors.cacheAt?_of_none located]
      exact ⟨rfl, rfl, twins⟩
  | some held =>
      obtain ⟨id, cache⟩ := held
      obtain ⟨twin, found, alike⟩ := twins.mirrors.cacheAt?_of_some located
      rw [located] at leads
      rw [found]
      dsimp only at leads ⊢
      rcases twins.mirrors.book twins.suits (System.cache?_of_cacheAt? located) alike key access with
        ⟨reply, seen, own⟩ | ⟨booking, locked, reflected, seen, own, booked⟩
      · rw [seen, own]
        exact ⟨rfl, rfl, twins⟩
      · rw [own] at leads
        rw [seen, own]
        have books : System.Step system locked :=
          .book located (System.isAccessible_of_free free id key access) own
        obtain ⟨events, passed⟩ := Twins.pass renumbers (twins.onward booked (.single books))
          (millis / tickMillis)
        obtain ⟨reply, confirmed⟩ := passed.mirrors.confirm booking
        exact ⟨reply, events, twins.onward confirmed leads⟩

theorem Twins.execute (twins : image.Twins guise system) (free : system.bookings = [])
    (command : Command V) :
    (Session.execute image command).1 = (Session.execute system command).1 ∧
      (Session.execute image command).2.1 = (Session.execute system command).2.1 ∧
      (Session.execute image command).2.2.Twins guise (Session.execute system command).2.2 := by
  cases command with
  | deed deed =>
      obtain ⟨reply, performed⟩ := Twins.perform twins deed
      exact ⟨congrArg Outcome.reply reply, rfl, performed⟩
  | advance millis =>
      obtain ⟨events, passed⟩ := Twins.pass renumbers twins (millis / tickMillis)
      refine ⟨?_, events, passed⟩
      exact congrArg (fun now => Outcome.reply (.clock (Clock.toMillis now))) passed.mirrors.now
  | slowAccess millis cache key access =>
      obtain ⟨reply, rest⟩ := Twins.accessSlowly renumbers twins free millis cache key access
      exact ⟨congrArg Outcome.reply reply, rest⟩
  | parallel threads =>
      obtain ⟨replies, performed⟩ := Twins.performThreads twins threads
      exact ⟨congrArg Outcome.threads replies, rfl, performed⟩

theorem Twins.step (twins : image.Twins guise system) (free : system.bookings = [])
    (command : Command V) :
    (Session.step image command).1 = (Session.step system command).1 ∧
      (Session.step image command).2.Twins guise (Session.step system command).2 := by
  obtain ⟨outcome, events, executed⟩ := Twins.execute renumbers twins free command
  obtain ⟨later, settled⟩ := Twins.settle renumbers executed
  refine ⟨(answer_of_mirrors twins.mirrors settled.mirrors).trans ?_, settled⟩
  exact congrArg₂ (fun outcome events => { (Session.step system command).1 with outcome, events })
    outcome (congrArg₂ (· ++ ·) events later)

/-- The answers to the rest of a session are the same. -/
theorem Twins.answersFrom (twins : image.Twins guise system) (free : system.bookings = [])
    (commands : List (Command V)) :
    Session.answersFrom image commands = Session.answersFrom system commands := by
  induction commands generalizing image system with
  | nil => rfl
  | cons command commands inductionHypothesis =>
      obtain ⟨answer, stepped⟩ := Twins.step renumbers twins free command
      have still := (Proceeds.step twins.reachable free command).bookings.trans free
      exact congrArg₂ List.cons answer (inductionHypothesis stepped still)

end Running

section Indistinct

variable {reflected after : System V}

/-- The locks that are held in the end were held before, so that they are the same. -/
theorem indistinct_of_twins (renumbers : guise.Renumbers) (twins : image.Twins guise system)
    (same : image.bookings = system.bookings) (later : reflected.Twins guise after)
    (proceeds : Proceeds system after) : reflected.Indistinct after := by
  refine ⟨guise, renumbers, later, ?_⟩
  rw [later.mirrors.bookings, proceeds.bookings, ← twins.mirrors.bookings, same]

theorem Indistinct.settle (alike : image.Indistinct system) :
    (Session.settle image).1 = (Session.settle system).1 ∧
      (Session.settle image).2.Indistinct (Session.settle system).2 := by
  obtain ⟨guise, renumbers, twins, same⟩ := alike
  obtain ⟨events, settled⟩ := Twins.settle renumbers twins
  exact ⟨events, indistinct_of_twins renumbers twins same settled (.settle twins.reachable)⟩

theorem Indistinct.pass (alike : image.Indistinct system) (ticks : Nat) :
    (Session.pass ticks image).1 = (Session.pass ticks system).1 ∧
      (Session.pass ticks image).2.Indistinct (Session.pass ticks system).2 := by
  obtain ⟨guise, renumbers, twins, same⟩ := alike
  obtain ⟨events, passed⟩ := Twins.pass renumbers twins ticks
  exact ⟨events, indistinct_of_twins renumbers twins same passed (.pass ticks twins.reachable)⟩

theorem Indistinct.performAll (alike : image.Indistinct system) (deeds : List (Deed V)) :
    (Session.performAll image deeds).1 = (Session.performAll system deeds).1 ∧
      (Session.performAll image deeds).2.Indistinct (Session.performAll system deeds).2 := by
  obtain ⟨guise, renumbers, twins, same⟩ := alike
  obtain ⟨replies, performed⟩ := Twins.performAll twins deeds
  exact ⟨replies, indistinct_of_twins renumbers twins same performed (.performAll twins.reachable deeds)⟩

theorem Indistinct.performThreads (alike : image.Indistinct system) (threads : List (List (Deed V))) :
    (Session.performThreads image threads).1 = (Session.performThreads system threads).1 ∧
      (Session.performThreads image threads).2.Indistinct (Session.performThreads system threads).2 := by
  obtain ⟨guise, renumbers, twins, same⟩ := alike
  obtain ⟨replies, performed⟩ := Twins.performThreads twins threads
  exact ⟨replies,
    indistinct_of_twins renumbers twins same performed (.performThreads twins.reachable threads)⟩

theorem Indistinct.answersFrom (alike : image.Indistinct system) (free : system.bookings = [])
    (commands : List (Command V)) :
    Session.answersFrom image commands = Session.answersFrom system commands := by
  obtain ⟨guise, renumbers, twins, _⟩ := alike
  exact Twins.answersFrom renumbers twins free commands

theorem Indistinct.confirm {booking : Booking V} (alike : image.Indistinct system)
    (held : system.bookings = [booking]) :
    (image.confirm booking).1 = (system.confirm booking).1 ∧
      (image.confirm booking).2.Indistinct (system.confirm booking).2 := by
  obtain ⟨guise, renumbers, twins, same⟩ := alike
  have kept : guise.booking booking = booking := by
    have listed := twins.mirrors.bookings.symm.trans same
    rw [held] at listed
    exact (List.cons.inj listed).1
  have confirmed := twins.mirrors.confirm booking
  rw [kept] at confirmed
  have free : (system.confirm booking).2.bookings = [] := System.bookings_confirm held nofun
  refine ⟨confirmed.reply, guise, renumbers, twins.onward confirmed.mirrors
    (.single (.confirm (by rw [held]; exact List.mem_singleton_self _))), ?_⟩
  rw [confirmed.mirrors.bookings, free]
  rfl

end Indistinct

end Session

end Agenda
