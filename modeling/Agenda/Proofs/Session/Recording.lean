import Agenda.Proofs.Session.Opening
import Agenda.Proofs.System.Leading
import Agenda.Proofs.System.Locking
import Agenda.Proofs.System.Recounting

/-!
# The history of a session

All that happens in a session is done by workers, by calls under way and from outside, one after the
other, so that every system in a session has a history.
-/

namespace Agenda

universe u

variable {V : Type u}

namespace System

/-- Every history of the first system goes on to one of the second. -/
structure Prolongs (before after : System V) : Prop where
  history : ∀ {launches mentions}, History launches mentions before →
    ∃ further news, History (launches ++ further) (mentions ++ news) after

namespace Prolongs

variable {first second third : System V}

theorem refl (system : System V) : Prolongs system system := by
  refine ⟨fun {launches mentions} history => ⟨[], [], ?_⟩⟩
  rw [List.append_nil, List.append_nil]
  exact history

theorem trans (before : Prolongs first second) (after : Prolongs second third) :
    Prolongs first third := by
  refine ⟨fun {launches mentions} history => ?_⟩
  obtain ⟨earlier, said, middle⟩ := before.history history
  obtain ⟨later, news, last⟩ := after.history middle
  refine ⟨earlier ++ later, said ++ news, ?_⟩
  rw [← List.append_assoc, ← List.append_assoc]
  exact last

theorem act {who : Option SchedulerId} (act : Act who first second) : Prolongs first second := by
  refine ⟨fun {launches mentions} history => ?_⟩
  cases who with
  | none =>
      refine ⟨[], [], ?_⟩
      rw [List.append_nil, List.append_nil]
      exact history.outside act
  | some id => exact ⟨_, _, history.worker act⟩

end Prolongs

end System

namespace Session

/-- The second system comes about from the first one step after the other, with the same locks held
in the end. -/
structure Proceeds (before after : System V) : Prop where
  prolongs : System.Prolongs before after
  leads : System.Leads before after
  reachable : System.Reachable after
  bookings : after.bookings = before.bookings

namespace Proceeds

variable {system before middle after : System V}

theorem refl (reachable : System.Reachable system) : Proceeds system system :=
  ⟨.refl _, .refl, reachable, rfl⟩

theorem trans (first : Proceeds before middle) (second : Proceeds middle after) :
    Proceeds before after :=
  ⟨first.prolongs.trans second.prolongs, first.leads.trans second.leads, second.reachable,
    second.bookings.trans first.bookings⟩

theorem act {who : Option SchedulerId} (reachable : System.Reachable before)
    (act : System.Act who before after) (bookings : after.bookings = before.bookings) :
    Proceeds before after :=
  ⟨.act act, .single act.step, reachable.step act.step, bookings⟩

theorem settle (reachable : System.Reachable system) : Proceeds system system.settle := by
  refine System.settle_keeps (motive := Proceeds system) ?_ ?_ (.refl reachable)
  · intro before after id proceeds move
    have same := proceeds.reachable.numbered.bookings_moveWorker? move
    exact proceeds.trans (.act proceeds.reachable (.worker move) same)
  · intro before after position proceeds move
    obtain ⟨call, found, _⟩ := Option.bind_eq_some_iff.1 move
    have same := System.bookings_moveCall? move
    exact proceeds.trans (.act proceeds.reachable (.call found move) same)

theorem pass (ticks : Nat) (reachable : System.Reachable system) :
    Proceeds system (Session.pass ticks system).2 := by
  induction ticks generalizing system with
  | zero => exact .refl reachable
  | succ ticks inductionHypothesis =>
      have forth : 0 ≤ Clock.ofMillis tickMillis 0 := by decide
      have later : system.now ≤ system.now + Clock.ofMillis tickMillis 0 := by omega
      have passes : Proceeds system
          { system with now := system.now + Clock.ofMillis tickMillis 0 } :=
        .act reachable (.pass later) rfl
      have settles := Proceeds.settle passes.reachable
      exact passes.trans (settles.trans (inductionHypothesis settles.reachable))

theorem perform (reachable : System.Reachable system) (deed : Deed V) :
    Proceeds system (Session.perform system deed).2 :=
  .act reachable (.deed system deed) (reachable.numbered.bookings_perform deed)

theorem performAll (reachable : System.Reachable system) (deeds : List (Deed V)) :
    Proceeds system (Session.performAll system deeds).2 := by
  induction deeds generalizing system with
  | nil => exact .refl reachable
  | cons deed deeds inductionHypothesis =>
      have performs := Proceeds.perform reachable deed
      exact performs.trans (inductionHypothesis performs.reachable)

theorem performThreads (reachable : System.Reachable system) (threads : List (List (Deed V))) :
    Proceeds system (Session.performThreads system threads).2 := by
  induction threads generalizing system with
  | nil => exact .refl reachable
  | cons deeds threads inductionHypothesis =>
      have performs := Proceeds.performAll reachable deeds
      exact performs.trans (inductionHypothesis performs.reachable)

/-- An access during which time passes holds its lock up to its end. -/
theorem accessSlowly (reachable : System.Reachable system) (free : system.bookings = [])
    (millis : Nat) (label : Label) (key : String) (access : Access V) :
    Proceeds system (Session.accessSlowly system millis label key access).2.2 := by
  unfold Session.accessSlowly
  split
  · exact .refl reachable
  · rename_i id cache located
    split
    · exact .refl reachable
    · rename_i booking locked booked
      have books : System.Act none system locked :=
        .book located (System.isAccessible_of_free free id key access) booked
      have passes := Proceeds.pass (millis / tickMillis) (reachable.step books.step)
      have held : (Session.pass (millis / tickMillis) locked).2.bookings = [booking] := by
        obtain ⟨_, _, _, same⟩ := System.eq_of_book booked
        rw [passes.bookings, same, free]
      have confirms : System.Act none (Session.pass (millis / tickMillis) locked).2
          ((Session.pass (millis / tickMillis) locked).2.confirm booking).2 :=
        .confirm (by rw [held]; exact List.mem_singleton_self _)
      refine ⟨(System.Prolongs.act books).trans (passes.prolongs.trans (.act confirms)),
        (passes.leads.head books.step).tail confirms.step, passes.reachable.step confirms.step, ?_⟩
      exact (System.bookings_confirm held nofun).trans free.symm

theorem execute (reachable : System.Reachable system) (free : system.bookings = [])
    (command : Command V) : Proceeds system (Session.execute system command).2.2 := by
  cases command with
  | deed deed => exact .perform reachable deed
  | advance millis => exact .pass _ reachable
  | slowAccess millis cache key access => exact .accessSlowly reachable free millis cache key access
  | parallel threads => exact .performThreads reachable threads

theorem step (reachable : System.Reachable system) (free : system.bookings = [])
    (command : Command V) : Proceeds system (Session.step system command).2 := by
  have executes := Proceeds.execute reachable free command
  exact executes.trans (.settle executes.reachable)

theorem commands (reachable : System.Reachable system) (free : system.bookings = [])
    (commands : List (Command V)) : Proceeds system (Session.after system commands) := by
  induction commands generalizing system with
  | nil => exact .refl reachable
  | cons command commands inductionHypothesis =>
      have steps := Proceeds.step reachable free command
      exact steps.trans (inductionHypothesis steps.reachable (steps.bookings.trans free))

end Proceeds

theorem after_append (system : System V) (earlier later : List (Command V)) :
    after system (earlier ++ later) = after (after system earlier) later :=
  List.foldl_append

end Session

end Agenda
