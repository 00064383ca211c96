import Agenda.Proofs.Rejection.Courses

/-!
# A step put into a session

A piece can be put into what a task does that is submitted from outside, at any depth.  The session
goes on as without the piece until a worker comes to it.
-/

namespace Agenda

universe u

variable {V : Type u}

namespace Session

/-- A place in the task that a deed submits, or in a task that this task submits, and so on. -/
structure Site where
  command : Nat
  /-- The thread, if the command has several, and the deed on the thread. -/
  thread : Nat
  deed : Nat
  place : Script.Place
  deriving DecidableEq, Repr

def Deed.insert (piece : Script V → Script V) (place : Script.Place) : Deed V → Deed V
  | .submit scheduler handle due script =>
      .submit scheduler handle due (script.insert piece place)
  | deed => deed

def Command.insert (piece : Script V → Script V) (site : Site) : Command V → Command V
  | .deed asked => .deed (asked.insert piece site.place)
  | .parallel threads =>
      .parallel (threads.modify site.thread fun deeds =>
        deeds.modify site.deed (Deed.insert piece site.place))
  | command => command

/-- The commands with a piece before what stands at a site, if they have the site. -/
def Site.insert (piece : Script V → Script V) (site : Site) (commands : List (Command V)) :
    List (Command V) :=
  commands.modify site.command (Command.insert piece site)

end Session

namespace System.Approaches

variable {system : System V} {images : (Script V → Script V) → System V}

theorem insert (approaches : Approaches none images system) (deed : Session.Deed V)
    (place : Script.Place) :
    ∃ mark, (∀ piece, (Session.perform (images piece) (deed.insert piece place)).1 =
        (Session.perform system deed).1) ∧
      Approaches mark (fun piece => (Session.perform (images piece) (deed.insert piece place)).2)
        (Session.perform system deed).2 := by
  cases deed with
  | submit scheduler handle due script =>
      have step := Step.deed system (.submit scheduler handle due script)
      have reachable := approaches.reachable.step step
      obtain ⟨mark, submits, awaits⟩ := submit_marked (fun found => approaches.reachable.sound found)
        scheduler handle due script place
      have agrees (piece : Script V → Script V) := submits piece _ (approaches.mirrors piece)
      exact ⟨mark, fun piece => (agrees piece).reply, ⟨fun piece => (agrees piece).mirrors,
        fun same => (awaits same).knows, reachable⟩,
        fun m same => (awaits same).not_arrived fun found => reachable.sound found⟩
  | request request => exact ⟨none, approaches.perform (.request request)⟩
  | part parting helper => exact ⟨none, approaches.perform (.part parting helper)⟩

theorem insertAll (approaches : Approaches none images system) (deeds : List (Session.Deed V))
    (index : Nat) (place : Script.Place) :
    ∃ mark, (∀ piece, (Session.performAll (images piece)
        (deeds.modify index (Session.Deed.insert piece place))).1 =
          (Session.performAll system deeds).1) ∧
      Approaches mark (fun piece => (Session.performAll (images piece)
        (deeds.modify index (Session.Deed.insert piece place))).2)
          (Session.performAll system deeds).2 := by
  induction deeds generalizing images system index with
  | nil =>
      simp only [List.modify_nil]
      exact ⟨none, fun _ => rfl, approaches⟩
  | cons deed deeds inductionHypothesis =>
      cases index with
      | zero =>
          obtain ⟨mark, reply, performed⟩ := approaches.insert deed place
          obtain ⟨replies, rest⟩ := performed.performAll deeds
          simp only [List.modify_zero_cons]
          exact ⟨mark, fun piece =>
            congrArg₂ (Session.anonymous · :: ·) (reply piece) (replies piece), rest⟩
      | succ index =>
          obtain ⟨reply, performed⟩ := approaches.perform deed
          obtain ⟨mark, replies, rest⟩ := inductionHypothesis performed index
          simp only [List.modify_succ_cons]
          exact ⟨mark, fun piece =>
            congrArg₂ (Session.anonymous · :: ·) (reply piece) (replies piece), rest⟩

theorem insertThreads (approaches : Approaches none images system)
    (threads : List (List (Session.Deed V))) (thread index : Nat) (place : Script.Place) :
    ∃ mark, (∀ piece, (Session.performThreads (images piece) (threads.modify thread fun deeds =>
        deeds.modify index (Session.Deed.insert piece place))).1 =
          (Session.performThreads system threads).1) ∧
      Approaches mark (fun piece => (Session.performThreads (images piece)
        (threads.modify thread fun deeds =>
          deeds.modify index (Session.Deed.insert piece place))).2)
            (Session.performThreads system threads).2 := by
  induction threads generalizing images system thread with
  | nil =>
      simp only [List.modify_nil]
      exact ⟨none, fun _ => rfl, approaches⟩
  | cons deeds threads inductionHypothesis =>
      cases thread with
      | zero =>
          obtain ⟨mark, replies, performed⟩ := approaches.insertAll deeds index place
          obtain ⟨others, rest⟩ := performed.performThreads threads
          simp only [List.modify_zero_cons]
          exact ⟨mark, fun piece => congrArg₂ List.cons (replies piece) (others piece), rest⟩
      | succ thread =>
          obtain ⟨replies, performed⟩ := approaches.performAll deeds
          obtain ⟨mark, others, rest⟩ := inductionHypothesis performed thread
          simp only [List.modify_succ_cons]
          exact ⟨mark, fun piece => congrArg₂ List.cons (replies piece) (others piece), rest⟩

end System.Approaches

namespace Session

open Agenda.System

variable {system : System V} {images : (Script V → Script V) → System V}

theorem Course.insert (approaches : Approaches none images system) (free : system.bookings = [])
    (command : Command V) (site : Site) :
    Course GainsBeside (fun piece => executeStarts (images piece) (command.insert piece site))
      (fun piece => told (Session.execute (images piece) (command.insert piece site)))
      (told (Session.execute system command)) := by
  cases command with
  | deed deed =>
      obtain ⟨mark, reply, performed⟩ := approaches.insert deed site.place
      exact .onward mark performed fun piece =>
        congrArg (fun reply => (Outcome.reply reply, ([] : List (Event V)))) (reply piece)
  | advance millis => exact .advance approaches millis
  | slowAccess millis cache key access => exact .slowAccess approaches free millis cache key access
  | parallel threads =>
      obtain ⟨mark, replies, performed⟩ :=
        approaches.insertThreads threads site.thread site.deed site.place
      exact .onward mark performed fun piece =>
        congrArg (fun replies => (Outcome.threads replies, ([] : List (Event V)))) (replies piece)

end Session

end Agenda
