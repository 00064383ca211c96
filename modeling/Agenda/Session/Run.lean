import Agenda.Session.Command
import Agenda.System.Settling

/-!
Running a session.

Time passes in ticks of ten milliseconds.  After every step and every tick the system is left to
itself until nothing more can happen at that time.  What the tasks make known in between is
grouped by label; within a label it stays in the order in which it happened.
-/

namespace Agenda.Session

universe u

variable {V : Type u}

def tickMillis : Nat := 10

def labelLE (before after : String) : Bool := !decide (after < before)

/-- Groups events by label and keeps the order within a label. -/
def grouped (events : List (Event V)) : List (Event V) :=
  events.mergeSort fun first second => labelLE first.scheduler second.scheduler

def eventsSince (before after : System V) : List (Event V) :=
  after.events.toList.drop before.events.size

def settle (system : System V) : List (Event V) × System V :=
  (grouped (eventsSince system system.settle), system.settle)

def pass : Nat → System V → List (Event V) × System V
  | 0, system => ([], system)
  | ticks + 1, system =>
      let (first, system) :=
        settle { system with now := system.now + Clock.ofMillis tickMillis 0 }
      let (later, system) := pass ticks system
      (first ++ later, system)

/-- Does what a caller asks for.  No lock is held between the steps of a session, so that every
request is answered at once. -/
def perform (system : System V) : Deed V → Reply V × System V
  | .submit scheduler handle due script => system.submit scheduler handle due script
  | .request request => (system.answer? request).getD (.started, system)
  | .part parting helper =>
      match system.part? (.helper helper) parting with
      | .error reply => (reply, system)
      | .ok system => (.started, system)

/-- The reply to a deed on one of several threads, where the number of a task is left open. -/
def anonymous : Reply V → Reply V
  | .accepted _ => .ok
  | reply => reply

def performAll (system : System V) : List (Deed V) → List (Reply V) × System V
  | [] => ([], system)
  | deed :: deeds =>
      let (reply, system) := perform system deed
      let (replies, system) := performAll system deeds
      (anonymous reply :: replies, system)

/-- Does the deeds of several threads, whose order among each other is left open. -/
def performThreads (system : System V) : List (List (Deed V)) → List (List (Reply V)) × System V
  | [] => ([], system)
  | deeds :: threads =>
      let (replies, system) := performAll system deeds
      let (others, system) := performThreads system threads
      (replies :: others, system)

/-- Carries out an access during which time passes, unless it ends before it reads the clock. -/
def accessSlowly (system : System V) (millis : Nat) (label : Label) (key : String)
    (access : Access V) : Reply V × List (Event V) × System V :=
  match system.cacheAt? label with
  | none => (.noCache, [], system)
  | some (id, cache) =>
      match system.book id cache key access with
      | .error reply => (reply, [], system)
      | .ok (booking, system) =>
          let (events, system) := pass (millis / tickMillis) system
          let (reply, system) := system.confirm booking
          (reply, events, system)

def execute (system : System V) : Command V → Outcome V × List (Event V) × System V
  | .deed deed =>
      let (reply, system) := perform system deed
      (.reply reply, [], system)
  | .advance millis =>
      let (events, system) := pass (millis / tickMillis) system
      (.reply (.clock (Clock.toMillis system.now)), events, system)
  | .slowAccess millis cache key access =>
      let (reply, events, system) := accessSlowly system millis cache key access
      (.reply reply, events, system)
  | .parallel threads =>
      let (replies, system) := performThreads system threads
      (.threads replies, [], system)

def schedulerLinesSince (before after : System V) : List LogLine :=
  after.schedulers.toList.zipIdx.flatMap fun (scheduler, index) =>
    let known := (before.schedulers[index]?.map fun old => old.journal.size).getD 0
    (scheduler.journal.toList.drop known).filterMap (Notice.line? scheduler.name)

def cacheLinesSince (before after : System V) : List LogLine :=
  after.caches.toList.zipIdx.flatMap fun (cache, index) =>
    let known := (before.caches[index]?.map fun old => old.journal.size).getD 0
    let name := ((after.scheduler? cache.scheduler).map Scheduler.name).getD ""
    (cache.journal.toList.drop known).map (CacheNotice.line name)

/-- The log lines that `after` has in addition to `before`, sorted by their code points. -/
def linesSince (before after : System V) : List String :=
  ((schedulerLinesSince before after ++ cacheLinesSince before after).map
    LogLine.render).mergeSort labelLE

def step (system : System V) (command : Command V) : Answer V × System V :=
  let (outcome, events, executed) := execute system command
  let (later, settled) := settle executed
  ({ outcome
     events := events ++ later
     returned := (settled.returned.toList.drop system.returned.size).mergeSort labelLE
     lines := linesSince system settled },
    settled)

def answersFrom (system : System V) : List (Command V) → List (Answer V)
  | [] => []
  | command :: commands =>
      let (answer, system) := step system command
      answer :: answersFrom system commands

def answers (commands : List (Command V)) : List (Answer V) := answersFrom {} commands

end Agenda.Session
