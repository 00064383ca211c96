import Agenda.Session.Run
import Mathlib.Logic.Function.Basic

/-!
# Plain caches

A shelf is a cache without deletions: a map from keys to values, each with its time to live and a
deadline.  After every step and every tick the entries vanish whose deadline has come.
-/

namespace Agenda

universe u

variable {V : Type u}

structure Record (V : Type u) where
  value : V
  ttl : Delay
  deadline : Int

abbrev Shelf (V : Type u) := Std.TreeMap String (Record V)

namespace Shelf

inductive Question where
  | contains (key : String)
  | size
  | isEmpty
  | keys
  deriving DecidableEq, Repr

/-- Stores an entry, if the clock can represent the end of its time to live. -/
def put (shelf : Shelf V) (now : Int) (key : String) (value : V) (ttl : Delay) (reply : Reply V) :
    Reply V × Shelf V :=
  match ttl.after? now with
  | none => (.overflow, shelf)
  | some deadline => (reply, shelf.insert key ⟨value, ttl, deadline⟩)

def get (shelf : Shelf V) (now : Int) (key : String) : Reply V × Shelf V :=
  match shelf[key]? with
  | none => (.found none, shelf)
  | some record => shelf.put now key record.value record.ttl (.found (some record.value))

def access (shelf : Shelf V) (now : Int) (key : String) : Access V → Reply V × Shelf V
  | .read => shelf.get now key
  | .add value ttl =>
      if shelf.contains key then (.failed (.duplicateKey key), shelf)
      else shelf.put now key value ttl .ok
  | .set value ttl => shelf.put now key value ttl (.found (shelf[key]?.map Record.value))

def delete (shelf : Shelf V) (key : String) : Reply V × Shelf V :=
  (.found (shelf[key]?.map Record.value), shelf.erase key)

def answer (shelf : Shelf V) : Question → Reply V
  | .contains key => .flag (shelf.contains key)
  | .size => .count shelf.size
  | .isEmpty => .flag shelf.isEmpty
  | .keys => .names shelf.keys

def left (shelf : Shelf V) (now : Int) : Shelf V :=
  shelf.filter fun _ record => now < record.deadline

end Shelf

structure Shelves (V : Type u) where
  now : Int
  shelf? : Label → Option (Shelf V) := fun _ => none

namespace Shelves

/-- What is done in a session: something with a cache, or something else. -/
inductive Act (V : Type u) where
  | create (cache : Label)
  | access (cache : Label) (key : String) (access : Access V)
  | delete (cache : Label) (key : String)
  | ask (cache : Label) (question : Shelf.Question)
  | advance (millis : Nat)
  | other (deed : Session.Deed V)

def place (shelves : Shelves V) (label : Label) (shelf : Shelf V) : Shelves V :=
  { shelves with shelf? := Function.update shelves.shelf? label (some shelf) }

theorem shelf?_place (shelves : Shelves V) (label other : Label) (shelf : Shelf V) :
    (shelves.place label shelf).shelf? other
      = if other = label then some shelf else shelves.shelf? other :=
  Function.update_apply ..

def use (shelves : Shelves V) (label : Label) (deed : Shelf V → Reply V × Shelf V) :
    Reply V × Shelves V :=
  match shelves.shelf? label with
  | none => (.noCache, shelves)
  | some shelf => ((deed shelf).1, shelves.place label (deed shelf).2)

def vanish (shelves : Shelves V) : Shelves V :=
  { shelves with
    shelf? := fun label => (shelves.shelf? label).map fun shelf => shelf.left shelves.now }

theorem shelf?_vanish (shelves : Shelves V) (label : Label) :
    shelves.vanish.shelf? label
      = (shelves.shelf? label).map fun shelf => shelf.left shelves.now := rfl

def pass : Nat → Shelves V → Shelves V
  | 0, shelves => shelves
  | ticks + 1, shelves =>
      pass ticks (vanish { shelves with
        now := shelves.now + Clock.ofMillis Session.tickMillis 0 })

/-- Does what the act says.  What the reply is to an act on something else is left open. -/
def perform (shelves : Shelves V) : Act V → Option (Reply V) × Shelves V
  | .create cache => (some .ok, shelves.place cache ∅)
  | .access cache key access =>
      let (reply, shelves) := shelves.use cache fun shelf => shelf.access shelves.now key access
      (some reply, shelves)
  | .delete cache key =>
      let (reply, shelves) := shelves.use cache fun shelf => shelf.delete key
      (some reply, shelves)
  | .ask cache question =>
      let (reply, shelves) := shelves.use cache fun shelf => (shelf.answer question, shelf)
      (some reply, shelves)
  | .advance millis =>
      let shelves := shelves.pass (millis / Session.tickMillis)
      (some (.clock (Clock.toMillis shelves.now)), shelves)
  | .other _ => (none, shelves)

def step (shelves : Shelves V) (act : Act V) : Option (Reply V) × Shelves V :=
  ((shelves.perform act).1, (shelves.perform act).2.vanish)

def follow (shelves : Shelves V) : List (Act V) → List (Option (Reply V)) × Shelves V
  | [] => ([], shelves)
  | act :: acts =>
      let (reply, shelves) := shelves.step act
      let (replies, shelves) := shelves.follow acts
      (reply :: replies, shelves)

end Shelves

end Agenda
