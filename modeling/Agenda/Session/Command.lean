import Agenda.System.Basic

/-!
A session: commands given to a system one after the other, and the answers.
-/

namespace Agenda.Session

universe u

/-- A call from outside, at one moment of the clock. -/
inductive Deed (V : Type u) where
  | submit (scheduler handle : Label) (due : Due) (script : Script V)
  | request (request : Request V)
  /-- A call that may have to wait, on a thread of its own with a label. -/
  | part (parting : Parting) (helper : Label)
  deriving Repr

inductive Command (V : Type u) where
  | deed (deed : Deed V)
  | advance (millis : Nat)
  /-- An access to a cache during which, once it has read the clock, time passes. -/
  | slowAccess (millis : Nat) (cache : Label) (key : String) (access : Access V)
  | parallel (threads : List (List (Deed V)))
  deriving Repr

inductive Outcome (V : Type u) where
  | reply (reply : Reply V)
  | threads (replies : List (List (Reply V)))
  deriving Repr

structure Answer (V : Type u) where
  outcome : Outcome V
  /-- What the tasks made known since the answer before. -/
  events : List (Event V)
  /-- The calls that have returned since the answer before, by label. -/
  returned : List Label
  /-- The lines logged since the answer before. -/
  lines : List String
  deriving Repr

end Agenda.Session
