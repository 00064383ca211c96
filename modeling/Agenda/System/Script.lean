import Agenda.System.Request

/-!
What tasks do when they run.
-/

namespace Agenda

universe u

inductive Payload where
  | text (text : String)
  /-- Something that is not a text. -/
  | other
  deriving DecidableEq, Repr

def Payload.message : Payload → String
  | .text content => content
  | .other => "non-string panic payload"

inductive Script (V : Type u) where
  | done
  | panic (payload : Payload)
  | wait (gate : Label) (rest : Script V)
  | threadName (rest : Script V)
  /-- Submits a further task, which does `act`. -/
  | submit (scheduler handle : Label) (due : Due) (act rest : Script V)
  | request (request : Request V) (rest : Script V)
  | part (parting : Parting) (rest : Script V)
  deriving Repr

inductive Work (V : Type u) where
  /-- A task that callers submitted to `scheduler` and know as `handle`. -/
  | task (scheduler handle : Label) (script : Script V)
  | deletion (cache : CacheId) (key : String) (generation : Nat)
  deriving Repr

def Work.cache? {V : Type u} : Work V → Option CacheId
  | .task _ _ _ => none
  | .deletion cache _ _ => some cache

end Agenda
