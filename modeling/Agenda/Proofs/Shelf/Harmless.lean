import Agenda.Proofs.Shelf.Basic

/-!
# Harmless tasks

A task is harmless if it ends without waiting for anything, leaves the caches alone, and does not
stop the scheduler that it runs on.
-/

namespace Agenda

universe u

variable {V : Type u}

def Request.IsHarmless (token : Token) : Request V → Prop
  | .inspect _ _ => True
  | .cancel _ _ => True
  | .fateOf _ => True
  | .cancelToken label => token ≠ .named label
  | .isCancelled _ => True
  | .openGate _ => True
  | _ => False

def Script.IsHarmless (token : Token) : Script V → Prop
  | .done => True
  | .panic _ => True
  | .wait _ _ => False
  | .threadName rest => rest.IsHarmless token
  | .submit _ _ _ act rest => act.IsHarmless token ∧ rest.IsHarmless token
  | .request asked rest => asked.IsHarmless token ∧ rest.IsHarmless token
  | .part _ _ => False

def Session.Deed.IsHarmless (token : Token) : Session.Deed V → Prop
  | .submit _ _ _ script => script.IsHarmless token
  | .request asked => asked.IsHarmless token
  | .part _ _ => False

def Shelves.Act.IsHarmless (token : Token) : Shelves.Act V → Prop
  | .other deed => deed.IsHarmless token
  | _ => True

def Work.IsHarmless (token : Token) (caches : Nat) : Work V → Prop
  | .task _ _ script => script.IsHarmless token
  | .deletion cache _ _ => cache.index < caches

end Agenda
