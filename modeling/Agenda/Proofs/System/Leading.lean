import Agenda.Proofs.System.Reach
import Mathlib.Logic.Relation

/-!
# What comes after a system

A system leads to another one by any steps in any order.  Its schedulers are found again in all
that it leads to, each after a run of its own.
-/

namespace Agenda.System

universe u

variable {V : Type u} {before after : System V}

abbrev Leads (before after : System V) : Prop := Relation.ReflTransGen Step before after

theorem Reachable.leads (reachable : Reachable before) (leads : Leads before after) :
    Reachable after := by
  induction leads with
  | refl => exact reachable
  | tail _ step inductionHypothesis => exact inductionHypothesis.step step

theorem Leads.evolves (leads : Leads before after) : Evolves before after := by
  induction leads with
  | refl => exact .refl before
  | tail _ step inductionHypothesis => exact inductionHypothesis.trans step.evolves

/-- What every change keeps, and time does not take, is kept in all that a system leads to. -/
theorem Leads.keeps {motive : System V → Prop} (leads : Leads before after)
    (change : ∀ {before after}, motive before → Change before after → motive after)
    (pass : ∀ {system later}, motive system → system.now ≤ later →
      motive { system with now := later })
    (start : motive before) : motive after := by
  induction leads with
  | refl => exact start
  | tail _ step inductionHypothesis => exact step.keeps change pass inductionHypothesis

end Agenda.System
