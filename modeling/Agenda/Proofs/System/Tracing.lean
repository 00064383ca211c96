import Mathlib.Data.List.Induction
import Agenda.Proofs.System.Operation

/-!
# Runs that can be computed

What comes of an operation is determined by the system before it, so that a run is determined by its
operations, and `trace?` computes it.
-/

namespace Agenda

universe u

variable {V : Type u} [DecidableEq V]

def Operation.result? (system : System V) : Operation V → Option (System V)
  | .deed asked => some (Session.perform system asked).2
  | .book label key access =>
      (system.cacheAt? label).bind fun (id, cache) =>
        if system.isAccessible id key access then
          match system.book id cache key access with
          | .error _ => none
          | .ok (_, locked) => some locked
        else
          none
  | .confirm booking =>
      if booking ∈ system.bookings then some (system.confirm booking).2 else none
  | .worker id => system.moveWorker? id
  | .call position => system.moveCall? position
  | .pass later => if system.now ≤ later then some { system with now := later } else none

namespace System

variable {system first last after : System V} {operation : Operation V}
  {operations : List (Operation V)} {record : List (System V × Operation V)}

def trace? (first : System V) (operations : List (Operation V)) :
    Option (List (System V × Operation V) × System V) :=
  operations.foldlM (fun (record, last) operation =>
    (operation.result? last).map fun after => (record ++ [(last, operation)], after)) ([], first)

theorem does_of_result? (result : operation.result? system = some after) :
    system.Does operation after := by
  cases operation with
  | deed deed =>
      cases result
      exact .deed deed
  | book label key access =>
      obtain ⟨⟨id, cache⟩, located, result⟩ := Option.bind_eq_some_iff.1 result
      dsimp only at result
      split at result
      · rename_i accessible
        split at result <;> cases result
        rename_i booked
        exact .book located accessible booked
      · cases result
  | confirm booking =>
      obtain ⟨held, same⟩ := Option.ite_none_right_eq_some.1 result
      cases same
      exact .confirm held
  | worker id => exact .worker result
  | call position => exact .call result
  | pass later =>
      obtain ⟨order, same⟩ := Option.ite_none_right_eq_some.1 result
      cases same
      exact .pass order

theorem trace?_append (first : System V) (operations : List (Operation V))
    (operation : Operation V) : trace? first (operations ++ [operation]) =
      (trace? first operations).bind fun (record, last) =>
        (operation.result? last).map fun after => (record ++ [(last, operation)], after) := by
  simp [trace?, List.foldlM_append]

theorem Course.of_trace? (traced : trace? first operations = some (record, last)) :
    Course first record last := by
  induction operations using List.reverseRecOn generalizing record last with
  | nil =>
      cases traced
      exact .rest
  | append_singleton operations operation inductionHypothesis =>
      rw [trace?_append] at traced
      obtain ⟨⟨early, middle⟩, before, ends⟩ := Option.bind_eq_some_iff.1 traced
      obtain ⟨after, result, same⟩ := Option.map_eq_some_iff.1 ends
      cases same
      exact (inductionHypothesis before).step (does_of_result? result)

end System

end Agenda
