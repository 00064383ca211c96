import Agenda.Heap.Basic
import Agenda.Text.Quoted
import Agenda.Text.Record

/-!
A heap worked on from outside: a list of steps, and the answer to each.
-/

namespace Agenda

inductive HeapError where
  | empty
  deriving DecidableEq, Repr

def HeapError.message : HeapError → String
  | .empty => "queue is empty"

namespace Heap

universe u

inductive Step (α : Type u) where
  | insert (items : List α)
  | peek
  | pop
  | popAll
  | size
  | isEmpty
  /-- Takes all items out and hands over at most `limit` of them. -/
  | drain (limit : Option Nat)
  | debug
  deriving Repr

inductive Answer (α : Type u) where
  | item (item : α)
  | failed (error : HeapError)
  | items (items : List α)
  | count (count : Nat)
  | flag (flag : Bool)
  | text (text : String)
  deriving Repr

variable {α : Type u} {less : α → α → Bool}

def debugText (itemText : α → String) (heap : Heap α less) : String :=
  Text.record "OrderedQueue"
    [("len", toString heap.size), ("min", Text.optional (heap.peek?.map itemText))]

def perform (itemText : α → String) (heap : Heap α less) :
    Step α → Answer α × Heap α less
  | .insert items =>
      let filled := items.foldl insert heap
      (.count filled.size, filled)
  | .peek =>
      match heap.peek? with
      | none => (.failed .empty, heap)
      | some root => (.item root, heap)
  | .pop =>
      match heap.pop? with
      | none => (.failed .empty, heap)
      | some (root, rest) => (.item root, rest)
  | .popAll => (.items heap.popAll, empty)
  | .size => (.count heap.size, heap)
  | .isEmpty => (.flag heap.isEmpty, heap)
  | .drain limit =>
      let (items, rest) := heap.drain
      (.items (match limit with | none => items | some limit => items.take limit), rest)
  | .debug => (.text (heap.debugText itemText), heap)

def answers (itemText : α → String) (heap : Heap α less) : List (Step α) → List (Answer α)
  | [] => []
  | step :: steps =>
      let (answer, rest) := heap.perform itemText step
      answer :: rest.answers itemText steps

end Heap

end Agenda
