import Agenda.Proofs.Rejection.Places
import Agenda.Proofs.System.Freeing

/-!
# On the way to a mark

Before any worker has come to the mark, the system makes the same moves whatever the piece is that is
inserted there.  The mark stays where it is, or moves on with the task that has it.  Only a move of
its own brings a worker to the mark.
-/

namespace Agenda

universe u

/-- Searches that go alike item by item find what is related in one way. -/
theorem exists_rel_findSome? {α β γ ι κ : Type*} {related : κ → ι → β → γ → Prop}
    {first : ι → α → Option β} {second : α → Option γ} (kind : κ)
    (pairs : ∀ item, ∃ kind, ∀ index,
      Option.Rel (related kind index) (first index item) (second item)) (items : List α) :
    ∃ kind, ∀ index,
      Option.Rel (related kind index) (items.findSome? (first index)) (items.findSome? second) := by
  induction items with
  | nil => exact ⟨kind, fun _ => .none⟩
  | cons item items inductionHypothesis =>
      obtain ⟨own, pair⟩ := pairs item
      obtain ⟨later, rest⟩ := inductionHypothesis
      simp only [List.findSome?_cons]
      cases found : second item with
      | none =>
          refine ⟨later, fun index => ?_⟩
          have misses := pair index
          rw [found] at misses
          rw [eq_none_of_rel misses]
          exact rest index
      | some result =>
          refine ⟨own, fun index => ?_⟩
          have hits := pair index
          rw [found] at hits
          obtain ⟨one, seen, alike⟩ := exists_of_rel hits
          rw [seen]
          exact .some alike

namespace System

variable {V : Type u} {image system moved : System V} {id : SchedulerId}
  {host : Scheduler (Work V)} {task : TaskId} {label handle : Label} {script : Script V}
  {images : (Script V → Script V) → System V} {mark next : Option Mark}

/-- The systems differ from the one without the piece by what is inserted at the mark. -/
structure Marked (mark : Option Mark) (images : (Script V → Script V) → System V)
    (system : System V) : Prop where
  mirrors : ∀ piece, Mirrors (Guise.marked piece mark) (images piece) system
  knows : ∀ {m}, mark = some m → system.Knows m
  reachable : Reachable system

/-- No worker has come to the mark. -/
def Away (system : System V) (mark : Option Mark) : Prop :=
  ∀ m, mark = some m → ¬ system.Arrived m

/-- The system has moved, and its image in the same way.  If the worker has come to the mark, it has
moved itself. -/
structure Follows (piece : Script V → Script V) (next : Option Mark) (image system : System V)
    (reflected moved : SchedulerId × System V) : Prop where
  turn : reflected.1 = moved.1
  mirrors : Mirrors (Guise.marked piece next) reflected.2 moved.2
  knows : ∀ {m}, next = some m → moved.2.Knows m
  own : ∀ {m}, next = some m → moved.2.Arrived m → m.scheduler = moved.1 ∧
    image.moveWorker? m.scheduler = some reflected.2 ∧
    system.moveWorker? m.scheduler = some moved.2

theorem Marked.suits (marked : Marked mark images system) (piece : Script V → Script V) :
    (Guise.marked piece mark).Suits system :=
  suits_marked marked.knows

section Workers

theorem moveWorker?_of_task (found : system.scheduler? id = some host)
    (busy : host.worker = .busy task (.task label handle script)) (free : system.callOf? id = none) :
    system.moveWorker? id = system.moveTask? id host task label handle script := by
  rw [moveWorker?, found, Option.bind_some, busy]
  dsimp only
  rw [free]

theorem follows_of_moveWorker?
    (moves : ∀ piece, Option.Rel (Mirrors (Guise.marked piece next)) ((images piece).moveWorker? id)
      (system.moveWorker? id))
    (knows : ∀ {moved m}, system.moveWorker? id = some moved → next = some m → moved.Knows m)
    (own : ∀ {moved m}, system.moveWorker? id = some moved → next = some m → moved.Arrived m →
      m.scheduler = id) (piece : Script V → Script V) :
    Option.Rel (Follows piece next (images piece) system) (((images piece).moveWorker? id).map (id, ·))
      ((system.moveWorker? id).map (id, ·)) := by
  have moves := moves piece
  cases move : system.moveWorker? id with
  | none =>
      rw [move] at moves
      rw [eq_none_of_rel moves]
      exact .none
  | some moved =>
      rw [move] at moves
      obtain ⟨reflected, seen, alike⟩ := exists_of_rel moves
      rw [seen]
      refine .some ⟨rfl, alike, knows move, fun same arrived => ?_⟩
      have place := own move same arrived
      rw [place]
      exact ⟨rfl, seen, move⟩

namespace Marked

theorem worker_of_plain (marked : Marked mark images system) (away : system.Away mark)
    (plain : ∀ piece : Script V → Script V, (Guise.marked piece mark).Plain system id)
    (piece : Script V → Script V) :
    Option.Rel (Follows piece mark (images piece) system)
      (((images piece).moveWorker? id).map (id, ·))
      ((system.moveWorker? id).map (id, ·)) := by
  refine follows_of_moveWorker? (fun piece => ?_) (fun move same => ?_)
    (fun {moved m} move same arrived => ?_) piece
  · exact (marked.mirrors piece).moveWorker? (marked.suits piece)
      (fun found => marked.reachable.sound found) (plain piece)
  · exact (marked.knows same).leads (.single (.worker move))
  · by_contra apart
    obtain ⟨_, _, _, works⟩ := works_moveWorker? marked.reachable.manned move
    refine away m same ⟨arrived.here, ?_, detains_moveWorker? move (Ne.symm apart) arrived.free⟩
    rw [← works.others m.scheduler apart]
    exact arrived.hand

variable {m : Mark}

theorem moveWorker?_image (marked : Marked (some m) images system)
    (found : system.scheduler? m.scheduler = some host)
    (busy : host.worker = .busy m.task (.task label handle script))
    (free : system.callOf? m.scheduler = none) (piece : Script V → Script V) :
    (images piece).moveWorker? m.scheduler =
      (images piece).moveTask? m.scheduler
        (host.recast false ((Guise.marked piece (some m)).work m.scheduler)) m.task label handle
        (script.insert piece m.place) := by
  have mirrors := marked.mirrors piece
  have seen := mirrors.scheduler? m.scheduler
  rw [found] at seen
  refine moveWorker?_of_task seen ?_ ((mirrors.callOf? _).trans free)
  rw [Scheduler.worker_recast, busy, Worker.recast, Guise.work, Guise.marked,
    Guise.script_retell_self]

/-- The task with the mark makes a step, and is read in some way from then on. -/
theorem worker_of_onward (marked : Marked (some m) images system)
    (found : system.scheduler? m.scheduler = some host)
    (busy : host.worker = .busy m.task (.task label handle script))
    (free : system.callOf? m.scheduler = none)
    (reading : (Script V → Script V) → Script V → Script V)
    (onward : ∀ piece, script.insert piece m.place = script.onward (reading piece))
    (marks : ∀ piece, Guise.plain.retell m.scheduler m.task (reading piece) =
      Guise.marked piece next)
    (same : ∀ {n}, next = some n → n.scheduler = m.scheduler ∧ n.task = m.task)
    (piece : Script V → Script V) :
    Option.Rel (Follows piece next (images piece) system)
      (((images piece).moveWorker? m.scheduler).map (m.scheduler, ·))
      ((system.moveWorker? m.scheduler).map (m.scheduler, ·)) := by
  have knows {n : Mark} (marks : next = some n) : system.Knows n := by
    obtain ⟨host, found, known⟩ := marked.knows rfl
    obtain ⟨place, number⟩ := same marks
    exact ⟨host, by rw [place, found], by rw [number]; exact known⟩
  have retold (piece : Script V → Script V) :
      (Guise.marked piece (some m)).retell m.scheduler m.task (reading piece) =
        Guise.marked piece next :=
    (Guise.retell_retell _ _ _ _ _).trans (marks piece)
  refine follows_of_moveWorker? (fun piece => ?_) (fun move marks => ?_)
    (fun move marks _ => (same marks).1) piece
  · rw [marked.moveWorker?_image found busy free, moveWorker?_of_task found busy free, onward]
    have alone := (marked.reachable.sound found).ne_of_busy busy
    have moves := (marked.mirrors piece).moveTask? (reading piece)
      (by rw [retold]; exact suits_marked knows) found alone label handle script
    rwa [retold] at moves
  · exact (knows marks).leads (.single (.worker move))

theorem worker_of_inside {place : Script.Place} {target name : Label} {due : Due}
    {act rest : Script V} (marked : Marked (some ⟨id, task, .inside place⟩) images system)
    (found : system.scheduler? id = some host)
    (busy : host.worker = .busy task (.task label handle (.submit target name due act rest)))
    (free : system.callOf? id = none) : ∃ next, ∀ piece : Script V → Script V,
      Option.Rel (Follows piece next (images piece) system)
        (((images piece).moveWorker? id).map (id, ·))
        ((system.moveWorker? id).map (id, ·)) := by
  have goesOn : Changes system (system.proceedTask id host task label handle rest) :=
    .put found (.proceed rest busy)
  have linked : (system.proceedTask id host task label handle rest).Linked :=
    goesOn.keeps (fun linked change => linked.change change) marked.reachable.linked
  obtain ⟨next, submits, awaits⟩ := submit_marked linked.sound target name due act place
  have moves : system.moveWorker? id = some (reportAnswer label handle
      ((system.proceedTask id host task label handle rest).submit target name due act)) :=
    moveWorker?_of_task found busy free
  refine ⟨next, fun piece => follows_of_moveWorker? (fun piece => ?_) (fun {moved m} move marks => ?_)
    (fun {moved m} move marks arrived => ?_) piece⟩
  · have moved : (images piece).moveWorker? id = some (reportAnswer label handle
        (((images piece).proceedTask id (host.recast false ((Guise.marked piece
          (some ⟨id, task, .inside place⟩)).work id)) task label handle rest).submit target name due
            (act.insert piece place))) := marked.moveWorker?_image found busy free piece
    rw [moves, moved]
    have alone := (marked.reachable.sound found).ne_of_busy busy
    have proceeds : Mirrors ((Guise.marked piece (some ⟨id, task, .inside place⟩)).retell id task
        fun script => script) _ (system.proceedTask id host task label handle rest) :=
      (marked.mirrors piece).proceedTask alone label handle rest
    rw [Guise.retell_marked] at proceeds
    exact .some (Mirrors.reportAnswer (submits piece _ proceeds) label handle)
  · cases moves.symm.trans move
    exact (awaits marks).knows
  · cases moves.symm.trans move
    have waits : (reportAnswer label handle ((system.proceedTask id host task label handle
      rest).submit target name due act)).Awaits m := awaits marks
    exact absurd arrived (waits.not_arrived (marked.reachable.step (.worker move)).sound)

theorem worker (marked : Marked mark images system) (away : system.Away mark) (id : SchedulerId) :
    ∃ next, ∀ piece : Script V → Script V,
      Option.Rel (Follows piece next (images piece) system)
        (((images piece).moveWorker? id).map (id, ·))
        ((system.moveWorker? id).map (id, ·)) := by
  by_cases inside : ∃ m host label handle script, mark = some m ∧ m.scheduler = id ∧
      system.scheduler? id = some host ∧ host.worker = .busy m.task (.task label handle script) ∧
      system.callOf? id = none
  · obtain ⟨⟨_, task, place⟩, host, label, handle, script, rfl, rfl, found, busy, free⟩ := inside
    cases place with
    | here =>
        have held := hand?_eq_some_iff.2 ⟨host, found, busy⟩
        exact absurd ⟨rfl, ⟨label, handle, script, held⟩, free_of_callOf? free⟩ (away _ rfl)
    | later place =>
        refine ⟨some ⟨_, task, place⟩, marked.worker_of_onward found busy free
          (fun piece => Script.insert piece place) (fun _ => rfl) (fun _ => rfl) fun same => ?_⟩
        cases same
        exact ⟨rfl, rfl⟩
    | inside place =>
        cases script with
        | submit target name due act rest => exact marked.worker_of_inside found busy free
        | _ =>
            exact ⟨none, marked.worker_of_onward found busy free (fun _ script => script)
              (fun _ => rfl) (fun _ => Guise.retell_plain _ _) nofun⟩
  · refine ⟨mark, marked.worker_of_plain away fun piece host task label handle script found busy
      free => ?_⟩
    cases mark with
    | none => rfl
    | some m =>
        refine Guise.script_retell_of_ne fun own => inside ?_
        obtain ⟨rfl, rfl⟩ := own
        exact ⟨m, host, label, handle, script, rfl, rfl, found, busy, free⟩

theorem workers (marked : Marked mark images system) (away : system.Away mark)
    (turn : SchedulerId) : ∃ next, ∀ piece : Script V → Script V,
      Option.Rel (Follows piece next (images piece) system) ((images piece).moveWorkers? turn)
        (system.moveWorkers? turn) := by
  have sizes (piece : Script V → Script V) := (marked.mirrors piece).size_schedulers
  simp only [moveWorkers?, sizes]
  apply exists_rel_findSome? mark
  intro id
  exact marked.worker away id

theorem calls (marked : Marked mark images system) (away : system.Away mark) {turn : SchedulerId}
    (stuck : system.moveWorkers? turn = none) (piece : Script V → Script V) :
    Option.Rel (Follows piece mark (images piece) system) ((images piece).moveCalls?.map (turn, ·))
      (system.moveCalls?.map (turn, ·)) := by
  have moves := (marked.mirrors piece).moveCalls?
  cases move : system.moveCalls? with
  | none =>
      rw [move] at moves
      rw [eq_none_of_rel moves]
      exact .none
  | some moved =>
      rw [move] at moves
      obtain ⟨reflected, seen, alike⟩ := exists_of_rel moves
      obtain ⟨position, _, moved⟩ := List.exists_of_findSome?_eq_some move
      rw [seen]
      refine .some ⟨rfl, alike, fun same => ?_, fun same arrived => ?_⟩
      · exact (marked.knows same).leads (.single (.call moved))
      · obtain ⟨call, found, _⟩ := Option.bind_eq_some_iff.1 moved
        obtain ⟨_, advances⟩ := advances_moveCall? found moved
        refine absurd ⟨arrived.here, ?_, ?_⟩ (away _ same)
        · rw [← advances.hands]
          exact arrived.hand
        · exact detains_of_stuck marked.reachable.manned stuck moved arrived.free

/-- The system and its images make the same move. -/
theorem move (marked : Marked mark images system) (away : system.Away mark) (turn : SchedulerId) :
    ∃ next, ∀ piece : Script V → Script V,
      Option.Rel (Follows piece next (images piece) system) ((images piece).move? turn)
        (system.move? turn) := by
  obtain ⟨next, workers⟩ := marked.workers away turn
  unfold move?
  cases moved : system.moveWorkers? turn with
  | none =>
      refine ⟨mark, fun piece => ?_⟩
      have misses := workers piece
      rw [moved] at misses
      rw [eq_none_of_rel misses]
      exact marked.calls away moved piece
  | some found =>
      refine ⟨next, fun piece => ?_⟩
      have hits := workers piece
      rw [moved] at hits
      obtain ⟨reflected, seen, follows⟩ := exists_of_rel hits
      rw [seen]
      exact .some follows

end Marked

end Workers

end System

end Agenda
