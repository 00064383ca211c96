import Agenda.Proofs.Rejection.Approaching

/-!
# At the mark

A system is left to itself, and a worker comes to the mark.  If an attempt stands there and fails at
once, the system goes on as it does without the attempt: only the answer has become known in addition.
-/

namespace Agenda

universe u v

variable {V : Type u}

/-- A point in a task that a worker has in its hands, and what it has still to do from there. -/
structure Juncture (V : Type u) where
  worker : SchedulerId
  task : TaskId
  scheduler : Label
  handle : Label
  rest : Script V

def Juncture.answer (juncture : Juncture V) (reply : Reply V) : Event V :=
  .answered juncture.scheduler juncture.handle reply

namespace System

variable {system moved after image : System V} {id turn : SchedulerId} {host : Scheduler (Work V)}
  {task : TaskId} {label handle : Label} {rest : Script V} {reply : Reply V} {attempt : Attempt V}
  {images reflected : (Script V → Script V) → System V} {mark : Option Mark} {m : Mark}

/-- The system after so many moves, with the worker whose turn it is. -/
def movedBy? : Nat → SchedulerId → System V → Option (SchedulerId × System V)
  | 0, turn, system => some (turn, system)
  | count + 1, turn, system =>
      (system.move? turn).bind fun (next, moved) => movedBy? count next moved

/-- After so many moves it is the worker that makes one, by which the system comes to be `moment`. -/
def Brings (count : Nat) (start : SchedulerId) (system : System V) (worker : SchedulerId)
    (moment : System V) : Prop :=
  ∃ turn before, system.movedBy? count start = some (turn, before) ∧
    before.move? turn = some (worker, moment) ∧ before.moveWorker? worker = some moment

def ComesTo (system : System V) (worker : SchedulerId) (moment : System V) : Prop :=
  ∃ count, Brings count ⟨0⟩ system worker moment

/-- A worker is at a point of its task, where it has to do `piece` next. -/
structure At (moment : System V) (juncture : Juncture V) (piece : Script V → Script V) : Prop where
  hand : moment.hand? juncture.worker = some (juncture.task,
    .task juncture.scheduler juncture.handle (piece juncture.rest))
  free : moment.Free juncture.worker

structure Fails (moment : System V) (juncture : Juncture V) (reply : Reply V) : Prop where
  error : reply.isError = true
  answers : ∃ moved, moment.moveWorker? juncture.worker = some moved ∧
    moved.events = moment.events.push (juncture.answer reply)

/-- Some system is left to itself, and a worker makes the move that brings it to the juncture, where it
has to do the piece next.  If that is an attempt that fails there and then, this is the outcome. -/
def Meets (juncture : Juncture V) (starts : List (System V)) (piece : Script V → Script V)
    (outcome : Event V → Prop) : Prop :=
  ∃ first ∈ starts, ∃ moment, first.ComesTo juncture.worker moment ∧ moment.At juncture piece ∧
    ∀ (attempt : Attempt V) (reply : Reply V), piece = attempt.step →
      moment.Fails juncture reply → outcome (juncture.answer reply)

theorem Meets.imp {juncture : Juncture V} {starts more : List (System V)}
    {piece : Script V → Script V} {outcome further : Event V → Prop}
    (meets : Meets juncture starts piece outcome) (subset : starts ⊆ more)
    (onward : ∀ event, outcome event → further event) : Meets juncture more piece further := by
  obtain ⟨first, listed, moment, comes, there, fails⟩ := meets
  exact ⟨first, subset listed, moment, comes, there, fun attempt reply same failed =>
    onward _ (fails attempt reply same failed)⟩

theorem settleWithin_of_movedBy? {count : Nat} {start : SchedulerId}
    (moves : system.movedBy? count start = some (turn, after)) (limit : Nat) :
    settleWithin (count + limit) start system = settleWithin limit turn after := by
  induction count generalizing start system with
  | zero =>
      cases moves
      rw [Nat.zero_add]
  | succ count inductionHypothesis =>
      obtain ⟨⟨next, moved⟩, move, later⟩ := Option.bind_eq_some_iff.1 moves
      rw [Nat.add_right_comm, settleWithin, move]
      exact inductionHypothesis later

theorem movedBy?_add (count more : Nat) (start : SchedulerId) (system : System V) :
    system.movedBy? (count + more) start =
      (system.movedBy? count start).bind fun (turn, moved) => moved.movedBy? more turn := by
  induction count generalizing start system with
  | zero =>
      rw [Nat.zero_add]
      rfl
  | succ count inductionHypothesis =>
      simp only [Nat.add_right_comm count 1 more, movedBy?, Option.bind_assoc]
      exact Option.bind_congr fun next _ => inductionHypothesis next.1 next.2

theorem movedBy?_of_move? {count : Nat} {start next : SchedulerId}
    (moves : system.movedBy? count start = some (turn, after))
    (move : after.move? turn = some (next, moved)) :
    system.movedBy? (count + 1) start = some (next, moved) := by
  rw [movedBy?_add, moves, Option.bind_some]
  dsimp only [movedBy?]
  rw [move]
  rfl

theorem Brings.movedBy? {count : Nat} {start : SchedulerId}
    (brings : Brings count start system turn after) :
    system.movedBy? (count + 1) start = some (turn, after) := by
  obtain ⟨_, _, moves, move, _⟩ := brings
  exact movedBy?_of_move? moves move

theorem Brings.head {count : Nat} {start next : SchedulerId}
    (move : system.move? start = some (next, moved)) (brings : Brings count next moved turn after) :
    Brings (count + 1) start system turn after := by
  obtain ⟨last, before, moves, rest⟩ := brings
  refine ⟨last, before, ?_, rest⟩
  rw [System.movedBy?, move]
  exact moves

theorem proceeds_of_move? {next : SchedulerId} (reachable : Reachable system)
    (move : system.move? turn = some (next, moved)) : Session.Proceeds system moved := by
  rcases worker_or_call_of_move? move with byWorker | ⟨_, _, position, byCall⟩
  · exact .act reachable (.worker byWorker) (reachable.numbered.bookings_moveWorker? byWorker)
  · obtain ⟨call, found, _⟩ := Option.bind_eq_some_iff.1 byCall
    exact .act reachable (.call found byCall) (bookings_moveCall? byCall)

theorem proceeds_of_movedBy? {count : Nat} {start : SchedulerId} (reachable : Reachable system)
    (moves : system.movedBy? count start = some (turn, after)) : Session.Proceeds system after := by
  induction count generalizing start system with
  | zero =>
      cases moves
      exact .refl reachable
  | succ count inductionHypothesis =>
      obtain ⟨⟨next, moved⟩, move, later⟩ := Option.bind_eq_some_iff.1 moves
      have begins := proceeds_of_move? reachable move
      exact begins.trans (inductionHypothesis begins.reachable later)

theorem move?_of_turn (move : system.moveWorker? turn = some moved) :
    system.move? turn = some (turn, moved) := by
  rw [move?, moveWorkers?, List.findSome?_cons, move]
  rfl

/-- The system and its images come to rest together, or to the mark. -/
theorem Marked.approach (limit : Nat) (turn : SchedulerId) (marked : Marked mark images system)
    (away : system.Away mark) :
    (∃ next, Marked next (fun piece => settleWithin limit turn (images piece))
        (settleWithin limit turn system) ∧ (settleWithin limit turn system).Away next) ∨
      ∃ count m reflected moment, Brings count turn system m.scheduler moment ∧
        (∀ piece, Brings count turn (images piece) m.scheduler (reflected piece)) ∧
        Marked (some m) reflected moment ∧ moment.Arrived m := by
  induction limit generalizing turn mark images system with
  | zero => exact .inl ⟨mark, marked, away⟩
  | succ limit inductionHypothesis =>
      obtain ⟨next, moves⟩ := marked.move away turn
      cases move : system.move? turn with
      | none =>
          rw [move] at moves
          have still (piece : Script V → Script V) := eq_none_of_rel (moves piece)
          simp only [settleWithin, move, still]
          exact .inl ⟨mark, marked, away⟩
      | some found =>
          obtain ⟨own, moved⟩ := found
          rw [move] at moves
          have moves (piece : Script V → Script V) : ∃ reflected,
              (images piece).move? turn = some (own, reflected) ∧
                Follows piece next (images piece) system (own, reflected) (own, moved) := by
            obtain ⟨⟨first, reflected⟩, seen, follows⟩ := exists_of_rel (moves piece)
            obtain rfl : first = own := follows.turn
            exact ⟨reflected, seen, follows⟩
          choose reflected seen follows using moves
          have kept : Marked next reflected moved :=
            ⟨fun piece => (follows piece).mirrors, (follows id).knows,
              marked.reachable.step (step_of_move? move)⟩
          by_cases arrived : ∃ m, next = some m ∧ moved.Arrived m
          · obtain ⟨m, rfl, arrived⟩ := arrived
            have own (piece : Script V → Script V) := (follows piece).own rfl arrived
            obtain rfl : m.scheduler = _ := (own id).1
            exact .inr ⟨0, m, reflected, moved, ⟨turn, system, rfl, move, (own id).2.2⟩,
              fun piece => ⟨turn, images piece, rfl, seen piece, (own piece).2.1⟩, kept, arrived⟩
          · have still : moved.Away next := fun _ same there => arrived ⟨_, same, there⟩
            simp only [settleWithin, move, seen]
            rcases inductionHypothesis own kept still with
              rests | ⟨count, m, last, moment, moves, more, rest⟩
            · exact .inl rests
            · exact .inr ⟨count + 1, m, last, moment, moves.head move,
                fun piece => (more piece).head (seen piece), rest⟩

section Failing

theorem Mirrors.answers (mirrors : Mirrors Guise.plain image system) (attempt : Attempt V) :
    Option.Rel (Agrees Guise.plain) (attempt.answer? image) (attempt.answer? system) := by
  have suits := suits_plain system
  cases attempt with
  | submit scheduler handle due script =>
      exact .some (mirrors.submit suits scheduler handle due script)
  | add cache key value ttl => exact mirrors.access? suits cache key (.add value ttl)
  | set cache key value ttl => exact mirrors.access? suits cache key (.set value ttl)

theorem moveTask?_step (attempt : Attempt V) : system.moveTask? id host task label handle
      (attempt.step rest) =
    (attempt.answer? (system.proceedTask id host task label handle rest)).map
      (reportAnswer label handle) := by
  cases attempt <;> rfl

theorem proceedTask_self (found : system.scheduler? id = some host)
    (busy : host.worker = .busy task (.task label handle rest)) :
    system.proceedTask id host task label handle rest = system := by
  have same : host.proceed task (.task label handle rest) = host :=
    congrArg (fun worker => { host with worker }) busy.symm
  rw [proceedTask, same, putScheduler_self found]

theorem Marked.at (marked : Marked (some m) reflected system) (here : m.place = .here)
    (hand : system.hand? m.scheduler = some (m.task, .task label handle rest))
    (free : system.Free m.scheduler) (piece : Script V → Script V) :
    (reflected piece).At ⟨m.scheduler, m.task, label, handle, rest⟩ piece := by
  have mirrors := marked.mirrors piece
  obtain ⟨host, found, busy⟩ := hand?_eq_some_iff.1 hand
  constructor
  · have seen := mirrors.scheduler? m.scheduler
    rw [found] at seen
    refine hand?_eq_some_iff.2 ⟨_, seen, ?_⟩
    rw [Scheduler.worker_recast, busy, Worker.recast, Guise.work, Guise.marked,
      Guise.script_retell_self, here, Script.insert]
  · rw [← callOf?_eq_none_iff, mirrors.callOf?, callOf?_eq_none_iff]
    exact free

/-- An attempt that fails at the mark leaves a system that cannot be told from the one in which the
attempt is not made, except by its answer. -/
theorem Marked.fails (marked : Marked (some m) reflected system) (here : m.place = .here)
    (hand : system.hand? m.scheduler = some (m.task, .task label handle rest))
    (free : system.Free m.scheduler)
    (fails : (reflected attempt.step).Fails ⟨m.scheduler, m.task, label, handle, rest⟩ reply) :
    ∃ moved guise, (reflected attempt.step).moveWorker? m.scheduler = some moved ∧
      guise.Renumbers ∧ guise.heard = (reflected attempt.step).events.toList ++
        [.answered label handle reply] ∧ guise.kept = system.events.toList ∧
      moved.Twins guise system ∧ moved.bookings = system.bookings := by
  obtain ⟨host, found, busy⟩ := hand?_eq_some_iff.1 hand
  have reachable := marked.reachable
  obtain ⟨error, moved, move, events⟩ := fails
  have makes := marked.moveWorker?_image found busy (callOf?_eq_none_iff.2 free) attempt.step
  rw [here, Script.insert, moveTask?_step] at makes
  obtain ⟨⟨told, changed⟩, seen, rfl⟩ := Option.map_eq_some_iff.1 (makes.symm.trans move)
  obtain ⟨same, old⟩ := Array.push_eq_push.1 events
  cases same
  have proceeds : Mirrors ((Guise.marked attempt.step (some m)).retell m.scheduler m.task
      fun script => script) _ (system.proceedTask m.scheduler host m.task label handle rest) :=
    (marked.mirrors attempt.step).proceedTask ((reachable.sound found).ne_of_busy busy) label handle
      rest
  rw [Guise.retell_marked, proceedTask_self found busy] at proceeds
  have answers := proceeds.answers attempt
  rw [seen] at answers
  obtain ⟨⟨_, after⟩, answered, rfl, alike⟩ := exists_some_of_rel answers
  obtain ⟨guise, renumbers, twins, held⟩ :=
    reachable.indistinct_of_wastes (reachable.wastes answered error) alike
  refine ⟨_, _, move, ?_, ?_, ?_, twins.interject (.answered label handle told), held⟩
  · exact renumbers
  · dsimp only
    rw [report, Array.toList_push, old]
  · rfl

end Failing

section Settling

theorem settle_eq_of_isSettled {limit : Nat} (settled : (settleWithin limit ⟨0⟩ system).IsSettled) :
    system.settle = settleWithin limit ⟨0⟩ system := by
  have enough := Nat.le_max_left limit system.potential
  have plenty := Nat.le_max_right limit system.potential
  rw [settle, ← settleWithin_of_le system plenty ⟨0⟩ (isSettled_settle system),
    settleWithin_of_le system enough ⟨0⟩ settled]

theorem Marked.isSettled (marked : Marked mark images system) (away : system.Away mark)
    (settled : system.IsSettled) (piece : Script V → Script V) : (images piece).IsSettled := by
  intro turn
  obtain ⟨_, moves⟩ := marked.move away turn
  rw [settled turn] at moves
  exact eq_none_of_rel (moves piece)

theorem leads_settleWithin (limit : Nat) (turn : SchedulerId) (system : System V) :
    Leads system (settleWithin limit turn system) :=
  settleWithin_keeps (motive := Leads system) (fun leads move => leads.tail (.worker move))
    (fun leads move => leads.tail (.call move)) limit turn .refl

/-- Systems that come to be told apart no more come to rest in step. -/
theorem Twins.settle_of_movedBy? {guise : Guise V} {count others : Nat} {first second : System V}
    (twins : image.Twins guise system) (renumbers : guise.Renumbers)
    (moves : first.movedBy? count ⟨0⟩ = some (turn, image))
    (own : second.movedBy? others ⟨0⟩ = some (turn, system)) :
    first.settle.Twins guise second.settle := by
  have enough : first.potential ≤ count + max first.potential second.potential := by omega
  have plenty : second.potential ≤ others + max first.potential second.potential := by omega
  have ends : first.settle =
      settleWithin (max first.potential second.potential) turn image := by
    rw [← settleWithin_of_movedBy? moves,
      settleWithin_of_le first enough ⟨0⟩ (isSettled_settle first), settle]
  have rests : second.settle =
      settleWithin (max first.potential second.potential) turn system := by
    rw [← settleWithin_of_movedBy? own,
      settleWithin_of_le second plenty ⟨0⟩ (isSettled_settle second), settle]
  rw [ends, rests]
  exact twins.onward (twins.mirrors.settleWithin twins.suits renumbers twins.reachable _ turn)
    (leads_settleWithin _ turn system)

/-- Of two systems the same becomes known, and of the first one an event in addition. -/
def Discloses (event : Event V) (image image' system system' : System V) : Prop :=
  ∃ front back, image'.events.toList = image.events.toList ++ (front ++ event :: back) ∧
    system'.events.toList = system.events.toList ++ (front ++ back)

theorem Marked.events (marked : Marked mark images system) (piece : Script V → Script V) :
    (images piece).events.toList = system.events.toList := by
  obtain ⟨news, heard, kept⟩ := (marked.mirrors piece).events
  cases mark <;> exact heard.trans kept.symm

theorem Marked.settle_of_fails {count : Nat} {moment : System V}
    (marked : Marked mark images system) (arrives : Marked (some m) reflected moment)
    (moves : system.movedBy? count ⟨0⟩ = some (m.scheduler, moment))
    (comes : (images attempt.step).movedBy? count ⟨0⟩ = some (m.scheduler, reflected attempt.step))
    (here : m.place = .here)
    (hand : moment.hand? m.scheduler = some (m.task, .task label handle rest))
    (free : moment.Free m.scheduler)
    (fails : (reflected attempt.step).Fails ⟨m.scheduler, m.task, label, handle, rest⟩ reply) :
    Discloses (.answered label handle reply) (images attempt.step) (images attempt.step).settle
        system system.settle ∧ (images attempt.step).settle.Indistinct system.settle := by
  obtain ⟨moved, guise, move, renumbers, heard, kept, twins, held⟩ :=
    arrives.fails here hand free fails
  have comesTo := proceeds_of_movedBy? marked.reachable moves
  have settled := twins.settle_of_movedBy? renumbers
    (movedBy?_of_move? comes (move?_of_turn move)) moves
  have locks : system.settle.bookings = moment.bookings :=
    (Session.Proceeds.settle marked.reachable).bookings.trans comesTo.bookings.symm
  refine ⟨?_, guise, renumbers, settled, ?_⟩
  · obtain ⟨_, _, _, front, tells⟩ := comesTo.leads.informs
    obtain ⟨back, sees, knows⟩ := settled.mirrors.events
    refine ⟨front, back, ?_, ?_⟩
    · rw [sees, heard, arrives.events, tells.events, marked.events]
      simp only [List.append_assoc, List.singleton_append]
    · rw [knows, kept, tells.events, List.append_assoc]
  · rw [settled.mirrors.bookings, locks, ← twins.mirrors.bookings, held]

/-- The system is left to itself.  It comes to rest as if nothing was inserted, or to the mark. -/
theorem Marked.settle (marked : Marked mark images system) (away : system.Away mark) :
    (∃ next, Marked next (fun piece => (images piece).settle) system.settle ∧
        system.settle.Away next) ∨
      ∃ juncture, ∀ piece, Meets juncture [images piece] piece fun event =>
        Discloses event (images piece) (images piece).settle system system.settle ∧
          (images piece).settle.Indistinct system.settle := by
  rcases marked.approach system.potential ⟨0⟩ away with
    ⟨next, rests, still⟩ | ⟨count, m, reflected, moment, moves, comes, arrives, arrived⟩
  · have settled := rests.isSettled still (isSettled_settle system)
    refine .inl ⟨next, ?_, still⟩
    have same : (fun piece => (images piece).settle) = _ :=
      funext fun piece => settle_eq_of_isSettled (settled piece)
    rw [same]
    exact rests
  · obtain ⟨label, handle, rest, hand⟩ := arrived.hand
    refine .inr ⟨⟨m.scheduler, m.task, label, handle, rest⟩, fun piece => ?_⟩
    refine ⟨images piece, List.mem_singleton_self _, reflected piece, ⟨count, comes piece⟩,
      arrives.at arrived.here hand arrived.free piece, ?_⟩
    rintro attempt reply rfl fails
    exact marked.settle_of_fails arrives moves.movedBy? (comes _).movedBy? arrived.here hand
      arrived.free fails

end Settling

end System

end Agenda
