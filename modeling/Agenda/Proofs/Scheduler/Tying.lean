import Agenda.Heap.Order
import Agenda.Proofs.Heap.Ranking
import Agenda.Proofs.Scheduler.Acts
import Agenda.Proofs.Scheduler.Departures
import Agenda.Proofs.Scheduler.Preempting

/-!
# The order of tasks that are due at the same time

The queue of a scheduler is the heap that comes of the uses made of it, and what is noted to leave it
is what the heap answers to them.  A heap sees the due times of its entries only, so the order in
which tasks leave is a function of the due times and of the removals, whatever the tasks are.
-/

namespace Agenda

universe u v w

variable {ω : Type u}

/-- The tasks that left the queue according to a journal entry, in whatever way they left it. -/
def Notice.leavers (notice : Notice) : List TaskId :=
  notice.leaving .run ++ notice.leaving .discarded ++ notice.leaving .abandoned

def TaskId.following (number : Nat) : TaskId := ⟨number + 1⟩

namespace Scheduler

def gone (scheduler : Scheduler ω) : List TaskId :=
  scheduler.journal.toList.flatMap Notice.leavers

/-- How an entry is shown does not matter to a scheduler, which never asks for the debug text of its
queue. -/
def entryText (entry : Entry ω) : String := toString entry.due

structure Handles (before : Scheduler ω) (uses : List (Heap.Step (Entry ω)))
    (after : Scheduler ω) : Prop where
  queue : after.queue = before.queue.after entryText uses
  gone : after.gone = before.gone ++
    ((before.queue.answers entryText uses).flatMap Heap.Answer.contents).map Entry.id
  /-- Tasks are numbered in the order in which their entries are inserted. -/
  ids : (uses.flatMap Heap.Step.incoming).map Entry.id =
    (List.range' before.roster.count (uses.flatMap Heap.Step.incoming).length).map TaskId.following
  count : after.roster.count = before.roster.count + (uses.flatMap Heap.Step.incoming).length

/-- The queue of a scheduler, and the tasks that have left it, are what the due times of the uses
make of them. -/
structure Follows (keys : List (Heap.Step Int)) (scheduler : Scheduler ω) : Prop where
  waiting : scheduler.waiting =
    (Heap.arrangement NumberOrder.ascending.less toString keys).map TaskId.following
  gone : scheduler.gone =
    ((Heap.ranking NumberOrder.ascending.less toString keys).flatMap Heap.Answer.contents).map
      TaskId.following

variable {before middle after : Scheduler ω} {now : Int} {uses later : List (Heap.Step (Entry ω))}

@[simp]
theorem gone_note (scheduler : Scheduler ω) (notice : Notice) :
    (scheduler.note notice).gone = scheduler.gone ++ notice.leavers := by
  simp [gone, note]

theorem gone_of_journal (journal : after.journal = before.journal) : after.gone = before.gone := by
  rw [gone, journal, gone]

@[simp]
theorem gone_signalDrained (scheduler : Scheduler ω) :
    scheduler.signalDrained.gone = scheduler.gone := by
  unfold signalDrained
  split <;> rfl

namespace Handles

theorem still (queue : after.queue = before.queue) (gone : after.gone = before.gone)
    (roster : after.roster.count = before.roster.count) : Handles before [] after :=
  ⟨queue, by simp [gone, Heap.answers], rfl, roster⟩

theorem trans (first : Handles before uses middle) (second : Handles middle later after) :
    Handles before (uses ++ later) after := by
  constructor
  · rw [second.queue, first.queue, Heap.after_append]
  · rw [second.gone, first.gone, first.queue, Heap.answers_append, List.flatMap_append,
      List.map_append, List.append_assoc]
  · rw [List.flatMap_append, List.map_append, first.ids, second.ids, first.count,
      List.length_append, ← List.range'_append_1, List.map_append]
  · rw [second.count, first.count, List.flatMap_append, List.length_append, Nat.add_assoc]

/-- The removal of the head, with the notice of it. -/
theorem pop {head : Entry ω} {rest : TaskQueue ω} (popped : before.queue.pop? = some (head, rest))
    (queue : after.queue = rest) (gone : after.gone = before.gone ++ [head.id])
    (roster : after.roster.count = before.roster.count) : Handles before [.pop] after := by
  constructor
  · simp [Heap.after, Heap.perform, popped, queue]
  · simp [Heap.answers, Heap.perform, popped, gone, Heap.Answer.contents]
  · rfl
  · exact roster

theorem submit {due : Int} {work : ω} {id : TaskId}
    (accepted : before.submit? due work = some (id, after)) :
    Handles before (Act.uses now before (.submit due work)) after := by
  have comes := comes_of_submit? accepted
  have told : after.gone = before.gone := by
    rw [comes, Scheduler.gone, Scheduler.gone]
    dsimp only
    split
    · simp [Notice.leavers, Notice.leaving]
    · rfl
  rw [comes]
  constructor
  · rfl
  · rw [← comes, told]
    simp [Act.uses, Heap.answers, Heap.perform, Heap.Answer.contents]
  · rfl
  · exact Roster.count_accept _

theorem cancel (before : Scheduler ω) (id : TaskId) : Handles before [] (before.cancel id).2 := by
  refine still (queue_cancel before id) ?_ ?_
  · unfold Scheduler.cancel
    split
    · exact (gone_note _ _).trans (List.append_nil _)
    · rfl
  · rw [roster_cancel, Roster.count_resolve]

theorem discard {head : Entry ω} {rest : TaskQueue ω}
    (popped : before.queue.pop? = some (head, rest)) :
    Handles before [.pop] (before.discard head.id rest) := by
  refine pop popped (queue_discard ..) ?_ (congrArg Roster.count (roster_discard ..))
  rw [Scheduler.discard, gone_signalDrained, gone_note]
  rfl

theorem choose (chosen : Chooses now before after) : ∃ removals,
    before.size = after.size + removals ∧
      Handles before (List.replicate removals .pop) after := by
  induction chosen with
  | exit _ _ => exact ⟨0, rfl, still rfl ((gone_note _ _).trans (List.append_nil _)) rfl⟩
  | idle _ _ => exact ⟨0, rfl, still rfl rfl rfl⟩
  | sleep _ _ _ => exact ⟨0, rfl, still rfl rfl rfl⟩
  | begin popped _ _ =>
      refine ⟨1, (Heap.size_of_pop? popped).symm, pop popped rfl (gone_note _ _) ?_⟩
      exact Roster.count_resolve _ _ _
  | @discard scheduler last head rest popped _ _ inductionHypothesis =>
      obtain ⟨removals, size, handles⟩ := inductionHypothesis
      refine ⟨removals + 1, ?_, (discard popped).trans handles⟩
      have shorter : rest.size + 1 = scheduler.size := Heap.size_of_pop? popped
      have left : (scheduler.discard head.id rest).size = rest.size :=
        congrArg Heap.size (queue_discard ..)
      omega

theorem abandon (before : Scheduler ω) : Handles before [.drain none] before.abandon := by
  constructor
  · rfl
  · rw [Scheduler.abandon, gone_note, gone_note]
    simp [Notice.leavers, Notice.leaving, Heap.answers, Heap.perform, Heap.drain,
      Heap.Answer.contents, Scheduler.gone]
  · rfl
  · exact Roster.count_cancelAll _ _

theorem look (before : Scheduler ω) (now : Int) :
    Handles before (Act.uses now before .look) (before.look now) := by
  simp only [Act.uses, Scheduler.look]
  split
  · exact abandon before
  · obtain ⟨removals, size, handles⟩ := choose (chooses_choose before now)
    rw [size, Nat.add_sub_cancel_left]
    exact handles

end Handles

theorem Act.handles {act : Act ω} (done : act.result? now before = some after) :
    Handles before (act.uses now before) after := by
  cases act with
  | submit due work =>
      obtain ⟨⟨id, _⟩, accepted, rfl⟩ := Option.map_eq_some_iff.1 done
      exact .submit accepted
  | cancel id =>
      cases done
      exact .cancel before id
  | disown id =>
      cases done
      exact .still rfl ((gone_note _ _).trans (List.append_nil _)) rfl
  | halt =>
      cases done
      exact .still rfl rfl rfl
  | stopInside =>
      obtain ⟨_, same⟩ := Option.ite_none_right_eq_some.1 done
      cases same
      unfold Scheduler.stopInside
      split
      · exact .still rfl rfl rfl
      · exact .still rfl ((gone_note _ _).trans (List.append_nil _)) rfl
  | close =>
      obtain ⟨_, same⟩ := Option.ite_none_right_eq_some.1 done
      cases same
      unfold Scheduler.close
      split
      · exact .still rfl rfl rfl
      · exact .still rfl ((gone_note _ _).trans (List.append_nil _)) rfl
  | join =>
      cases done
      exact .still rfl rfl rfl
  | look =>
      obtain ⟨_, rfl⟩ := looking_of_result? done
      exact .look before now
  | wake =>
      have wakes := wakes_of_wake? done
      refine .still wakes.queue ?_ (congrArg Roster.count wakes.roster)
      rcases wakes.journal with same | ⟨_, rfl | rfl, noted⟩
      · exact gone_of_journal same
      all_goals simp [gone, noted, Notice.leavers, Notice.leaving]
  | proceed rest =>
      obtain ⟨id, work, _, rfl⟩ := busy_of_result? done
      exact .still rfl rfl rfl
  | fail message =>
      obtain ⟨id, work, _, rfl⟩ := busy_of_result? done
      refine .still (queue_fail ..) ?_ (congrArg Roster.count (roster_fail ..))
      unfold Scheduler.fail
      dsimp only
      split <;> simp [Notice.leavers, Notice.leaving]
  | finish =>
      obtain ⟨id, work, _, rfl⟩ := busy_of_result? done
      refine .still (queue_signalDrained _) (gone_signalDrained _) ?_
      exact congrArg Roster.count (roster_signalDrained _)

end Scheduler

open Scheduler in
theorem History.handles {first last : Moment ω} {uses : List (Heap.Step (Entry ω))}
    (history : History first uses last) : Handles first.scheduler uses last.scheduler := by
  induction history with
  | rest => exact .still rfl rfl rfl
  | act act _ done inductionHypothesis => exact inductionHypothesis.trans (act.handles done)
  | pass _ _ inductionHypothesis => exact inductionHypothesis

theorem map_id_of_numbers {uses : List (Heap.Step (Entry ω))} {entries : List (Entry ω)}
    {numbers : List Nat}
    (ids : (uses.flatMap Heap.Step.incoming).map Entry.id =
      (List.range' 0 (uses.flatMap Heap.Step.incoming).length).map TaskId.following)
    (same : entries.map some = numbers.map (Heap.inserted uses)) :
    entries.map Entry.id = numbers.map TaskId.following := by
  have id_of_inserted {number : Nat} {entry : Entry ω}
      (found : Heap.inserted uses number = some entry) : entry.id = .following number := by
    have listed : (uses.flatMap Heap.Step.incoming)[number]? = some entry := found
    obtain ⟨inside, _⟩ := List.getElem?_eq_some_iff.1 listed
    have shown := congrArg (·[number]?) ids
    rw [List.getElem?_map, listed, List.getElem?_map, List.getElem?_range' inside] at shown
    simpa using shown
  induction entries generalizing numbers with
  | nil =>
      rw [List.map_nil, eq_comm, List.map_eq_nil_iff] at same
      rw [same]
      rfl
  | cons entry entries inductionHypothesis =>
      cases numbers with
      | nil => cases same
      | cons number numbers =>
          obtain ⟨found, rest⟩ := List.cons.inj same
          rw [List.map_cons, List.map_cons, inductionHypothesis rest, id_of_inserted found.symm]

theorem reflects_due : Heap.Reflects Entry.before NumberOrder.ascending.less
    (Entry.due : Entry ω → Int) := fun _ _ => rfl

open Scheduler in
theorem History.follows {settings : Settings} {halted : Bool} {start : Int} {last : Moment ω}
    {uses : List (Heap.Step (Entry ω))}
    (history : History ⟨start, Scheduler.start settings halted⟩ uses last) :
    Follows (uses.map (Heap.Step.map Entry.due)) last.scheduler := by
  have handles := history.handles
  have numbered : Heap.Numbered Entry.before entryText uses _ _ :=
    Heap.numbered_ranking (reflects_due (ω := ω)) toString uses
  constructor
  · have queue : last.scheduler.queue = (Heap.empty : TaskQueue ω).after entryText uses :=
      handles.queue
    rw [waiting, queue]
    exact map_id_of_numbers handles.ids numbered.array
  · have gone : last.scheduler.gone =
        (((Heap.empty : TaskQueue ω).answers entryText uses).flatMap
          Heap.Answer.contents).map Entry.id := handles.gone
    rw [gone]
    refine map_id_of_numbers handles.ids ?_
    have contents := congrArg (List.flatMap Heap.Answer.contents) numbered.answers
    simpa [List.flatMap_map, List.map_flatMap] using contents

/-- An image that compares as the items do keeps step with them.  So a heap of entries answers, and
lays out its array, by the due times alone, and the queue of a scheduler does so through everything
that is done to the scheduler. -/
theorem Heap.Reflects.keeps_step {α : Type u} {β : Type v} {less : α → α → Bool}
    {less' : β → β → Bool} {image : α → β} (reflects : Heap.Reflects less less' image)
    (itemText : β → String) (heap : Heap α less) (steps : List (Heap.Step α)) :
    heap.Mirrors less' image itemText steps ∧
      (∀ {ω : Type w} (steps : List (Heap.Step (Entry ω))),
        Heap.Numbered Entry.before Scheduler.entryText steps
          (Heap.ranking NumberOrder.ascending.less toString (steps.map (Heap.Step.map Entry.due)))
          (Heap.arrangement NumberOrder.ascending.less toString
            (steps.map (Heap.Step.map Entry.due)))) ∧
      ∀ {ω : Type w} {settings : Settings} {halted : Bool} {start : Int} {last : Moment ω},
        (∀ {record : List Occurrence}, Run ⟨start, Scheduler.start settings halted⟩ record last →
          ∃ uses, History ⟨start, Scheduler.start settings halted⟩ uses last) ∧
        ∀ {uses : List (Heap.Step (Entry ω))},
          History ⟨start, Scheduler.start settings halted⟩ uses last →
            last.scheduler.Follows (uses.map (Heap.Step.map Entry.due)) :=
  ⟨reflects.mirrors itemText heap steps,
    fun steps => Heap.numbered_ranking reflects_due toString steps,
    fun run => exists_history_iff.2 ⟨_, run⟩, History.follows⟩

deriving instance DecidableEq for Heap.Step

/-- Numbers are ordered by magnitude, and their magnitudes are the images.  Of three tasks that are due
at the same time the last one leaves before the second one, whether it begins or was cancelled. -/
theorem Heap.keeps_step_of_magnitudes :
    ∃ (cancelled : Moment Unit) (begun : Moment Nat) (uses : List (Heap.Step (Entry Unit)))
        (others : List (Heap.Step (Entry Nat))),
      Heap.Reflects NumberOrder.magnitude.less NumberOrder.ascending.less
          (fun number : Int => (number.natAbs : Int)) ∧
        History ⟨0, Scheduler.start {} false⟩ uses cancelled ∧
        History ⟨0, Scheduler.start {} false⟩ others begun ∧
        uses.map (Heap.Step.map Entry.due) = others.map (Heap.Step.map Entry.due) ∧
        cancelled.scheduler.left .discarded = [⟨3⟩] ∧ begun.scheduler.left .discarded = [] ∧
        cancelled.scheduler.gone = [⟨1⟩, ⟨3⟩, ⟨2⟩] ∧ begun.scheduler.gone = [⟨1⟩, ⟨3⟩, ⟨2⟩] ∧
        (Heap.empty : Heap Int NumberOrder.magnitude.less).Mirrors NumberOrder.ascending.less
          (fun number => (number.natAbs : Int)) toString
          [.insert [2, -1, 1], .peek, .pop, .pop, .drain none] := by
  have reflects : Heap.Reflects NumberOrder.magnitude.less NumberOrder.ascending.less
      (fun number : Int => (number.natAbs : Int)) := by
    intro first second
    exact decide_eq_decide.2 Int.ofNat_lt
  obtain ⟨mirrors, _, follows⟩ := reflects.keeps_step toString Heap.empty
    [.insert [2, -1, 1], .peek, .pop, .pop, .drain none]
  have withCancel : (Moment.trace? ⟨0, Scheduler.start {} false⟩
      [(0, .wake), (0, .submit 5 ()), (0, .submit 5 ()), (0, .submit 5 ()), (0, .cancel ⟨3⟩),
        (0, .look), (5, .wake), (5, .look), (5, .finish), (5, .look)]).any (fun run =>
          decide (run.1.map (Heap.Step.map Entry.due) = [.insert [5], .insert [5], .insert [5], .pop,
            .pop, .pop]) && decide (run.2.scheduler.left .discarded = [⟨3⟩])) = true := by
    decide +kernel
  have without : (Moment.trace? ⟨0, Scheduler.start {} false⟩
      [(0, .submit 5 8), (0, .submit 5 9), (1, .wake), (1, .look), (2, .submit 5 7), (5, .wake),
        (5, .look), (5, .finish), (6, .look), (6, .finish), (7, .look)]).any (fun run =>
          decide (run.1.map (Heap.Step.map Entry.due) = [.insert [5], .insert [5], .insert [5], .pop,
            .pop, .pop]) && decide (run.2.scheduler.left .discarded = [])) = true := by
    decide +kernel
  obtain ⟨⟨uses, cancelled⟩, traced, shown⟩ := (Option.any_eq_true _ _).1 withCancel
  obtain ⟨⟨others, begun⟩, traced', shown'⟩ := (Option.any_eq_true _ _).1 without
  rw [Bool.and_eq_true, decide_eq_true_eq, decide_eq_true_eq] at shown shown'
  have history := History.of_trace? traced
  have history' := History.of_trace? traced'
  have order : ((Heap.ranking NumberOrder.ascending.less toString
      [.insert [5], .insert [5], .insert [5], .pop, .pop, .pop]).flatMap
        Heap.Answer.contents).map TaskId.following = [⟨1⟩, ⟨3⟩, ⟨2⟩] := by
    cbv
  have gone := (follows.2 history).gone
  have gone' := (follows.2 history').gone
  rw [shown.1, order] at gone
  rw [shown'.1, order] at gone'
  exact ⟨cancelled, begun, uses, others, reflects, history, history', shown.1.trans shown'.1.symm,
    shown.2, shown'.2, gone, gone', mirrors⟩

end Agenda
