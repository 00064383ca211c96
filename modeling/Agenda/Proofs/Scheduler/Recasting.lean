import Agenda.Proofs.Heap.Mapping
import Agenda.Scheduler.Intake
import Agenda.Scheduler.Worker

/-!
# A scheduler that does other work

The numbers, the due times and the fates of the tasks are kept, and the work of each is exchanged for
other work, which may depend on the number of the task.  The journal may leave out that tasks panicked.
A scheduler never looks at the work or into its journal, so that every operation goes on as before.
-/

namespace Agenda

universe u v

variable {ω : Type u} {υ : Type v}

def Entry.recast (image : TaskId → ω → υ) (entry : Entry ω) : Entry υ :=
  ⟨entry.due, entry.id, image entry.id entry.work⟩

@[simp]
theorem Entry.id_recast (image : TaskId → ω → υ) (entry : Entry ω) :
    (entry.recast image).id = entry.id := rfl

@[simp]
theorem Entry.due_recast (image : TaskId → ω → υ) (entry : Entry ω) :
    (entry.recast image).due = entry.due := rfl

theorem Entry.reflects_recast (image : TaskId → ω → υ) :
    Heap.Reflects Entry.before Entry.before (Entry.recast image) :=
  fun _ _ => rfl

def Worker.recast (image : TaskId → ω → υ) : Worker ω → Worker υ
  | .starting => .starting
  | .looking => .looking
  | .idle => .idle
  | .asleep due => .asleep due
  | .busy id work => .busy id (image id work)
  | .exited => .exited

@[simp]
theorem Worker.isBusy_recast (image : TaskId → ω → υ) (worker : Worker ω) :
    (worker.recast image).isBusy = worker.isBusy := by
  cases worker <;> rfl

@[simp]
theorem Worker.isExited_recast (image : TaskId → ω → υ) (worker : Worker ω) :
    (worker.recast image).isExited = worker.isExited := by
  cases worker <;> rfl

namespace Notice

def isFailure : Notice → Bool
  | .panicked _ _ => true
  | .hookPanicked => true
  | _ => false

/-- A journal, if it is mute without the panics in it. -/
def retained (mute : Bool) (journal : Array Notice) : Array Notice :=
  bif mute then journal.filter fun notice => !notice.isFailure else journal

theorem push_retained (mute : Bool) (journal : Array Notice) {notice : Notice}
    (ordinary : notice.isFailure = false) :
    (retained mute journal).push notice = retained mute (journal.push notice) := by
  cases mute <;> simp [retained, ordinary]

end Notice

namespace Scheduler

/-- The scheduler with other work, and with all of its journal or without the panics. -/
def recast (mute : Bool) (image : TaskId → ω → υ) (scheduler : Scheduler ω) : Scheduler υ where
  settings := scheduler.settings
  queue := scheduler.queue.map (Entry.recast image)
  roster := scheduler.roster
  worker := scheduler.worker.recast image
  stopped := scheduler.stopped
  halted := scheduler.halted
  ready := scheduler.ready
  interrupt := scheduler.interrupt
  drains := scheduler.drains
  joined := scheduler.joined
  journal := Notice.retained mute scheduler.journal

variable {mute : Bool} {image : TaskId → ω → υ}

section Observers

variable (mute image) (scheduler : Scheduler ω)

@[simp]
theorem settings_recast : (scheduler.recast mute image).settings = scheduler.settings := rfl

@[simp]
theorem roster_recast : (scheduler.recast mute image).roster = scheduler.roster := rfl

@[simp]
theorem worker_recast : (scheduler.recast mute image).worker = scheduler.worker.recast image := rfl

@[simp]
theorem stopped_recast : (scheduler.recast mute image).stopped = scheduler.stopped := rfl

@[simp]
theorem halted_recast : (scheduler.recast mute image).halted = scheduler.halted := rfl

@[simp]
theorem ready_recast : (scheduler.recast mute image).ready = scheduler.ready := rfl

@[simp]
theorem interrupt_recast : (scheduler.recast mute image).interrupt = scheduler.interrupt := rfl

@[simp]
theorem drains_recast : (scheduler.recast mute image).drains = scheduler.drains := rfl

@[simp]
theorem joined_recast : (scheduler.recast mute image).joined = scheduler.joined := rfl

@[simp]
theorem name_recast : (scheduler.recast mute image).name = scheduler.name := rfl

@[simp]
theorem size_recast : (scheduler.recast mute image).size = scheduler.size := Heap.size_map _

@[simp]
theorem isEmpty_recast : (scheduler.recast mute image).isEmpty = scheduler.isEmpty :=
  Heap.isEmpty_map _

@[simp]
theorem isRunning_recast : (scheduler.recast mute image).isRunning = scheduler.isRunning :=
  Worker.isBusy_recast _ _

@[simp]
theorem isStopped_recast : (scheduler.recast mute image).isStopped = scheduler.isStopped := rfl

@[simp]
theorem isDrained_recast : (scheduler.recast mute image).isDrained = scheduler.isDrained := by
  simp [isDrained]

@[simp]
theorem refusal_recast : (scheduler.recast mute image).refusal = scheduler.refusal := rfl

@[simp]
theorem debugText_recast : (scheduler.recast mute image).debugText = scheduler.debugText := by
  simp [debugText]

@[simp]
theorem heads_recast (id : TaskId) : (scheduler.recast mute image).heads id = scheduler.heads id := by
  simp only [heads, recast, Heap.peek?_map, Option.any_map]
  rfl

end Observers

section Operations

variable (scheduler : Scheduler ω)

theorem recast_start (settings : Settings) (halted : Bool) :
    (start settings halted : Scheduler ω).recast mute image = start settings halted := by
  cases mute <;> simp [start, recast, Worker.recast, Notice.retained]

theorem note_recast {notice : Notice} (ordinary : notice.isFailure = false) :
    (scheduler.recast mute image).note notice = (scheduler.note notice).recast mute image := by
  rw [note, note, recast, recast, Notice.push_retained mute _ ordinary]

/-- The number of the new task decides what work it gets. -/
theorem accept_recast (due : Int) (work : ω) :
    (scheduler.recast mute image).accept due (image scheduler.roster.nextId work) =
      (scheduler.accept due work).recast mute image := by
  have inserted := (Entry.reflects_recast image).insert scheduler.queue
    ⟨due, scheduler.roster.nextId, work⟩
  simp only [accept, recast, ← inserted]
  rfl

theorem announce_recast (id : TaskId) :
    (scheduler.recast mute image).announce id = (scheduler.announce id).recast mute image := by
  unfold announce
  rw [size_recast, heads_recast]
  split
  · rfl
  · split
    · rw [← note_recast _ rfl]
      rfl
    · rfl

theorem submit?_recast (due : Int) (work : ω) :
    (scheduler.recast mute image).submit? due (image scheduler.roster.nextId work) =
      (scheduler.submit? due work).map fun (id, filled) => (id, filled.recast mute image) := by
  unfold submit?
  rw [isStopped_recast, accept_recast, announce_recast]
  split <;> rfl

theorem cancel_recast (id : TaskId) : (scheduler.recast mute image).cancel id =
    ((scheduler.cancel id).1, (scheduler.cancel id).2.recast mute image) := by
  unfold cancel
  rw [roster_recast]
  split
  · rw [← note_recast _ rfl]
    rfl
  · rfl

theorem join_recast : (scheduler.recast mute image).join = scheduler.join.recast mute image := rfl

theorem stopInside_recast :
    (scheduler.recast mute image).stopInside = scheduler.stopInside.recast mute image := by
  unfold stopInside
  rw [stopped_recast]
  split
  · rfl
  · rw [← note_recast _ rfl, size_recast]
    rfl

theorem close_recast : (scheduler.recast mute image).close = scheduler.close.recast mute image := by
  unfold close
  rw [stopped_recast]
  split
  · rfl
  · rw [← note_recast _ rfl]
    rfl

theorem signalDrained_recast :
    (scheduler.recast mute image).signalDrained = scheduler.signalDrained.recast mute image := by
  unfold signalDrained
  rw [isDrained_recast]
  split <;> rfl

theorem abandon_recast :
    (scheduler.recast mute image).abandon = scheduler.abandon.recast mute image := by
  have ids : (scheduler.recast mute image).queue.toList.map Entry.id =
      scheduler.queue.toList.map Entry.id := by
    rw [recast, Heap.toList_map, List.map_map]
    rfl
  unfold abandon
  dsimp only
  rw [ids, ← note_recast _ rfl, ← note_recast _ rfl]
  simp only [recast, Heap.map_empty]
  rfl

theorem discard_recast (id : TaskId) (rest : TaskQueue ω) :
    (scheduler.recast mute image).discard id (rest.map (Entry.recast image)) =
      (scheduler.discard id rest).recast mute image := by
  unfold discard
  rw [← signalDrained_recast, ← note_recast _ rfl]
  rfl

theorem begin_recast (head : Entry ω) (rest : TaskQueue ω) (now : Int) :
    (scheduler.recast mute image).begin (head.recast image) (rest.map (Entry.recast image)) now =
      (scheduler.begin head rest now).recast mute image := by
  unfold Scheduler.begin
  rw [← note_recast _ rfl]
  rfl

theorem pop?_recast : (scheduler.recast mute image).queue.pop? = scheduler.queue.pop?.map
    fun (root, rest) => (root.recast image, rest.map (Entry.recast image)) :=
  (Entry.reflects_recast image).pop? scheduler.queue

variable {scheduler} in
theorem choose_of_vacant (vacant : scheduler.queue.pop? = none) (now : Int) :
    scheduler.choose now = if scheduler.stopped then { scheduler with worker := .exited }.note .stopped
      else { scheduler with worker := .idle } := by
  rw [choose]
  split
  · rfl
  · rename_i popped
    cases vacant.symm.trans popped

variable {scheduler} in
theorem choose_of_popped {head : Entry ω} {rest : TaskQueue ω}
    (popped : scheduler.queue.pop? = some (head, rest)) (now : Int) :
    scheduler.choose now = if scheduler.roster.isPending head.id then
        if now < head.due then { scheduler with worker := .asleep head.due }
        else scheduler.begin head rest now
      else (scheduler.discard head.id rest).choose now := by
  rw [choose]
  split
  · rename_i vacant
    cases popped.symm.trans vacant
  · rename_i found
    cases popped.symm.trans found
    rfl

theorem choose_recast (now : Int) :
    (scheduler.recast mute image).choose now = (scheduler.choose now).recast mute image := by
  fun_induction scheduler.choose now with
  | case1 scheduler vacant stopped =>
      rw [choose_of_vacant (by rw [pop?_recast, vacant]; rfl), stopped_recast, if_pos stopped,
        ← note_recast _ rfl]
      rfl
  | case2 scheduler vacant running =>
      rw [choose_of_vacant (by rw [pop?_recast, vacant]; rfl), stopped_recast, if_neg running]
      rfl
  | case3 scheduler head rest popped pending early =>
      rw [choose_of_popped (by rw [pop?_recast, popped]; rfl), roster_recast, Entry.id_recast,
        Entry.due_recast, if_pos pending, if_pos early]
      rfl
  | case4 scheduler head rest popped pending due =>
      rw [choose_of_popped (by rw [pop?_recast, popped]; rfl), roster_recast, Entry.id_recast,
        Entry.due_recast, if_pos pending, if_neg due, begin_recast]
  | case5 scheduler head rest popped resolved fewer inductionHypothesis =>
      rw [choose_of_popped (by rw [pop?_recast, popped]; rfl), roster_recast, Entry.id_recast,
        if_neg resolved, discard_recast, inductionHypothesis]

theorem look_recast (now : Int) :
    (scheduler.recast mute image).look now = (scheduler.look now).recast mute image := by
  unfold look
  rw [halted_recast, abandon_recast, choose_recast]
  split <;> rfl

theorem wake?_recast (now : Int) :
    (scheduler.recast mute image).wake? now = (scheduler.wake? now).map (recast mute image) := by
  unfold wake?
  rw [worker_recast, halted_recast, ready_recast, interrupt_recast]
  cases scheduler.worker with
  | starting =>
      dsimp only [Worker.recast]
      rw [Option.map_some, ← note_recast _ rfl]
      rfl
  | idle =>
      dsimp only [Worker.recast]
      split
      · rfl
      · split <;> rfl
  | asleep due =>
      dsimp only [Worker.recast]
      split
      · rfl
      · split
        · rw [Option.map_some, ← note_recast _ rfl]
          rfl
        · split <;> rfl
  | _ => rfl

theorem finish_recast :
    (scheduler.recast mute image).finish = scheduler.finish.recast mute image := by
  unfold finish
  rw [← signalDrained_recast]
  rfl

theorem fail_recast (id : TaskId) (message : String) :
    (scheduler.recast false image).fail id message =
      (scheduler.fail id message).recast false image := by
  unfold fail
  dsimp only
  rw [settings_recast]
  split <;> rfl

end Operations

end Scheduler

end Agenda
