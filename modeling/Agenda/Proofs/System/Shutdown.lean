import Agenda.Proofs.Scheduler.Halting
import Agenda.Proofs.System.Partition
import Agenda.Proofs.System.Waiting

/-!
# What a shutdown leaves behind

A shutdown from outside returns when its scheduler is drained and stopped.  From then on nothing
happens to the tasks of the scheduler, and none is accepted.
-/

namespace Agenda.System

universe u

variable {V : Type u} {system moved before after : System V} {id : SchedulerId}
  {position : Nat} {call : Call} {host : Scheduler (Work V)}

structure Returns (system moved : System V) (position : Nat) (call : Call) : Prop where
  found : system.calls[position]? = some call
  owner : call.owner = true
  move : system.moveCall? position = some moved
  ended : moved.calls = system.calls.eraseIdx position

/-- The scheduler is as it was, but for the signal that wakes a worker; and it is halted if nobody
refers to it any more. -/
def Rests (system : System V) (id : SchedulerId) (host changed : Scheduler (Work V)) : Prop :=
  changed = if system.keepsScheduler id then { host with ready := true }
    else { host with ready := true }.halt

/-- What is left of the scheduler `id` when a shutdown has returned in the move from `system` to
`moved`, before which the scheduler was `host`. -/
structure ShutsDown (system moved : System V) (id : SchedulerId)
    (host changed : Scheduler (Work V)) : Prop where
  vacant : changed.queue.toList = []
  free : changed.worker.isBusy = false
  stopped : changed.stopped = true
  resolved : ∀ {task fate}, changed.roster.fate? task = some fate →
    fate = .fired ∨ fate = .cancelled
  /-- Without a stop signal, all tasks have run that were not cancelled. -/
  ran : host.halted = false → ∀ {task}, changed.roster.fate? task ≠ none →
    task ∉ changed.withdrawn → changed.roster.fate? task = some .fired
  completed : host.halted = false → ∀ {settings halted now record},
    Run ⟨now, Scheduler.start settings halted⟩ record ⟨system.now, host⟩ →
      ∀ {task due}, .accepted task due ∈ record → .cancelAnswered task true ∉ record →
        (∃ time, .began task time ∈ record) ∧ .ended task ∈ record
  /-- No task begins any more, and none changes its fate. -/
  final : ∀ {later}, Leads moved later →
    ∃ last, later.scheduler? id = some last ∧ Scheduler.StaysClosed changed last
  refuses : ∀ {later label handle target due instant script}, Leads moved later →
    later.schedulerAt? label = some (id, target) → due.instant? later.now = some instant →
      later.submit label handle due script = (.refused (.stopped target.name), later)
  /-- A shutdown that begins later returns as soon as it looks, and changes nothing. -/
  again : ∀ {later position call}, Leads moved later → later.calls[position]? = some call →
    call.owner = true → call.scheduler = id → call.stage = .checking →
      ∃ last next closed, later.scheduler? id = some last ∧ later.Returns next position call ∧
        next.scheduler? id = some closed ∧ next.Rests id last closed

structure Drains (system : System V) : Prop where
  returns : ∀ {moved position call}, system.Returns moved position call →
    ∃ host changed, system.scheduler? call.scheduler = some host ∧
      moved.scheduler? call.scheduler = some changed ∧
        ShutsDown system moved call.scheduler host changed
  /-- A scheduler that is neither stopped nor halted accepts every task, even if shutdowns wait for
  it, and these will wait for the task as well. -/
  waits : ∀ {label id target handle due instant script},
    system.schedulerAt? label = some (id, target) → target.isStopped = false →
    due.instant? system.now = some instant →
      ∃ task accepted, system.submit label handle due script = (.accepted task, accepted) ∧
        accepted.calls = system.calls ∧
        ∀ {later moved position call}, Leads accepted later →
          later.Returns moved position call → call.scheduler = id →
            ∃ changed, moved.scheduler? id = some changed ∧ changed.worker.isBusy = false ∧
              (changed.roster.fate? task = some .fired ∨
                changed.roster.fate? task = some .cancelled)

theorem Evolves.joined (evolves : Evolves before after) (found : before.scheduler? id = some host)
    (joined : host.joined = true) :
    ∃ changed, after.scheduler? id = some changed ∧ changed.joined = true := by
  obtain ⟨_, changed, seen, run⟩ := evolves.old found
  exact ⟨changed, seen, run.remembers.joined joined⟩

@[simp]
theorem keepsScheduler_returnTo (system : System V) (caller : Caller) (id : SchedulerId) :
    (system.returnTo caller).keepsScheduler id = system.keepsScheduler id := by
  cases caller <;> rfl

@[simp]
theorem scheduler?_returnTo (system : System V) (caller : Caller) (id : SchedulerId) :
    (system.returnTo caller).scheduler? id = system.scheduler? id := by
  cases caller <;> rfl

theorem calls_endCall (system : System V) (position : Nat) (call : Call) :
    (system.endCall position call).calls = system.calls.eraseIdx position := by
  rw [endCall]
  cases call.caller <;> rfl

theorem scheduler?_endCall (found : system.scheduler? id = some host) (position : Nat)
    (call : Call) : (system.endCall position call).scheduler? id =
      some (if (system.endCall position call).keepsScheduler id then host else host.halt) := by
  have shorter : ({ system with calls := system.calls.eraseIdx position } : System V).scheduler? id
      = some host := found
  rw [endCall, scheduler?_returnTo, keepsScheduler_returnTo, scheduler?_sweep shorter]

/-- How a returning shutdown finds a scheduler, and how it leaves it. -/
structure Closes (host left : Scheduler (Work V)) : Prop where
  vacant : host.queue.toList = []
  free : host.worker.isBusy = false
  closed : left.Closed
  joined : left.joined = true
  roster : left.roster = host.roster
  withdrawn : left.withdrawn = host.withdrawn

theorem closes_of_isDrained (drained : host.isDrained = true) (joined : host.joined = true) :
    Closes host host.close := by
  have closed := Scheduler.Closed.of_isDrained drained
  have same : host.close.queue = host.queue ∧ host.close.worker = host.worker ∧
      host.close.joined = host.joined ∧ host.close.roster = host.roster := by
    unfold Scheduler.close
    split <;> exact ⟨rfl, rfl, rfl, rfl⟩
  obtain ⟨queue, worker, still, roster⟩ := same
  refine ⟨?_, ?_, closed, still.trans joined, roster, ?_⟩
  · rw [← queue, closed.queue]
  · rw [← worker, closed.free]
  · unfold Scheduler.close
    split
    · rfl
    · rw [Scheduler.withdrawn_note]
      exact List.append_nil _

theorem closes_of_exited (sound : host.Sound) (exited : host.worker = .exited)
    (joined : host.joined = true) : Closes host host := by
  obtain ⟨vacant, stopped⟩ := sound.exited exited
  have past : host.IsOver := ⟨exited, Scheduler.toList_eq_nil_iff.2 vacant, stopped⟩
  exact ⟨past.queue, past.closed.free, past.closed, joined, rfl, rfl⟩

theorem Closes.halt {left : Scheduler (Work V)} (closes : Closes host left) :
    Closes host left.halt :=
  ⟨closes.vacant, closes.free, ⟨closes.closed.stopped, closes.closed.queue, closes.closed.free⟩,
    closes.joined, closes.roster, closes.withdrawn⟩

/-- A call that only goes on to another stage does not return. -/
theorem calls_setStage_ne (found : system.calls[position]? = some call) (stage : Stage) :
    (system.setStage position call stage).calls ≠ system.calls.eraseIdx position := by
  intro same
  obtain ⟨inside, _⟩ := List.getElem?_eq_some_iff.1 found
  have shorter := congrArg List.length same
  rw [setStage, List.length_set, List.length_eraseIdx_of_lt inside] at shorter
  omega

theorem Returns.closes (returns : system.Returns moved position call)
    (reachable : Reachable system) : ∃ host changed,
      system.scheduler? call.scheduler = some host ∧
        moved.scheduler? call.scheduler = some changed ∧ Closes host changed := by
  obtain ⟨found, owner, move, ended⟩ := returns
  have ends {system : System V} {host closed : Scheduler (Work V)}
      (hosted : system.scheduler? call.scheduler = some closed) (closes : Closes host closed) :
      ∃ changed, (system.endCall position call).scheduler? call.scheduler = some changed ∧
        Closes host changed := by
    refine ⟨_, scheduler?_endCall hosted position call, ?_⟩
    split
    · exact closes
    · exact closes.halt
  obtain ⟨_, same, onTarget⟩ := Option.bind_eq_some_iff.1 move
  cases found.symm.trans same
  obtain ⟨host, hosted, taken⟩ := Option.bind_eq_some_iff.1 onTarget
  split at taken
  · split at taken
    · rename_i drained
      dsimp only at taken
      split at taken <;> cases taken
      · rename_i joined
        obtain ⟨changed, seen, closes⟩ := ends (scheduler?_putScheduler_self hosted host.close)
          (closes_of_isDrained drained joined)
        exact ⟨host, changed, hosted, seen, closes⟩
      · exact absurd ended (calls_setStage_ne found .joining)
    · cases taken
      exact absurd ended (calls_setStage_ne found _)
  · split at taken <;> cases taken
    exact absurd ended (calls_setStage_ne found .checking)
  · rename_i waits
    split at taken <;> cases taken
    rename_i exited
    obtain ⟨other, seen, fits⟩ := reachable.attended.fits call (List.mem_of_getElem? found)
    cases hosted.symm.trans seen
    have fitting := fits.shutdown owner
    rw [waits] at fitting
    obtain ⟨changed, again, closes⟩ := ends hosted
      (closes_of_exited (reachable.sound hosted) (Worker.isExited_iff.1 exited) fitting.1)
    exact ⟨host, changed, hosted, again, closes⟩

/-- A shutdown that finds a closed scheduler, and is not the first, returns at once. -/
theorem exists_returns (found : system.calls[position]? = some call) (owner : call.owner = true)
    (stage : call.stage = .checking) (hosted : system.scheduler? call.scheduler = some host)
    (closed : host.Closed) (joined : host.joined = true) :
    ∃ next changed, system.Returns next position call ∧
      next.scheduler? call.scheduler = some changed ∧ next.Rests call.scheduler host changed := by
  have drained : host.isDrained = true := closed.isDrained
  have quiet : host.close = { host with ready := true } := by
    rw [Scheduler.close, if_pos closed.stopped]
  have move : system.moveCall? position =
      some ((system.putScheduler call.scheduler host.close).endCall position call) := by
    simp [moveCall?, found, hosted, stage, drained, joined]
  refine ⟨_, _, ⟨found, owner, move, calls_endCall _ _ _⟩,
    scheduler?_endCall (scheduler?_putScheduler_self hosted _) position call, ?_⟩
  rw [Rests, quiet]

/-- Where somebody asks something of a system: a caller from outside, a task in the middle of a
step, or an access that has read the clock. -/
inductive Asks (system : System V) : System V → Prop where
  | call : Asks system system
  | task {own : SchedulerId} {worker : Scheduler (Work V)} (task : TaskId) (label handle : Label)
      (rest : Script V) : system.scheduler? own = some worker →
      Asks system (system.proceedTask own worker task label handle rest)
  | access {asked locked : System V} {target : CacheId} {cache : Cache V} {key : String}
      {access : Access V} {booking : Booking V} : Asks system asked →
      asked.book target cache key access = .ok (booking, locked) → Asks system locked

/-- Only the worker's place in its task differs. -/
theorem Asks.scheduler? {asked : System V} (asks : Asks system asked)
    (found : system.scheduler? id = some host) :
    ∃ worker, asked.scheduler? id = some { host with worker } := by
  induction asks with
  | call => exact ⟨host.worker, found⟩
  | @task own worker task label handle rest located =>
      by_cases same : id = own
      · subst same
        cases found.symm.trans located
        exact ⟨_, scheduler?_putScheduler_self found _⟩
      · exact ⟨host.worker, (scheduler?_putScheduler_of_ne system same _).trans found⟩
  | access _ booked inductionHypothesis =>
      obtain ⟨_, _, _, rfl⟩ := eq_of_book booked
      exact inductionHypothesis

structure Refuses (system : System V) (id : SchedulerId) : Prop where
  queue : ∀ {asked}, Asks system asked → ∀ due work, asked.submit? id due work = none
  tasks : ∀ {asked label handle target due instant script}, Asks system asked →
    asked.schedulerAt? label = some (id, target) → due.instant? asked.now = some instant →
      asked.submit label handle due script = (.refused (.stopped target.name), asked)
  /-- A cache on the scheduler cannot arrange for a deletion. -/
  accesses : ∀ {asked booking cache deadline host}, Asks system asked →
    booking.deadline = some deadline → asked.cache? booking.cache = some cache →
    cache.scheduler = id → asked.scheduler? id = some host →
      asked.resolve booking = asked.decline booking cache (.stopped host.name)

theorem refuses_of_isStopped (found : system.scheduler? id = some host)
    (stopped : host.isStopped = true) : system.Refuses id := by
  have queue {asked : System V} (asks : Asks system asked) (due : Int) (work : Work V) :
      asked.submit? id due work = none := by
    obtain ⟨worker, seen⟩ := asks.scheduler? found
    have still : { host with worker }.isStopped = true := stopped
    rw [submit?_of_found seen, Scheduler.submit?_of_isStopped still, Option.map_none]
  refine ⟨queue, ?_, ?_⟩
  · intro asked label handle target due instant script asks located reached
    simp only [submit, located, reached, queue asks]
    rfl
  · intro asked booking cache deadline target asks reached held own hosted
    subst own
    simp only [resolve, reached, held, hosted, queue asks]
    rfl

theorem Returns.shutsDown (returns : system.Returns moved position call)
    (reachable : Reachable system) : ∃ host changed,
      system.scheduler? call.scheduler = some host ∧
        moved.scheduler? call.scheduler = some changed ∧
          ShutsDown system moved call.scheduler host changed := by
  obtain ⟨host, changed, hosted, seen, closes⟩ := returns.closes reachable
  have after : Reachable moved := reachable.step (.call returns.move)
  have sound := after.sound seen
  have resolved {task : TaskId} {fate : Fate} (known : changed.roster.fate? task = some fate) :
      fate = .fired ∨ fate = .cancelled := by
    cases fate with
    | pending => exact absurd known (closes.closed.resolved sound task)
    | fired => exact .inl rfl
    | cancelled => exact .inr rfl
  refine ⟨host, changed, hosted, seen, closes.closed.queue, closes.closed.free,
    closes.closed.stopped, resolved, ?_, ?_, ?_, ?_, ?_⟩
  · intro running task known kept
    obtain ⟨fate, shown⟩ := Option.ne_none_iff_exists'.1 known
    rcases resolved shown with rfl | rfl
    · exact shown
    · have accounts := reachable.accounts hosted
      rw [closes.roster] at shown
      rw [closes.withdrawn] at kept
      have abandoned := (accounts.cancelled shown).resolve_left kept
      rw [accounts.halted (List.ne_nil_of_mem abandoned)] at running
      cases running
  · intro running settings halted now record run task due accepted kept
    exact run.completes closes.vacant closes.free running accepted kept
  · exact fun leads => leads.staysClosed seen sound closes.closed
  · intro later label handle target due instant script leads located reached
    obtain ⟨last, again, still⟩ := leads.staysClosed seen sound closes.closed
    exact (refuses_of_isStopped again still.closed.isStopped).tasks .call located reached
  · intro later position call leads found owner own stage
    obtain ⟨last, again, still⟩ := leads.staysClosed seen sound closes.closed
    obtain ⟨other, same, joined⟩ := leads.evolves.joined seen closes.joined
    cases again.symm.trans same
    rw [← own] at again ⊢
    obtain ⟨next, closed, returns, rest⟩ :=
      exists_returns found owner stage again still.closed joined
    exact ⟨last, next, closed, again, returns, rest⟩

theorem submit_of_running {label : Label} {due : Due} {instant : Int}
    (located : system.schedulerAt? label = some (id, host)) (running : host.isStopped = false)
    (reached : due.instant? system.now = some instant) (handle : Label) (script : Script V) :
    ∃ task filled, host.submit? instant (.task label handle script) = some (task, filled) ∧
      system.submit label handle due script = (.accepted task,
        { system.putScheduler id filled with
          handles := system.handles.insert handle ⟨id, task⟩ }) := by
  have hosted := scheduler?_of_schedulerAt? located
  have accepted : host.submit? instant (.task label handle script) = some (host.roster.nextId,
      (host.accept instant (.task label handle script)).announce host.roster.nextId) := by
    rw [Scheduler.submit?, if_neg (by rw [running]; exact Bool.false_ne_true)]
  refine ⟨_, _, accepted, ?_⟩
  simp only [submit, located, reached, submit?_of_found hosted, accepted, Option.map_some]
  rfl

theorem Reachable.drains (reachable : Reachable system) : system.Drains := by
  refine ⟨fun returns => returns.shutsDown reachable, ?_⟩
  intro label id target handle due instant script located running reached
  obtain ⟨task, filled, accepted, submitted⟩ :=
    submit_of_running located running reached handle script
  refine ⟨task, _, submitted, rfl, ?_⟩
  intro later moved position call leads returns own
  have filling : Step system (system.submit label handle due script).2 :=
    .deed system (.submit label handle due script)
  rw [submitted] at filling
  have filledReachable := reachable.step filling
  have hosted := scheduler?_putScheduler_self (scheduler?_of_schedulerAt? located) filled
  have pending : filled.roster.fate? task ≠ none := by
    obtain ⟨_, rfl, _, _, _, rfl⟩ := Scheduler.eq_of_submit? accepted
    rw [Scheduler.accept, Roster.fate?_accept, if_pos rfl]
    exact Option.some_ne_none _
  obtain ⟨host, changed, _, seen, shut⟩ := returns.shutsDown (filledReachable.leads leads)
  rw [own] at seen
  have onward : Leads _ moved := leads.tail (.call returns.move)
  obtain ⟨_, last, again, run⟩ := onward.evolves.old hosted
  cases seen.symm.trans again
  obtain ⟨fate, known⟩ := Option.ne_none_iff_exists'.1
    (run.known (filledReachable.sound hosted) pending)
  refine ⟨changed, seen, shut.free, ?_⟩
  rw [known]
  exact (shut.resolved known).imp (congrArg some) (congrArg some)

/-- A shutdown waits for a task that is submitted after it has begun. -/
theorem drains_of_late_task :
    ∃ (system moved : System Nat) (call : Call) (host changed : Scheduler (Work Nat)),
      Reachable system ∧ system.Drains ∧ system.Returns moved 0 call ∧
        system.scheduler? ⟨0⟩ = some host ∧ moved.scheduler? ⟨0⟩ = some changed ∧
        host.begun = [(⟨1⟩, 0), (⟨2⟩, 0)] ∧ ShutsDown system moved ⟨0⟩ host changed := by
  have empty : Reachable ({} : System Nat) := .start
  have created := empty.step (.deed _ (.request (.create "main" {})))
  have first := created.step (.deed _ (.submit "main" "first" (.at 0) .done))
  have called := first.step (.deed _ (.part (.shutdown "main") "closer"))
  generalize given : (Session.perform (Session.perform (Session.perform ({} : System Nat)
    (.request (.create "main" {}))).2 (.submit "main" "first" (.at 0) .done)).2
    (.part (.shutdown "main") "closer")).2 = start at called
  have course : ((start.moveWorker? ⟨0⟩).bind (·.moveCall? 0)).any (fun parked =>
      (((((Session.perform parked (.submit "main" "late" (.at 0) .done)).2.moveWorker? ⟨0⟩).bind
        (·.moveWorker? ⟨0⟩)).bind (·.moveWorker? ⟨0⟩)).bind (·.moveWorker? ⟨0⟩)).any
          fun (ran : System Nat) => (ran.moveCall? 0).any fun (checks : System Nat) =>
            (checks.moveCall? 0).any fun (joins : System Nat) =>
              (joins.moveWorker? ⟨0⟩).any fun (exited : System Nat) =>
                (exited.scheduler? ⟨0⟩).any (fun (host : Scheduler (Work Nat)) =>
                  host.begun == [(⟨1⟩, 0), (⟨2⟩, 0)]) &&
                (exited.calls[0]?).any (fun call => call.owner && decide (call.scheduler = ⟨0⟩)) &&
                (exited.moveCall? 0).any fun (moved : System Nat) =>
                  decide (moved.calls = exited.calls.eraseIdx 0)) = true := by
    rw [← given]
    cbv
  obtain ⟨parked, waits, course⟩ := (Option.any_eq_true _ _).1 course
  obtain ⟨up, starts, parks⟩ := Option.bind_eq_some_iff.1 waits
  obtain ⟨ran, runs, course⟩ := (Option.any_eq_true _ _).1 course
  simp only [Option.bind_eq_some_iff] at runs
  obtain ⟨later, ⟨middle, ⟨begun, begins, ends⟩, again⟩, rests⟩ := runs
  obtain ⟨checking, checks, course⟩ := (Option.any_eq_true _ _).1 course
  obtain ⟨joining, joins, course⟩ := (Option.any_eq_true _ _).1 course
  obtain ⟨system, exits, course⟩ := (Option.any_eq_true _ _).1 course
  rw [Bool.and_eq_true, Bool.and_eq_true] at course
  obtain ⟨⟨ran, listed⟩, course⟩ := course
  obtain ⟨host, hosted, shown⟩ := (Option.any_eq_true _ _).1 ran
  obtain ⟨call, listed, facts⟩ := (Option.any_eq_true _ _).1 listed
  rw [Bool.and_eq_true] at facts
  obtain ⟨moved, move, ended⟩ := (Option.any_eq_true _ _).1 course
  have late := ((called.step (.worker starts)).step (.call parks)).step
    (.deed _ (.submit "main" "late" (.at 0) .done))
  have rested := (((late.step (.worker begins)).step (.worker ends)).step (.worker again)).step
    (.worker rests)
  have reachable : Reachable system :=
    ((rested.step (.call checks)).step (.call joins)).step (.worker exits)
  have drains := Reachable.drains reachable
  have returns : system.Returns moved 0 call :=
    ⟨listed, facts.1, move, of_decide_eq_true ended⟩
  obtain ⟨found, changed, same, seen, shut⟩ := drains.returns returns
  rw [of_decide_eq_true facts.2] at same seen shut
  cases hosted.symm.trans same
  exact ⟨system, moved, call, host, changed, reachable, drains, returns, hosted, seen,
    beq_iff_eq.1 shown, shut⟩

end Agenda.System
