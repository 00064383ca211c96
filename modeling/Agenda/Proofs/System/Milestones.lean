import Agenda.Proofs.Scheduler.Milestones
import Agenda.Proofs.System.Footprint
import Agenda.Proofs.System.Operation

/-!
# Which operations are milestones of a scheduler

A scheduler comes to a milestone when its worker comes up, when one of its own tasks shuts it down, when
a shutdown from outside finds it drained, and when its worker exits.  Whatever else is done to a system
is a milestone of none of its schedulers.
-/

namespace Agenda

universe u

variable {V : Type u}

def Worker.isLooking {ω : Type u} : Worker ω → Bool
  | .looking => true
  | _ => false

def Demand.shutsDown (system : System V) (id : SchedulerId) : Demand V → Bool
  | .part (.shutdown label) => system.schedulerLabels[label]? = some id
  | _ => false

namespace System

def noted (system : System V) (id : SchedulerId) (notices : Scheduler (Work V) → List Notice) :
    List Notice :=
  ((system.scheduler? id).map notices).getD []

def milestones (system : System V) (id : SchedulerId) : List Notice :=
  system.noted id Scheduler.milestones

/-- The call is a shutdown that finds its scheduler drained. -/
def isClosing (system : System V) (call : Call) : Bool :=
  call.stage = .checking && (system.scheduler? call.scheduler).any Scheduler.isDrained

end System

namespace Operation

def shutsInside (system : System V) (id : SchedulerId) (operation : Operation V) : Bool :=
  match operation with
  | .worker own => own = id && (operation.demand? system).any (Demand.shutsDown system id)
  | _ => false

/-- The call under way that moves in an operation: a worker in the middle of a task moves the call that
it waits for. -/
def call? (system : System V) : Operation V → Option Call
  | .call position => system.calls[position]?
  | .worker id =>
      match system.hand? id with
      | some (_, .task _ _ _) => (system.callOf? id).bind fun position => system.calls[position]?
      | _ => none
  | _ => none

/-- A shutdown from outside finds the scheduler `id` drained. -/
def shutsOutside (system : System V) (id : SchedulerId) (operation : Operation V) : Bool :=
  (operation.call? system).any fun call => call.scheduler = id && system.isClosing call

/-- The worker of the scheduler `id` comes up or ends a park, if it can. -/
def wakes (system : System V) (id : SchedulerId) : Operation V → Bool
  | .worker own => own = id && (system.scheduler? id).any fun host =>
      !host.worker.isBusy && !host.worker.isLooking
  | _ => false

def looks (system : System V) (id : SchedulerId) : Operation V → Bool
  | .worker own => own = id && (system.scheduler? id).any fun host => host.worker.isLooking
  | _ => false

def milestones (system : System V) (id : SchedulerId) (operation : Operation V) : List Notice :=
  (if operation.wakes system id then system.noted id Scheduler.arrival else []) ++
    (if operation.shutsInside system id then
      system.noted id fun host => host.request (.stopping host.size) else []) ++
    (if operation.shutsOutside system id then
      system.noted id fun host => host.request .shuttingDown else []) ++
    if operation.looks system id then system.noted id fun host => host.farewell system.now else []

end Operation

namespace System

variable {system before after : System V} {id : SchedulerId} {host : Scheduler (Work V)}

theorem noted_of_found (found : system.scheduler? id = some host)
    (notices : Scheduler (Work V) → List Notice) : system.noted id notices = notices host := by
  rw [noted, found]
  rfl

theorem milestones_of_found (found : system.scheduler? id = some host) :
    system.milestones id = host.milestones :=
  noted_of_found found Scheduler.milestones

theorem schedulerAt?_of_label {label : Label} (labelled : system.schedulerLabels[label]? = some id)
    (found : system.scheduler? id = some host) : system.schedulerAt? label = some (id, host) := by
  rw [schedulerAt?, labelled, Option.bind_some, found]
  rfl

section Silent

/-- The scheduler that takes the place of another one has come to these milestones in addition. -/
theorem milestones_putScheduler (found : system.scheduler? id = some host)
    {new : Scheduler (Work V)} {notices : List Notice}
    (gained : new.milestones = host.milestones ++ notices) (other : SchedulerId) :
    (system.putScheduler id new).milestones other =
      system.milestones other ++ if id = other then notices else [] := by
  by_cases own : id = other
  · subst own
    rw [milestones_of_found (scheduler?_putScheduler_self found new), milestones_of_found found,
      gained, if_pos rfl]
  · rw [milestones, noted, scheduler?_putScheduler_of_ne system (Ne.symm own), if_neg own,
      List.append_nil]
    rfl

theorem milestones_put (found : system.scheduler? id = some host) {new : Scheduler (Work V)}
    (same : new.milestones = host.milestones) :
    (system.putScheduler id new).milestones = system.milestones := by
  funext other
  rw [milestones_putScheduler found (same.trans (List.append_nil _).symm), ite_self,
    List.append_nil]

theorem milestones_each (change : SchedulerId → Scheduler (Work V) → Scheduler (Work V))
    (same : ∀ id host, (change id host).milestones = host.milestones)
    (changed : ∀ id, after.scheduler? id = (before.scheduler? id).map (change id)) :
    after.milestones = before.milestones := by
  funext id
  rw [milestones, milestones, noted, noted, changed]
  cases before.scheduler? id with
  | none => rfl
  | some host => exact same id host

@[simp]
theorem milestones_sweep (system : System V) : system.sweep.milestones = system.milestones := by
  refine milestones_each (fun id scheduler =>
    if system.sweepCaches.keepsScheduler id then scheduler else scheduler.halt) ?_ ?_
  · intro id host
    split <;> rfl
  · intro id
    rw [sweep, scheduler?_sweepSchedulers]
    rfl

@[simp]
theorem milestones_cancelToken (system : System V) (label : Label) :
    (system.cancelToken label).milestones = system.milestones := by
  refine milestones_each (fun _ scheduler =>
    if scheduler.settings.token = .named label then scheduler.halt else scheduler) ?_ ?_
  · intro id host
    split <;> rfl
  · intro id
    simp [scheduler?, cancelToken]

@[simp]
theorem milestones_createScheduler (system : System V) (settings : Settings) :
    (system.createScheduler settings).2.milestones = system.milestones := by
  funext id
  simp only [milestones, noted, scheduler?, createScheduler, Array.getElem?_push]
  split
  · rename_i new
    rw [new, Array.getElem?_eq_none (Nat.le_refl _)]
    rfl
  · rfl

theorem milestones_submit? {filled : System V} {due : Int} {work : Work V} {task : TaskId}
    (accepted : system.submit? id due work = some (task, filled)) :
    filled.milestones = system.milestones := by
  obtain ⟨host, found, accepted⟩ := Option.bind_eq_some_iff.1 accepted
  obtain ⟨_, taken, same⟩ := Option.map_eq_some_iff.1 accepted
  cases same
  exact milestones_put found (Scheduler.milestones_submit? taken)

@[simp]
theorem milestones_cancelTask (system : System V) (id : SchedulerId) (task : TaskId) :
    (system.cancelTask id task).2.milestones = system.milestones := by
  unfold cancelTask
  split
  · rfl
  · rename_i host found
    exact milestones_put found (Scheduler.milestones_cancel host task)

theorem milestones_book {locked : System V} {cacheId : CacheId} {cache : Cache V} {key : String}
    {access : Access V} {booking : Booking V}
    (booked : system.book cacheId cache key access = .ok (booking, locked)) :
    locked.milestones = system.milestones := by
  obtain ⟨_, _, _, rfl⟩ := eq_of_book booked
  rfl

@[simp]
theorem milestones_replace (system : System V) (booking : Booking V) (cache : Cache V) (value : V)
    (deletion : TaskId) (deadline : Int) :
    (system.replace booking cache value deletion deadline).2.milestones = system.milestones := by
  unfold replace
  dsimp only
  split
  · rfl
  · exact milestones_cancelTask _ _ _

@[simp]
theorem milestones_fulfil (system : System V) (booking : Booking V) (cache : Cache V)
    (deletion : TaskId) (deadline : Int) :
    (system.fulfil booking cache deletion deadline).2.milestones = system.milestones := by
  unfold fulfil
  split
  · split
    · rfl
    · exact milestones_cancelTask _ _ _
  · exact milestones_replace _ _ _ _ _ _
  · exact milestones_replace _ _ _ _ _ _

@[simp]
theorem milestones_resolve (system : System V) (booking : Booking V) :
    (system.resolve booking).2.milestones = system.milestones := by
  unfold resolve
  split
  · rfl
  · rfl
  · split
    · rfl
    · split
      · unfold decline
        split <;> rfl
      · rename_i accepted
        exact (milestones_fulfil _ _ _ _ _).trans (milestones_submit? accepted)

@[simp]
theorem milestones_confirm (system : System V) (booking : Booking V) :
    (system.confirm booking).2.milestones = system.milestones :=
  (milestones_sweep _).trans (milestones_resolve system booking)

@[simp]
theorem milestones_delete (system : System V) (cacheId : CacheId) (cache : Cache V) (key : String) :
    (system.delete cacheId cache key).2.milestones = system.milestones := by
  unfold delete
  split
  · rfl
  · exact milestones_cancelTask _ _ _

@[simp]
theorem milestones_submit (system : System V) (scheduler handle : Label) (due : Due)
    (script : Script V) :
    (system.submit scheduler handle due script).2.milestones = system.milestones := by
  unfold submit
  split
  · rfl
  · split
    · rfl
    · split
      · rfl
      · rename_i accepted
        have filled := milestones_submit? accepted
        exact filled

@[simp]
theorem milestones_cancel (system : System V) (scheduler handle : Label) :
    (system.cancel scheduler handle).2.milestones = system.milestones := by
  unfold cancel
  split
  · rfl
  · rfl
  · rename_i located _
    split
    · exact milestones_cancelTask _ _ _
    · exact milestones_put (scheduler?_of_schedulerAt? located) (Scheduler.milestones_disown _ _)

@[simp]
theorem milestones_labelScheduler (system : System V) (label : Label) (id : SchedulerId) :
    (system.labelScheduler label id).milestones = system.milestones :=
  milestones_sweep _

@[simp]
theorem milestones_labelNewCache (system : System V) (label : Label) (id : SchedulerId) :
    (system.labelNewCache label id).milestones = system.milestones :=
  milestones_sweep _

@[simp]
theorem milestones_createCacheOn (system : System V) (label scheduler : Label) :
    (system.createCacheOn label scheduler).2.milestones = system.milestones := by
  unfold createCacheOn
  split
  · rfl
  · exact milestones_labelNewCache _ _ _

@[simp]
theorem milestones_schedulerOf (system : System V) (cache scheduler : Label) :
    (system.schedulerOf cache scheduler).2.milestones = system.milestones := by
  unfold schedulerOf
  split
  · rfl
  · exact milestones_labelScheduler _ _ _

theorem milestones_access? {label : Label} {key : String} {access : Access V} {reply : Reply V}
    (answered : system.access? label key access = some (reply, after)) :
    after.milestones = system.milestones := by
  unfold access? at answered
  split at answered
  · cases answered
    rfl
  · split at answered
    · split at answered
      · cases answered
        rfl
      · rename_i booked
        cases answered
        exact (milestones_confirm _ _).trans (milestones_book booked)
    · cases answered

theorem milestones_delete? {label : Label} {key : String} {reply : Reply V}
    (answered : system.delete? label key = some (reply, after)) :
    after.milestones = system.milestones := by
  unfold delete? at answered
  split at answered
  · cases answered
    rfl
  · split at answered
    · rw [← snd_eq_of_some answered]
      exact milestones_delete _ _ _ _
    · cases answered

theorem milestones_silent (same : after.milestones = before.milestones) (id : SchedulerId) :
    after.milestones id = before.milestones id ++ [] := by
  rw [same, List.append_nil]

/-- A request is no milestone of any scheduler. -/
theorem milestones_answer? {request : Request V} {reply : Reply V}
    (answered : system.answer? request = some (reply, after)) :
    after.milestones = system.milestones := by
  cases request with
  | create label settings =>
      cases answered
      exact (milestones_labelScheduler _ _ _).trans (milestones_createScheduler system settings)
  | createCacheAlone label settings =>
      cases answered
      exact (milestones_labelNewCache _ _ _).trans (milestones_createScheduler system settings)
  | cancel scheduler handle =>
      rw [← snd_eq_of_some answered]
      exact milestones_cancel _ _ _
  | cancelToken token =>
      cases answered
      exact milestones_cancelToken _ _
  | createCacheOn label scheduler =>
      rw [← snd_eq_of_some answered]
      exact milestones_createCacheOn _ _ _
  | schedulerOf cache scheduler =>
      rw [← snd_eq_of_some answered]
      exact milestones_schedulerOf _ _ _
  | access label key access => exact milestones_access? answered
  | delete label key => exact milestones_delete? answered
  | consult label query =>
      obtain ⟨_, _, equal⟩ := Option.map_eq_some_iff.1 answered
      cases equal
      rfl
  | _ =>
      cases answered
      rfl

end Silent

section Calls

@[simp]
theorem milestones_returnTo (system : System V) (caller : Caller) :
    (system.returnTo caller).milestones = system.milestones := by
  cases caller <;> rfl

@[simp]
theorem milestones_leave (system : System V) (caller : Caller) (id : SchedulerId) :
    (system.leave caller id).milestones = system.milestones := by
  unfold leave
  split
  · exact milestones_returnTo _ _
  · split
    · exact milestones_returnTo _ _
    · rename_i host found
      unfold awaitExit
      split
      · exact milestones_returnTo _ _
      · exact milestones_put found (Scheduler.milestones_join host)

@[simp]
theorem milestones_endCall (system : System V) (position : Nat) (call : Call) :
    (system.endCall position call).milestones = system.milestones :=
  (milestones_returnTo _ _).trans (milestones_sweep _)

/-- Of all calls that may have to wait only the shutdown by a task of the scheduler itself is a
milestone at once. -/
theorem milestones_part? {caller : Caller} {parting : Parting}
    (begun : system.part? caller parting = .ok after) (id : SchedulerId) :
    after.milestones id = system.milestones id ++
      if caller.isWorkerOf id && (Demand.part parting).shutsDown system id then
        system.noted id fun host => host.request (.stopping host.size) else [] := by
  cases parting with
  | shutdown label =>
      simp only [part?] at begun
      split at begun <;> cases begun
      rename_i own target located
      have found := scheduler?_of_schedulerAt? located
      simp only [Demand.shutsDown, label_of_schedulerAt? located, Option.some.injEq]
      unfold shutdown
      split
      · rename_i inside
        rw [milestones_returnTo, milestones_putScheduler found (Scheduler.milestones_stopInside target)]
        by_cases same : own = id
        · subst same
          simp [inside, noted_of_found found]
        · simp [same]
      · rename_i outside
        rw [if_neg]
        · exact (List.append_nil _).symm
        · intro both
          obtain ⟨inside, same⟩ := Bool.and_eq_true_iff.1 both
          exact outside (of_decide_eq_true same ▸ inside)
  | release label =>
      simp only [part?] at begun
      split at begun <;> cases begun
      simp only [Demand.shutsDown, Bool.and_false]
      exact milestones_silent ((milestones_leave _ _ _).trans (milestones_sweep _)) id
  | releaseCache label =>
      simp only [part?] at begun
      split at begun <;> cases begun
      simp only [Demand.shutsDown, Bool.and_false]
      refine milestones_silent ?_ id
      unfold releaseCache
      dsimp only
      split
      · exact (milestones_returnTo _ _).trans (milestones_sweep _)
      · exact (milestones_leave _ _ _).trans (milestones_sweep _)

theorem milestones_moveCall? {position : Nat} (move : system.moveCall? position = some after)
    (id : SchedulerId) : after.milestones id = system.milestones id ++
      if (system.calls[position]?).any fun call => call.scheduler = id && system.isClosing call then
        system.noted id fun host => host.request .shuttingDown else [] := by
  obtain ⟨call, listed, onTarget⟩ := Option.bind_eq_some_iff.1 move
  obtain ⟨host, target, taken⟩ := Option.bind_eq_some_iff.1 onTarget
  simp only [listed, Option.any_some, isClosing, target]
  split at taken
  · rename_i checking
    simp only [checking, decide_true, Bool.true_and]
    split at taken
    · rename_i drained
      have closed {new : Scheduler (Work V)} (same : new.milestones = host.close.milestones)
          (rest : after.milestones = (system.putScheduler call.scheduler new).milestones) :
          after.milestones id = system.milestones id ++
            if decide (call.scheduler = id) && host.isDrained then
              system.noted id fun host => host.request .shuttingDown else [] := by
        rw [rest, milestones_putScheduler target (same.trans (Scheduler.milestones_close host))]
        by_cases own : call.scheduler = id
        · subst own
          simp [drained, noted_of_found target]
        · simp [own]
      dsimp only at taken
      split at taken <;> cases taken
      · exact closed rfl (milestones_endCall _ _ _)
      · exact closed (Scheduler.milestones_join _) rfl
    · rename_i filled
      cases taken
      rw [if_neg (by simp [filled])]
      exact milestones_silent rfl id
  · rename_i parked
    split at taken <;> cases taken
    rw [if_neg (by simp [parked])]
    exact milestones_silent rfl id
  · rename_i joining
    split at taken <;> cases taken
    rw [if_neg (by simp [joining])]
    exact milestones_silent (milestones_endCall _ _ _) id

end Calls

section Workers

theorem milestones_moveLooking (found : system.scheduler? id = some host) (other : SchedulerId) :
    (system.moveLooking id host).milestones other =
      system.milestones other ++ if id = other then host.farewell system.now else [] := by
  have looked := milestones_putScheduler found (Scheduler.milestones_look host system.now) other
  unfold moveLooking
  dsimp only
  split <;> exact looked

theorem milestones_wake? (found : system.scheduler? id = some host)
    (move : (host.wake? system.now).map (system.putScheduler id) = some after)
    (other : SchedulerId) : after.milestones other =
      system.milestones other ++ if id = other then host.arrival else [] := by
  obtain ⟨new, woke, rfl⟩ := Option.map_eq_some_iff.1 move
  exact milestones_putScheduler found (Scheduler.wakes_of_wake? woke).milestones other

theorem milestones_finishTask (found : system.scheduler? id = some host) :
    (system.finishTask id host).milestones = system.milestones :=
  milestones_put found (Scheduler.milestones_finish host)

theorem milestones_failTask (found : system.scheduler? id = some host) (task : TaskId)
    (message : String) : (system.failTask id host task message).milestones = system.milestones := by
  have failed : (system.finishTask id (host.fail task message)).milestones = system.milestones :=
    milestones_put found ((Scheduler.milestones_finish _).trans (Scheduler.milestones_fail host _ _))
  unfold failTask
  dsimp only
  split <;> exact failed

theorem milestones_proceedTask (found : system.scheduler? id = some host) (task : TaskId)
    (label handle : Label) (rest : Script V) :
    (system.proceedTask id host task label handle rest).milestones = system.milestones :=
  milestones_put found (Scheduler.milestones_proceed host _ _)

theorem milestones_moveDeletion? (found : system.scheduler? id = some host) {cacheId : CacheId}
    {key : String} {generation : Nat}
    (move : system.moveDeletion? id host cacheId key generation = some after) :
    after.milestones = system.milestones := by
  unfold moveDeletion? at move
  split at move
  · cases move
    exact milestones_finishTask found
  · split at move
    · cases move
      exact milestones_finishTask found
    · split at move <;> cases move
      refine (milestones_sweep _).trans (milestones_finishTask ?_)
      exact found

@[simp]
theorem milestones_reportAnswer (label handle : Label) (answer : Reply V × System V) :
    (reportAnswer label handle answer).milestones = answer.2.milestones := rfl

/-- A step of a task is a milestone if it shuts its own scheduler down. -/
theorem milestones_moveTask? (found : system.scheduler? id = some host) {task : TaskId}
    {label handle : Label} {script : Script V}
    (move : system.moveTask? id host task label handle script = some after)
    (other : SchedulerId) : after.milestones other = system.milestones other ++
      if id = other && script.demand?.any (Demand.shutsDown system other) then
        system.noted other fun host => host.request (.stopping host.size) else [] := by
  have proceeds (rest : Script V) := milestones_proceedTask found task label handle rest
  cases script with
  | done =>
      cases move
      simpa [Script.demand?] using congrFun (milestones_finishTask found) other
  | panic payload =>
      cases move
      simpa [Script.demand?] using congrFun (milestones_failTask found _ _) other
  | wait gate rest =>
      obtain ⟨_, same⟩ := Option.ite_none_right_eq_some.1 move
      cases same
      simpa [Script.demand?] using congrFun (proceeds rest) other
  | threadName rest =>
      cases move
      simpa [Script.demand?] using congrFun (proceeds rest) other
  | submit target name due act rest =>
      cases move
      simpa [Script.demand?, Demand.shutsDown] using
        congrFun ((milestones_submit _ target name due act).trans (proceeds rest)) other
  | request asked rest =>
      obtain ⟨⟨reply, answered⟩, answer, same⟩ := Option.map_eq_some_iff.1 move
      cases same
      have outside : (Demand.request asked).shutsDown system other = false := rfl
      rw [milestones_reportAnswer, milestones_answer? answer, proceeds, Script.demand?,
        Option.any_some, outside, Bool.and_false, if_neg Bool.false_ne_true, List.append_nil]
  | part parting rest =>
      have still := scheduler?_putScheduler_self found (host.proceed task (.task label handle rest))
      rw [Script.demand?, Option.any_some]
      simp only [moveTask?] at move
      split at move <;> cases move
      · rename_i reply refused
        rw [if_neg]
        · exact milestones_silent (proceeds rest) other
        · intro both
          obtain ⟨own, named⟩ := Bool.and_eq_true_iff.1 both
          obtain rfl : id = other := of_decide_eq_true own
          cases parting with
          | shutdown target =>
              have labelled : (system.proceedTask id host task label handle rest).schedulerAt? target =
                  some (id, host.proceed task (.task label handle rest)) :=
                schedulerAt?_of_label (of_decide_eq_true named) still
              simp only [part?, labelled, reduceCtorEq] at refused
          | _ => cases named
      · rename_i begun
        have told := milestones_part? begun other
        rw [proceeds] at told
        refine told.trans ?_
        by_cases own : id = other
        · subst own
          rw [noted_of_found found, proceedTask, noted_of_found still]
          rfl
        · simp [own, Caller.isWorkerOf]

theorem looks_of_found (found : system.scheduler? id = some host) (other : SchedulerId) :
    (Operation.worker id).looks system other = (decide (id = other) && host.worker.isLooking) := by
  rw [Operation.looks]
  by_cases own : id = other
  · subst own
    rw [found, Option.any_some]
  · rw [decide_eq_false own, Bool.false_and, Bool.false_and]

theorem wakes_of_found (found : system.scheduler? id = some host) (other : SchedulerId) :
    (Operation.worker id).wakes system other =
      (decide (id = other) && (!host.worker.isBusy && !host.worker.isLooking)) := by
  rw [Operation.wakes]
  by_cases own : id = other
  · subst own
    rw [found, Option.any_some]
  · rw [decide_eq_false own, Bool.false_and, Bool.false_and]

theorem milestones_of_idle (found : system.scheduler? id = some host)
    (idle : ∀ {task label handle script},
      host.worker ≠ .busy task (.task label handle script)) (other : SchedulerId) :
    (Operation.worker id).milestones system other =
      (if id = other && (!host.worker.isBusy && !host.worker.isLooking) then
        system.noted other Scheduler.arrival else []) ++
      if id = other && host.worker.isLooking then
        system.noted other fun host => host.farewell system.now else [] := by
  have held := hand?_of_found found
  have unscripted : system.script? id = none := by
    rw [Option.eq_none_iff_forall_ne_some]
    intro script scripted
    obtain ⟨_, task, label, handle, same⟩ := script?_eq_some_iff.1 scripted
    exact idle (Worker.hand?_eq_some_iff.1 (held.symm.trans same))
  have uncalled : (Operation.worker id).call? system = none := by
    rw [Operation.call?]
    split
    · rename_i same
      exact absurd (Worker.hand?_eq_some_iff.1 (held.symm.trans same)) idle
    · rfl
  simp [Operation.milestones, Operation.shutsInside, Operation.shutsOutside, Operation.demand?,
    unscripted, uncalled, wakes_of_found found, looks_of_found found]

/-- A worker that waits for a call of its own does what the call does. -/
theorem milestones_of_waiting (found : system.scheduler? id = some host) {task : TaskId}
    {label handle : Label} {script : Script V}
    (busy : host.worker = .busy task (.task label handle script)) {position : Nat}
    (waits : system.callOf? id = some position) (other : SchedulerId) :
    (Operation.worker id).milestones system other =
      if (system.calls[position]?).any fun call => call.scheduler = other && system.isClosing call then
        system.noted other fun host => host.request .shuttingDown else [] := by
  have held := hand?_of_found found
  rw [busy] at held
  have unscripted : system.script? id = none := by
    rw [script?, waits]
  have called : (Operation.worker id).call? system = system.calls[position]? := by
    rw [Operation.call?, held]
    exact congrArg (Option.bind · fun position => system.calls[position]?) waits
  simp [Operation.milestones, Operation.shutsInside, Operation.shutsOutside, Operation.demand?,
    unscripted, called, wakes_of_found found, looks_of_found found, busy, Worker.isLooking,
    Worker.isBusy]

theorem milestones_of_free (found : system.scheduler? id = some host) {task : TaskId}
    {label handle : Label} {script : Script V}
    (busy : host.worker = .busy task (.task label handle script))
    (free : system.callOf? id = none) (other : SchedulerId) :
    (Operation.worker id).milestones system other =
      if id = other && script.demand?.any (Demand.shutsDown system other) then
        system.noted other fun host => host.request (.stopping host.size) else [] := by
  have held := hand?_of_found found
  rw [busy] at held
  have scripted : system.script? id = some script :=
    script?_eq_some_iff.2 ⟨free, task, label, handle, held⟩
  have uncalled : (Operation.worker id).call? system = none := by
    rw [Operation.call?, held]
    exact congrArg (Option.bind · fun position => system.calls[position]?) free
  simp [Operation.milestones, Operation.shutsInside, Operation.shutsOutside, Operation.demand?,
    scripted, uncalled, wakes_of_found found, looks_of_found found, busy, Worker.isLooking,
    Worker.isBusy]

/-- What a worker does is a milestone if it is one in the course of a task, the start or the exit. -/
theorem milestones_moveWorker? (move : system.moveWorker? id = some after) (other : SchedulerId) :
    after.milestones other =
      system.milestones other ++ (Operation.worker id).milestones system other := by
  obtain ⟨host, found, taken⟩ := Option.bind_eq_some_iff.1 move
  split at taken
  · rename_i looking
    cases taken
    rw [milestones_moveLooking found, milestones_of_idle found (by rw [looking]; nofun), looking]
    by_cases own : id = other
    · subst own
      simp [noted_of_found found, Worker.isLooking]
    · simp [own]
  · rename_i task label handle script busy
    split at taken
    · rename_i position waits
      rw [milestones_of_waiting found busy waits, milestones_moveCall? taken]
    · rename_i free
      rw [milestones_of_free found busy free, milestones_moveTask? found taken]
  · rename_i busy
    rw [milestones_of_idle found (by rw [busy]; nofun), milestones_moveDeletion? found taken, busy]
    simp [Worker.isBusy, Worker.isLooking]
  · obtain ⟨woken, woke, _⟩ := Option.map_eq_some_iff.1 taken
    have wakes := Scheduler.wakes_of_wake? woke
    have blind : host.worker.isLooking = false := by
      rcases wakes.dormant with worker | worker | ⟨due, worker⟩ <;> rw [worker] <;> rfl
    rw [milestones_of_idle found wakes.ne_busy, milestones_wake? found taken, wakes.isBusy, blind]
    by_cases own : id = other
    · subst own
      simp [noted_of_found found]
    · simp [own]

end Workers

/-- A call from outside is no milestone: a shutdown that it begins has still to be checked. -/
theorem milestones_perform (system : System V) (deed : Session.Deed V) :
    (Session.perform system deed).2.milestones = system.milestones := by
  cases deed with
  | submit scheduler handle due script => exact milestones_submit _ _ _ _ _
  | request asked =>
      cases answer : system.answer? asked with
      | none =>
          rw [Session.perform, answer]
          rfl
      | some answered =>
          rw [Session.perform, answer]
          exact milestones_answer? answer
  | part parting helper =>
      unfold Session.perform
      dsimp only
      split
      · rfl
      · rename_i begun
        funext other
        rw [milestones_part? begun]
        exact List.append_nil _

/-- The milestones of a scheduler grow by those that it comes to in the operation. -/
theorem Does.milestones {operation : Operation V} (does : before.Does operation after)
    (id : SchedulerId) :
    after.milestones id = before.milestones id ++ operation.milestones before id := by
  cases does with
  | deed deed => exact milestones_silent (milestones_perform before deed) id
  | book _ _ booked => exact milestones_silent (milestones_book booked) id
  | confirm _ => exact milestones_silent (milestones_confirm _ _) id
  | worker move => exact milestones_moveWorker? move id
  | @call _ position move =>
      have noted : (Operation.call position : Operation V).milestones before id = [] ++ [] ++
          (if (before.calls[position]?).any fun call => call.scheduler = id && before.isClosing call
            then before.noted id fun host => host.request .shuttingDown else []) ++ [] := rfl
      rw [milestones_moveCall? move, noted, List.append_nil, List.append_nil, List.nil_append]
  | pass _ => exact milestones_silent rfl id

end System

end Agenda
