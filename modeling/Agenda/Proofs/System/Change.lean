import Agenda.Proofs.Scheduler.Soundness
import Agenda.Proofs.System.Booking
import Agenda.Proofs.System.Keeping
import Agenda.System.Moves
import Mathlib.Data.List.Perm.Basic
import Mathlib.Logic.Relation

/-!
# What changes a system

While the clock stands still a system changes in a few ways only: a `Change` is one of them, and
every operation on systems is a chain of changes.  What all changes keep is thus kept by everything
that is done to a system.
-/

namespace Agenda

universe u

variable {V : Type u}

theorem map_set_of_eq {α β : Type*} {list : List α} {index : Nat} {old : α}
    (found : list[index]? = some old) (new : α) (image : α → β) (same : image old = image new) :
    (list.set index new).map image = list.map image := by
  have kept : (list.map image)[index]? = some (image new) := by
    rw [List.getElem?_map, found, ← same]
    rfl
  obtain ⟨_, kept⟩ := List.getElem?_eq_some_iff.1 kept
  rw [List.map_set, ← kept, List.set_getElem_self]

def Caller.label? : Caller → Option Label
  | .helper label => some label
  | .worker _ _ _ => none

def Call.asked (call : Call) : Call := { call with stage := .checking }

/-- What a shutdown at this stage has seen of its scheduler: a parked one has not seen the signal
that is given when the scheduler is drained, and one that waits for the exit has stopped it. -/
def Stage.Fits (scheduler : Scheduler (Work V)) : Stage → Prop
  | .checking => True
  | .parked drains => drains ≤ scheduler.drains ∧ (scheduler.isDrained = true → drains < scheduler.drains)
  | .joining => scheduler.joined = true ∧ scheduler.isDrained = true ∧ scheduler.stopped = true

/-- A call that is no shutdown waits for the exit of a halted worker. -/
structure Call.Fits (scheduler : Scheduler (Work V)) (call : Call) : Prop where
  shutdown : call.owner = true → call.stage.Fits scheduler
  release : call.owner = false → call.stage = .joining ∧ scheduler.halted = true

namespace System

/-- What is done to the scheduler `id`, other than for a cache. -/
inductive Affair (system : System V) (id : SchedulerId) (old : Scheduler (Work V)) :
    Scheduler (Work V) → Prop where
  | mark {new : Scheduler (Work V)} :
      old.Step system.now [] new → new.queue = old.queue → new.roster = old.roster →
      new.worker = old.worker → Affair system id old new
  | look : old.worker = .looking → Affair system id old (old.look system.now)
  | wake {new : Scheduler (Work V)} :
      old.wake? system.now = some new → Affair system id old new
  | proceed {task : TaskId} {label handle : Label} {script : Script V} (rest : Script V) :
      old.worker = .busy task (.task label handle script) →
      Affair system id old (old.proceed task (.task label handle rest))
  /-- A deletion that ends like this has found no cache to delete from. -/
  | finish {task : TaskId} {work : Work V} :
      old.worker = .busy task work →
      (∀ {cacheId cache}, work.cache? = some cacheId → system.cache? cacheId = some cache →
        cache.dropped = true) → Affair system id old old.finish
  | submit {due : Int} {label handle : Label} {script : Script V} {task : TaskId}
      {new : Scheduler (Work V)} :
      old.submit? due (.task label handle script) = some (task, new) → Affair system id old new
  | cancel {label : Label} {handle : Handle} :
      system.handles[label]? = some handle → handle.scheduler = id →
      Affair system id old (old.cancel handle.id).2

def Enqueued (system : System V) (handle : Handle) : Prop :=
  ∃ scheduler entry, system.scheduler? handle.scheduler = some scheduler ∧
    entry ∈ scheduler.queue.toList ∧ entry.id = handle.id ∧ entry.work.cache? = none

/-- From the first system to the second the calls `begun` come in and the calls `ended` return.
Helpers are told by their labels, and workers by the event that answers the step of their task. -/
structure Tells (before after : System V) (begun ended : List Call) (told : List Label)
    (known : List (Event V)) : Prop where
  calls : (before.calls.map Call.asked ++ begun).Perm (ended ++ after.calls.map Call.asked)
  returned : after.returned.toList = before.returned.toList ++ told
  labels : (ended.filterMap fun call => call.caller.label?).Sublist told
  events : after.events.toList = before.events.toList ++ known
  answers : ∀ {call id scheduler handle}, call ∈ ended →
    call.caller = .worker id scheduler handle → .answered scheduler handle .ok ∈ known

/-- No call gets lost: those that are not under way any more have returned. -/
def Informs (before after : System V) : Prop :=
  ∃ begun ended told known, Tells before after begun ended told known

namespace Informs

theorem of_eq {before after : System V} (calls : after.calls = before.calls)
    (returned : after.returned = before.returned) (events : after.events = before.events) :
    Informs before after := by
  refine ⟨[], [], [], [], ?_, ?_, List.Sublist.refl _, ?_, nofun⟩
  · rw [calls, List.append_nil, List.nil_append]
  · rw [returned, List.append_nil]
  · rw [events, List.append_nil]

theorem trans {first second third : System V} (before : Informs first second)
    (after : Informs second third) : Informs first third := by
  obtain ⟨begun, ended, told, known, tells⟩ := before
  obtain ⟨later, finished, more, further, next⟩ := after
  refine ⟨begun ++ later, ended ++ finished, told ++ more, known ++ further, ?_, ?_, ?_, ?_, ?_⟩
  · calc first.calls.map Call.asked ++ (begun ++ later)
        = (first.calls.map Call.asked ++ begun) ++ later := (List.append_assoc ..).symm
      _ |>.Perm ((ended ++ second.calls.map Call.asked) ++ later) := tells.calls.append_right _
      _ = ended ++ (second.calls.map Call.asked ++ later) := List.append_assoc ..
      _ |>.Perm (ended ++ (finished ++ third.calls.map Call.asked)) := next.calls.append_left _
      _ = (ended ++ finished) ++ third.calls.map Call.asked := (List.append_assoc ..).symm
  · rw [next.returned, tells.returned, List.append_assoc]
  · rw [List.filterMap_append]
    exact tells.labels.append next.labels
  · rw [next.events, tells.events, List.append_assoc]
  · intro call id scheduler handle listed own
    rcases List.mem_append.1 listed with early | late
    · exact List.mem_append_left _ (tells.answers early own)
    · exact List.mem_append_right _ (next.answers late own)

theorem of_report (system : System V) (event : Event V) : Informs system (system.report event) := by
  refine ⟨[], [], [], [event], ?_, ?_, List.Sublist.refl _, Array.toList_push, nofun⟩
  · rw [List.append_nil]
    rfl
  · exact (List.append_nil _).symm

theorem of_returnTo (system : System V) (caller : Caller) :
    Informs system (system.returnTo caller) := by
  cases caller with
  | helper label =>
      refine ⟨[], [], [label], [], ?_, Array.toList_push, List.nil_sublist _, ?_, nofun⟩
      · rw [List.append_nil]
        rfl
      · exact (List.append_nil _).symm
  | worker id scheduler handle => exact of_report system _

theorem of_return {system : System V} {position : Nat} {call : Call}
    (found : system.calls[position]? = some call) :
    Informs system
      (({ system with calls := system.calls.eraseIdx position } : System V).returnTo
        call.caller) := by
  obtain ⟨inside, same⟩ := List.getElem?_eq_some_iff.1 found
  have erased : (system.calls.map Call.asked).Perm
      (call.asked :: (system.calls.eraseIdx position).map Call.asked) := by
    rw [← List.map_cons, ← same]
    exact (List.getElem_cons_eraseIdx_perm inside).symm.map Call.asked
  cases told : call.caller with
  | helper label =>
      refine ⟨[], [call.asked], [label], [], ?_, Array.toList_push, ?_, ?_, ?_⟩
      · rw [List.append_nil]
        exact erased
      · have asks : call.asked.caller.label? = some label := congrArg Caller.label? told
        rw [List.filterMap_cons, asks]
        exact List.Sublist.refl _
      · exact (List.append_nil _).symm
      · intro other id scheduler handle listed own
        rw [List.mem_singleton.1 listed] at own
        cases told.symm.trans own
  | worker id scheduler handle =>
      refine ⟨[], [call.asked], [], [.answered scheduler handle .ok], ?_, ?_, ?_,
        Array.toList_push, ?_⟩
      · rw [List.append_nil]
        exact erased
      · exact (List.append_nil _).symm
      · have asks : call.asked.caller.label? = none := congrArg Caller.label? told
        rw [List.filterMap_cons, asks]
        exact List.Sublist.refl _
      · intro other third target name listed own
        rw [List.mem_singleton.1 listed] at own
        cases told.symm.trans own
        exact List.mem_singleton_self _

end Informs

/-- Only what labels refer to, what is cancelled, open or known, and the calls that end differ. -/
structure Aside (before after : System V) : Prop where
  now : after.now = before.now
  schedulers : after.schedulers = before.schedulers
  caches : after.caches = before.caches
  bookings : after.bookings = before.bookings
  handles : after.handles = before.handles
  calls : after.calls.Sublist before.calls
  informs : Informs before after
  /-- Whoever was set up with a cancelled token has been halted. -/
  tokens : ∀ {label}, label ∈ after.cancelledTokens → label ∈ before.cancelledTokens ∨
    ∀ {id scheduler}, before.scheduler? id = some scheduler →
      scheduler.settings.token = .named label → scheduler.halted = true

inductive Change : System V → System V → Prop where
  | aside {before after : System V} : Aside before after → Change before after
  | halt {system : System V} {schedulers : Array (Scheduler (Work V))}
      (change : SchedulerId → Scheduler (Work V) → Scheduler (Work V)) :
      (∀ id scheduler, change id scheduler = scheduler ∨ change id scheduler = scheduler.halt) →
      (∀ id, ({ system with schedulers } : System V).scheduler? id
        = (system.scheduler? id).map (change id)) →
      Change system { system with schedulers }
  | drop {system : System V} {caches : Array (Cache V)} (change : CacheId → Cache V → Cache V) :
      (∀ id cache, change id cache = cache ∨ change id cache = cache.drop) →
      (∀ id, ({ system with caches } : System V).cache? id
        = (system.cache? id).map (change id)) →
      Change system { system with caches }
  | create (system : System V) (settings : Settings) :
      Change system (system.createScheduler settings).2
  | createCache {system : System V} {host : SchedulerId} {scheduler : Scheduler (Work V)} :
      system.scheduler? host = some scheduler → Change system (system.createCache host).2
  | put {system : System V} {id : SchedulerId} {old new : Scheduler (Work V)} :
      system.scheduler? id = some old → Affair system id old new →
      Change system (system.putScheduler id new)
  | hold {system : System V} (label : Label) {handle : Handle} :
      system.Enqueued handle →
      Change system { system with handles := system.handles.insert label handle }
  | book {system locked : System V} {id : CacheId} {cache : Cache V} {key : String}
      {access : Access V} {booking : Booking V} :
      system.cache? id = some cache → system.isAccessible id key access = true →
      system.book id cache key access = .ok (booking, locked) → Change system locked
  | confirm {system : System V} {booking : Booking V} :
      booking ∈ system.bookings → Change system ((system.resolve booking).2.unlock booking)
  | delete {system : System V} {id : CacheId} {cache : Cache V} (key : String) :
      system.cache? id = some cache → system.isUnlocked id = true →
      Change system (system.delete id cache key).2
  | expire {system : System V} {id : SchedulerId} {scheduler : Scheduler (Work V)}
      {task : TaskId} {cacheId : CacheId} {cache : Cache V} {key : String} {generation : Nat} :
      system.scheduler? id = some scheduler →
      scheduler.worker = .busy task (.deletion cacheId key generation) →
      system.cache? cacheId = some cache → cache.dropped = false →
      system.isUnlocked cacheId = true →
      Change system
        ((system.putCache cacheId (cache.expire key generation)).finishTask id scheduler)
  | call {system : System V} {call : Call} {scheduler : Scheduler (Work V)} :
      system.scheduler? call.scheduler = some scheduler → call.Fits scheduler →
      Change system { system with calls := system.calls ++ [call] }
  /-- Who waits for the exit of a worker goes on waiting. -/
  | stage {system : System V} {position : Nat} {call : Call} {stage : Stage}
      {scheduler : Scheduler (Work V)} :
      system.calls[position]? = some call → call.stage ≠ .joining →
      system.scheduler? call.scheduler = some scheduler → stage.Fits scheduler →
      Change system (system.setStage position call stage)

def Changes (before after : System V) : Prop := Relation.ReflTransGen Change before after

namespace Changes

theorem refl {system : System V} : Changes system system := Relation.ReflTransGen.refl

theorem single {before after : System V} (change : Change before after) : Changes before after :=
  Relation.ReflTransGen.single change

theorem trans {first second third : System V} (before : Changes first second)
    (after : Changes second third) : Changes first third :=
  Relation.ReflTransGen.trans before after

/-- What every change keeps is kept by a chain of changes. -/
theorem keeps {motive : System V → Prop} {first last : System V} (changes : Changes first last)
    (change : ∀ {before after}, motive before → Change before after → motive after)
    (start : motive first) : motive last := by
  induction changes with
  | refl => exact start
  | tail _ changed inductionHypothesis => exact change inductionHypothesis changed

theorem aside {before after : System V} (now : after.now = before.now)
    (schedulers : after.schedulers = before.schedulers) (caches : after.caches = before.caches)
    (bookings : after.bookings = before.bookings) (handles : after.handles = before.handles)
    (calls : after.calls = before.calls) (returned : after.returned = before.returned)
    (events : after.events = before.events)
    (tokens : after.cancelledTokens = before.cancelledTokens) : Changes before after := by
  refine .single (.aside ⟨now, schedulers, caches, bookings, handles, ?_, ?_, ?_⟩)
  · rw [calls]
  · exact .of_eq calls returned events
  · rw [tokens]
    exact .inl

theorem put {system : System V} {id : SchedulerId} {old new : Scheduler (Work V)}
    (found : system.scheduler? id = some old) (affair : Affair system id old new) :
    Changes system (system.putScheduler id new) :=
  .single (.put found affair)

end Changes

theorem cache?_of_cacheAt? {system : System V} {label : Label} {id : CacheId} {cache : Cache V}
    (found : system.cacheAt? label = some (id, cache)) : system.cache? id = some cache := by
  obtain ⟨_, _, found⟩ := Option.bind_eq_some_iff.1 found
  obtain ⟨_, found, same⟩ := Option.map_eq_some_iff.1 found
  cases same
  exact found

section Operations

variable (system : System V)

theorem changes_report (event : Event V) : Changes system (system.report event) :=
  .single (.aside ⟨rfl, rfl, rfl, rfl, rfl, .refl _, .of_report system event, .inl⟩)

theorem changes_sweepCaches : Changes system system.sweepCaches := by
  refine .single (.drop (fun id cache => if system.keepsCache id then cache else cache.drop) ?_ ?_)
  · intro id cache
    cases system.keepsCache id
    · exact .inr rfl
    · exact .inl rfl
  · intro id
    simp [cache?]

theorem changes_sweepSchedulers : Changes system system.sweepSchedulers := by
  refine .single (.halt (fun id scheduler =>
    if system.keepsScheduler id then scheduler else scheduler.halt) ?_ ?_)
  · intro id scheduler
    cases system.keepsScheduler id
    · exact .inr rfl
    · exact .inl rfl
  · intro id
    simp [scheduler?]

theorem changes_sweep : Changes system system.sweep :=
  (changes_sweepCaches system).trans (changes_sweepSchedulers _)

theorem changes_cancelToken (label : Label) : Changes system (system.cancelToken label) := by
  have halted : Changes system { system with
      schedulers := system.schedulers.map fun scheduler =>
        if scheduler.settings.token = .named label then scheduler.halt else scheduler } := by
    refine .single (.halt (fun _ scheduler =>
      if scheduler.settings.token = .named label then scheduler.halt else scheduler) ?_ ?_)
    · intro id scheduler
      split
      · exact .inr rfl
      · exact .inl rfl
    · intro id
      simp [scheduler?]
  refine halted.trans (.single (.aside ⟨rfl, rfl, rfl, rfl, rfl, .refl _, ?_, ?_⟩))
  · exact .of_eq rfl rfl rfl
  · intro other listed
    rcases List.mem_cons.1 listed with rfl | old
    · refine .inr fun {id scheduler} found own => ?_
      simp only [scheduler?, Array.getElem?_map] at found
      obtain ⟨earlier, _, rfl⟩ := Option.map_eq_some_iff.1 found
      split at own
      · rename_i named
        rw [if_pos named]
        rfl
      · rename_i unnamed
        exact absurd own unnamed
    · exact .inl old

theorem changes_submit (scheduler handle : Label) (due : Due) (script : Script V) :
    Changes system (system.submit scheduler handle due script).2 := by
  unfold submit
  split
  · exact .refl
  · rename_i id target located
    have found := scheduler?_of_schedulerAt? located
    split
    · exact .refl
    · rename_i instant _
      split
      · exact .refl
      · rename_i task filled accepted
        rw [submit?_of_found found] at accepted
        obtain ⟨⟨number, full⟩, taken, same⟩ := Option.map_eq_some_iff.1 accepted
        cases same
        refine .trans (.put found (.submit taken)) (.single (.hold handle ?_))
        obtain ⟨_, rfl, ready, interrupt, journal, rfl⟩ := Scheduler.eq_of_submit? taken
        exact ⟨_, ⟨instant, target.roster.nextId, .task scheduler handle script⟩,
          scheduler?_putScheduler_self found _, Heap.mem_insert_iff.2 (.inl rfl), rfl, rfl⟩

theorem changes_cancel (scheduler handle : Label) :
    Changes system (system.cancel scheduler handle).2 := by
  unfold cancel
  split
  · exact .refl
  · exact .refl
  · rename_i id target held located kept
    have found := scheduler?_of_schedulerAt? located
    split
    · rename_i own
      rw [cancelTask_of_found found]
      exact .put found (.cancel kept own)
    · exact .put found (.mark (.disown _ _) rfl rfl rfl)

theorem changes_labelScheduler (label : Label) (id : SchedulerId) :
    Changes system (system.labelScheduler label id) := by
  refine .trans ?_ (changes_sweep _)
  exact .aside rfl rfl rfl rfl rfl rfl rfl rfl rfl

variable {system}

theorem changes_labelNewCache (label : Label) {host : SchedulerId}
    {scheduler : Scheduler (Work V)} (found : system.scheduler? host = some scheduler) :
    Changes system (system.labelNewCache label host) := by
  refine .trans (.single (.createCache found)) (.trans ?_ (changes_sweep _))
  exact .aside rfl rfl rfl rfl rfl rfl rfl rfl rfl

variable (system)

theorem changes_createCacheOn (label scheduler : Label) :
    Changes system (system.createCacheOn label scheduler).2 := by
  unfold createCacheOn
  split
  · exact .refl
  · rename_i located
    exact changes_labelNewCache label (scheduler?_of_schedulerAt? located)

theorem changes_createCacheAlone (label : Label) (settings : Settings) :
    Changes system (system.createCacheAlone label settings).2 := by
  have started : (system.createScheduler settings).2.scheduler? ⟨system.schedulers.size⟩
      = some (Scheduler.start settings (system.isCancelled settings.token)) :=
    Array.getElem?_push_size
  exact .trans (.single (.create system settings)) (changes_labelNewCache label started)

theorem changes_schedulerOf (cache scheduler : Label) :
    Changes system (system.schedulerOf cache scheduler).2 := by
  unfold schedulerOf
  split
  · exact .refl
  · exact changes_labelScheduler _ _ _

variable {system}

theorem changes_confirm {booking : Booking V} (held : booking ∈ system.bookings) :
    Changes system (system.confirm booking).2 :=
  .trans (.single (.confirm held)) (changes_sweep _)

theorem mem_bookings_of_book {locked : System V} {id : CacheId} {cache : Cache V} {key : String}
    {access : Access V} {booking : Booking V}
    (booked : system.book id cache key access = .ok (booking, locked)) :
    booking ∈ locked.bookings := by
  obtain ⟨_, _, _, rfl⟩ := eq_of_book booked
  exact List.mem_cons_self

theorem changes_access? {after : System V} {label : Label} {key : String} {access : Access V}
    {reply : Reply V} (answered : system.access? label key access = some (reply, after)) :
    Changes system after := by
  unfold access? at answered
  split at answered
  · cases answered
    exact .refl
  · rename_i located
    split at answered
    · rename_i accessible
      split at answered
      · cases answered
        exact .refl
      · rename_i booking _ booked
        cases answered
        refine .trans (.single (.book (cache?_of_cacheAt? located) accessible booked)) ?_
        exact changes_confirm (mem_bookings_of_book booked)
    · cases answered

theorem changes_delete? {after : System V} {label : Label} {key : String} {reply : Reply V}
    (answered : system.delete? label key = some (reply, after)) : Changes system after := by
  unfold delete? at answered
  split at answered
  · cases answered
    exact .refl
  · rename_i located
    split at answered
    · rename_i unlocked
      rw [← snd_eq_of_some answered]
      exact .single (.delete key (cache?_of_cacheAt? located) unlocked)
    · cases answered

theorem changes_answer? {after : System V} {request : Request V} {reply : Reply V}
    (answered : system.answer? request = some (reply, after)) : Changes system after := by
  cases request with
  | create label settings =>
      cases answered
      exact .trans (.single (.create system settings)) (changes_labelScheduler _ _ _)
  | inspect scheduler query =>
      cases answered
      exact .refl
  | cancel scheduler handle =>
      rw [← snd_eq_of_some answered]
      exact changes_cancel _ _ _
  | fateOf handle =>
      cases answered
      exact .refl
  | cancelToken token =>
      cases answered
      exact changes_cancelToken _ _
  | isCancelled token =>
      cases answered
      exact .refl
  | openGate gate =>
      cases answered
      exact .aside rfl rfl rfl rfl rfl rfl rfl rfl rfl
  | createCacheOn label scheduler =>
      rw [← snd_eq_of_some answered]
      exact changes_createCacheOn _ _ _
  | createCacheAlone label settings =>
      rw [← snd_eq_of_some answered]
      exact changes_createCacheAlone _ _ _
  | schedulerOf cache scheduler =>
      rw [← snd_eq_of_some answered]
      exact changes_schedulerOf _ _ _
  | access label key access => exact changes_access? answered
  | delete label key => exact changes_delete? answered
  | consult label query =>
      obtain ⟨_, _, equal⟩ := Option.map_eq_some_iff.1 answered
      cases equal
      exact .refl

end Operations

section Calls

variable (system : System V)

theorem changes_returnTo (caller : Caller) : Changes system (system.returnTo caller) := by
  refine .single (.aside ?_)
  have informs := Informs.of_returnTo system caller
  cases caller <;> exact ⟨rfl, rfl, rfl, rfl, rfl, .refl _, informs, .inl⟩

variable {system}

theorem changes_awaitExit (caller : Caller) {id : SchedulerId} {scheduler : Scheduler (Work V)}
    (found : system.scheduler? id = some scheduler) (halted : scheduler.halted = true) :
    Changes system (system.awaitExit caller id scheduler) := by
  unfold awaitExit
  split
  · exact changes_returnTo _ _
  · have joined : Changes system (system.putScheduler id scheduler.join) :=
      .put found (.mark (.join scheduler) rfl rfl rfl)
    refine joined.trans (.single (.call (scheduler?_putScheduler_self found _) ⟨nofun, ?_⟩))
    exact fun _ => ⟨rfl, halted⟩

variable (system)

/-- Who leaves last finds the scheduler halted. -/
theorem changes_leave_sweep (caller : Caller) (id : SchedulerId) :
    Changes system.sweep (system.sweep.leave caller id) := by
  unfold leave
  split
  · exact changes_returnTo _ _
  · rename_i alone
    split
    · exact changes_returnTo _ _
    · rename_i found
      rw [Bool.or_eq_true, not_or, Bool.not_eq_true] at alone
      exact changes_awaitExit caller found (halted_of_sweep found alone.1)

theorem changes_release (caller : Caller) (label : Label) (id : SchedulerId) :
    Changes system (system.release caller label id) := by
  refine .trans ?_ (changes_leave_sweep _ _ _)
  refine .trans ?_ (changes_sweep _)
  exact .aside rfl rfl rfl rfl rfl rfl rfl rfl rfl

theorem changes_releaseCache (caller : Caller) (label : Label) (id : CacheId)
    (scheduler : SchedulerId) :
    Changes system (system.releaseCache caller label id scheduler) := by
  have swept : Changes system
      { system with cacheLabels := system.cacheLabels.erase label }.sweep := by
    refine .trans ?_ (changes_sweep _)
    exact .aside rfl rfl rfl rfl rfl rfl rfl rfl rfl
  unfold releaseCache
  dsimp only
  split
  · exact swept.trans (changes_returnTo _ _)
  · exact swept.trans (changes_leave_sweep _ _ _)

variable {system}

/-- Only a scheduler that is in the middle of a task can be shut down by its own worker. -/
theorem changes_shutdown {caller : Caller} {id : SchedulerId} {scheduler : Scheduler (Work V)}
    (found : system.scheduler? id = some scheduler)
    (running : caller.isWorkerOf id = true → scheduler.worker.isBusy = true) :
    Changes system (system.shutdown caller id scheduler) := by
  unfold shutdown
  split
  · rename_i own
    have stopped : Changes system (system.putScheduler id scheduler.stopInside) := by
      refine .put found (.mark (.stopInside (running own)) ?_ ?_ ?_) <;>
        · unfold Scheduler.stopInside
          split <;> rfl
    exact stopped.trans (changes_returnTo _ _)
  · exact .single (.call found ⟨fun _ => trivial, nofun⟩)

theorem changes_part? {after : System V} {caller : Caller} {parting : Parting}
    (running : ∀ {id scheduler}, caller.isWorkerOf id = true →
      system.scheduler? id = some scheduler → scheduler.worker.isBusy = true)
    (begun : system.part? caller parting = .ok after) : Changes system after := by
  cases parting with
  | shutdown label =>
      simp only [part?] at begun
      split at begun <;> cases begun
      rename_i located
      have found := scheduler?_of_schedulerAt? located
      exact changes_shutdown found fun own => running own found
  | release label =>
      simp only [part?] at begun
      split at begun <;> cases begun
      exact changes_release _ _ _ _
  | releaseCache label =>
      simp only [part?] at begun
      split at begun <;> cases begun
      exact changes_releaseCache _ _ _ _ _

/-- The caller of a call that ends is told; when it is told makes no difference to what is kept. -/
theorem endCall_eq_sweep (system : System V) (position : Nat) (call : Call) :
    system.endCall position call =
      (({ system with calls := system.calls.eraseIdx position } : System V).returnTo
        call.caller).sweep := by
  unfold endCall
  cases call.caller <;> rfl

theorem changes_endCall {position : Nat} {call : Call}
    (found : system.calls[position]? = some call) :
    Changes system (system.endCall position call) := by
  rw [endCall_eq_sweep]
  refine .trans (.single (.aside ?_)) (changes_sweep _)
  have informs := Informs.of_return found
  have fewer := List.eraseIdx_sublist system.calls position
  cases told : call.caller <;> rw [told] at informs <;>
    exact ⟨rfl, rfl, rfl, rfl, rfl, fewer, informs, .inl⟩

theorem changes_close {id : SchedulerId} {scheduler : Scheduler (Work V)}
    (found : system.scheduler? id = some scheduler) (drained : scheduler.isDrained = true) :
    Changes system (system.putScheduler id scheduler.close) := by
  refine .put found (.mark (.close drained) ?_ ?_ ?_) <;>
    · unfold Scheduler.close
      split <;> rfl

theorem changes_moveCall? {position : Nat} {moved : System V}
    (move : system.moveCall? position = some moved) : Changes system moved := by
  obtain ⟨call, found, onTarget⟩ := Option.bind_eq_some_iff.1 move
  obtain ⟨scheduler, target, taken⟩ := Option.bind_eq_some_iff.1 onTarget
  split at taken
  · rename_i checking
    split at taken
    · rename_i drained
      have closed := changes_close target drained
      dsimp only at taken
      split at taken <;> cases taken
      · refine closed.trans (changes_endCall ?_)
        exact found
      · have joined : Changes system (system.putScheduler call.scheduler scheduler.close.join) := by
          have again := closed.trans (.put (scheduler?_putScheduler_self target _)
            (.mark (.join scheduler.close) rfl rfl rfl))
          rwa [putScheduler_putScheduler] at again
        refine joined.trans (.single (.stage found (by rw [checking]; nofun)
          (scheduler?_putScheduler_self target _) ?_))
        exact ⟨rfl, scheduler.isDrained_close.trans drained, scheduler.stopped_close⟩
    · rename_i occupied
      cases taken
      exact .single (.stage found (by rw [checking]; nofun) target
        ⟨Nat.le_refl _, fun drained => absurd drained occupied⟩)
  · rename_i parked
    split at taken <;> cases taken
    exact .single (.stage found (by rw [parked]; nofun) target trivial)
  · split at taken <;> cases taken
    exact changes_endCall found

end Calls

section Workers

variable {system : System V} {id : SchedulerId} {scheduler : Scheduler (Work V)}

theorem changes_moveLooking (found : system.scheduler? id = some scheduler)
    (looking : scheduler.worker = .looking) : Changes system (system.moveLooking id scheduler) := by
  have looked : Changes system (system.putScheduler id (scheduler.look system.now)) :=
    .put found (.look looking)
  unfold moveLooking
  dsimp only
  split
  · exact looked.trans (changes_report _ _)
  · exact looked

theorem changes_finishTask {task : TaskId} {work : Work V}
    (found : system.scheduler? id = some scheduler) (busy : scheduler.worker = .busy task work)
    (vain : ∀ {cacheId cache}, work.cache? = some cacheId →
      system.cache? cacheId = some cache → cache.dropped = true) :
    Changes system (system.finishTask id scheduler) :=
  .put found (.finish busy vain)

theorem changes_failTask {task : TaskId} {label handle : Label} {script : Script V}
    (found : system.scheduler? id = some scheduler)
    (busy : scheduler.worker = .busy task (.task label handle script)) (message : String) :
    Changes system (system.failTask id scheduler task message) := by
  have still : (scheduler.fail task message).worker = .busy task (.task label handle script) :=
    (Scheduler.worker_fail ..).trans busy
  have noted : Changes system (system.putScheduler id (scheduler.fail task message)) :=
    .put found (.mark (.fail message busy) (Scheduler.queue_fail ..) (Scheduler.roster_fail ..)
      (Scheduler.worker_fail ..))
  have failed : Changes system (system.finishTask id (scheduler.fail task message)) := by
    have target := scheduler?_putScheduler_self found (scheduler.fail task message)
    have again := noted.trans (changes_finishTask target still nofun)
    rwa [finishTask, putScheduler_putScheduler] at again
  unfold failTask
  dsimp only
  split
  · exact failed
  · exact failed.trans (changes_report _ _)

theorem changes_moveTask? {task : TaskId} {label handle : Label} {script : Script V}
    {moved : System V} (found : system.scheduler? id = some scheduler)
    (busy : scheduler.worker = .busy task (.task label handle script))
    (move : system.moveTask? id scheduler task label handle script = some moved) :
    Changes system moved := by
  have proceeds (rest : Script V) :
      Changes system (system.proceedTask id scheduler task label handle rest) :=
    .put found (.proceed rest busy)
  cases script with
  | done =>
      cases move
      exact changes_finishTask found busy nofun
  | panic payload =>
      cases move
      exact changes_failTask found busy _
  | wait gate rest =>
      simp only [moveTask?] at move
      split at move <;> cases move
      exact proceeds rest
  | threadName rest =>
      cases move
      exact (proceeds rest).trans (changes_report _ _)
  | submit target name due act rest =>
      cases move
      exact (proceeds rest).trans
        ((changes_submit _ target name due act).trans (changes_report _ _))
  | request request rest =>
      obtain ⟨⟨reply, answered⟩, answer, same⟩ := Option.map_eq_some_iff.1 move
      cases same
      exact (proceeds rest).trans ((changes_answer? answer).trans (changes_report _ _))
  | part parting rest =>
      simp only [moveTask?] at move
      split at move <;> cases move
      · exact (proceeds rest).trans (changes_report _ _)
      · rename_i begun
        refine (proceeds rest).trans (changes_part? ?_ begun)
        intro other target own seen
        simp only [Caller.isWorkerOf, decide_eq_true_eq] at own
        subst own
        rw [proceedTask, scheduler?_putScheduler_self found] at seen
        cases seen
        rfl

theorem changes_moveDeletion? {task : TaskId} {cacheId : CacheId} {key : String}
    {generation : Nat} {moved : System V} (found : system.scheduler? id = some scheduler)
    (busy : scheduler.worker = .busy task (.deletion cacheId key generation))
    (move : system.moveDeletion? id scheduler cacheId key generation = some moved) :
    Changes system moved := by
  unfold moveDeletion? at move
  split at move
  · rename_i absent
    cases move
    refine changes_finishTask found busy fun same seen => ?_
    cases same
    rw [absent] at seen
    cases seen
  · rename_i cache held
    split at move
    · rename_i dropped
      cases move
      refine changes_finishTask found busy fun same seen => ?_
      cases same
      rw [held] at seen
      cases seen
      exact dropped
    · rename_i kept
      split at move <;> cases move
      rename_i unlocked
      refine .trans (.single (.expire found busy held ?_ unlocked)) (changes_sweep _)
      exact Bool.not_eq_true _ |>.mp kept

theorem changes_moveWorker? {moved : System V} (move : system.moveWorker? id = some moved) :
    Changes system moved := by
  obtain ⟨scheduler, found, taken⟩ := Option.bind_eq_some_iff.1 move
  split at taken
  · rename_i looking
    cases taken
    exact changes_moveLooking found looking
  · rename_i busy
    split at taken
    · exact changes_moveCall? taken
    · exact changes_moveTask? found busy taken
  · rename_i busy
    exact changes_moveDeletion? found busy taken
  · obtain ⟨woken, woke, same⟩ := Option.map_eq_some_iff.1 taken
    cases same
    exact .put found (.wake woke)

end Workers

end System

end Agenda
