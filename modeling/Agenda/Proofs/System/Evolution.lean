import Agenda.Proofs.System.Change

/-!
# Schedulers as parts of a system

Whatever is done to a system, each of its schedulers goes through a run of its own: `Evolves` says
so of two systems, and every change makes a system evolve.
-/

namespace Agenda.System

universe u

variable {V : Type u}

/-- Every scheduler of the first system is found again in the second after a run, and every
other scheduler of the second has had a run from its start. -/
structure Evolves (before after : System V) : Prop where
  now : before.now ≤ after.now
  old : ∀ {id : SchedulerId} {scheduler : Scheduler (Work V)},
    before.scheduler? id = some scheduler →
      ∃ record changed, after.scheduler? id = some changed ∧
        Run ⟨before.now, scheduler⟩ record ⟨after.now, changed⟩
  new : ∀ {id : SchedulerId} {scheduler : Scheduler (Work V)},
    before.scheduler? id = none → after.scheduler? id = some scheduler →
      ∃ now settings halted record,
        Run ⟨now, Scheduler.start settings halted⟩ record ⟨after.now, scheduler⟩

namespace Evolves

theorem refl (system : System V) : Evolves system system where
  now := Int.le_refl _
  old found := ⟨[], _, found, .rest⟩
  new absent found := by
    rw [absent] at found
    cases found

theorem trans {first second third : System V} (before : Evolves first second)
    (after : Evolves second third) : Evolves first third where
  now := Int.le_trans before.now after.now
  old found := by
    obtain ⟨record, middle, found, run⟩ := before.old found
    obtain ⟨further, last, found, onward⟩ := after.old found
    exact ⟨record ++ further, last, found, run.trans onward⟩
  new {id scheduler} absent found := by
    cases middle : second.scheduler? id with
    | none => exact after.new middle found
    | some scheduler =>
        obtain ⟨now, settings, halted, record, run⟩ := before.new absent middle
        obtain ⟨further, last, seen, onward⟩ := after.old middle
        rw [found] at seen
        cases seen
        exact ⟨now, settings, halted, record ++ further, run.trans onward⟩

theorem each {before after : System V}
    (change : SchedulerId → Scheduler (Work V) → Scheduler (Work V))
    (now : after.now = before.now)
    (changed : ∀ id, after.scheduler? id = (before.scheduler? id).map (change id))
    (runs : ∀ id scheduler, ∃ record,
      Run ⟨before.now, scheduler⟩ record ⟨before.now, change id scheduler⟩) :
    Evolves before after where
  now := Int.le_of_eq now.symm
  old {id scheduler} found := by
    obtain ⟨record, run⟩ := runs id scheduler
    refine ⟨record, change id scheduler, ?_, ?_⟩
    · rw [changed, found, Option.map_some]
    · rw [now]
      exact run
  new {id scheduler} absent found := by
    rw [changed, absent] at found
    cases found

theorem of_eq {before after : System V} (now : after.now = before.now)
    (schedulers : after.schedulers = before.schedulers) : Evolves before after := by
  refine each (fun _ scheduler => scheduler) now ?_ ?_
  · intro id
    simp [scheduler?, schedulers]
  · intro id scheduler
    exact ⟨[], .rest⟩

variable {system : System V}

theorem put {id : SchedulerId} {old new : Scheduler (Work V)} {record : List Occurrence}
    (found : system.scheduler? id = some old)
    (run : Run ⟨system.now, old⟩ record ⟨system.now, new⟩) :
    Evolves system (system.putScheduler id new) where
  now := Int.le_refl _
  old {other scheduler} seen := by
    by_cases same : other = id
    · subst same
      rw [found] at seen
      cases seen
      exact ⟨record, new, scheduler?_putScheduler_self found new, run⟩
    · refine ⟨[], scheduler, ?_, .rest⟩
      rw [scheduler?_putScheduler_of_ne _ same]
      exact seen
  new {other scheduler} absent seen := by
    by_cases same : other = id
    · subst same
      rw [found] at absent
      cases absent
    · rw [scheduler?_putScheduler_of_ne _ same, absent] at seen
      cases seen

theorem put_step {id : SchedulerId} {old new : Scheduler (Work V)} {occurred : List Occurrence}
    (found : system.scheduler? id = some old) (step : old.Step system.now occurred new) :
    Evolves system (system.putScheduler id new) :=
  put found (Run.single step)

theorem create (system : System V) (settings : Settings) :
    Evolves system (system.createScheduler settings).2 where
  now := Int.le_refl _
  old {id scheduler} found := by
    refine ⟨[], scheduler, ?_, .rest⟩
    obtain ⟨inside, _⟩ := Array.getElem?_eq_some_iff.1 found
    simp only [scheduler?, createScheduler, Array.getElem?_push] at *
    rw [if_neg (by omega)]
    exact found
  new {id scheduler} absent found := by
    simp only [scheduler?, createScheduler, Array.getElem?_push] at *
    split at found
    · cases found
      exact ⟨system.now, settings, _, [], .rest⟩
    · rw [absent] at found
      cases found

end Evolves

/-- What is done to a scheduler is one step of it. -/
theorem Affair.step {system : System V} {id : SchedulerId} {old new : Scheduler (Work V)}
    (affair : Affair system id old new) : ∃ occurred, old.Step system.now occurred new := by
  cases affair with
  | mark step _ _ _ => exact ⟨_, step⟩
  | look looking => exact ⟨_, .look looking⟩
  | wake woke => exact ⟨_, .wake woke⟩
  | proceed rest busy => exact ⟨_, .proceed _ busy⟩
  | finish busy _ => exact ⟨_, .finish busy⟩
  | submit accepted => exact ⟨_, .submit accepted⟩
  | cancel _ _ => exact ⟨_, .cancel _ _⟩

theorem evolves_submit? {system filled : System V} {id : SchedulerId} {due : Int}
    {work : Work V} {task : TaskId} (accepted : system.submit? id due work = some (task, filled)) :
    Evolves system filled := by
  obtain ⟨scheduler, found, accepted⟩ := Option.bind_eq_some_iff.1 accepted
  obtain ⟨⟨number, full⟩, taken, same⟩ := Option.map_eq_some_iff.1 accepted
  cases same
  exact .put_step found (.submit taken)

theorem evolves_cancelTask (system : System V) (id : SchedulerId) (task : TaskId) :
    Evolves system (system.cancelTask id task).2 := by
  unfold cancelTask
  split
  · exact .refl system
  · rename_i scheduler found
    exact .put_step found (.cancel scheduler task)

theorem evolves_book {system locked : System V} {id : CacheId} {cache : Cache V} {key : String}
    {access : Access V} {booking : Booking V}
    (booked : system.book id cache key access = .ok (booking, locked)) :
    Evolves system locked := by
  obtain ⟨_, _, _, rfl⟩ := eq_of_book booked
  exact .of_eq rfl rfl

theorem evolves_replace (system : System V) (booking : Booking V) (cache : Cache V) (value : V)
    (deletion : TaskId) (deadline : Int) :
    Evolves system (system.replace booking cache value deletion deadline).2 := by
  unfold replace
  dsimp only
  split
  · exact .of_eq rfl rfl
  · refine .trans ?_ (evolves_cancelTask _ _ _)
    exact .of_eq rfl rfl

theorem evolves_fulfil (system : System V) (booking : Booking V) (cache : Cache V)
    (deletion : TaskId) (deadline : Int) :
    Evolves system (system.fulfil booking cache deletion deadline).2 := by
  unfold fulfil
  split
  · split
    · exact .refl system
    · exact (evolves_cancelTask _ _ _).trans (.of_eq rfl rfl)
  · exact evolves_replace _ _ _ _ _ _
  · exact evolves_replace _ _ _ _ _ _

theorem evolves_decline (system : System V) (booking : Booking V) (cache : Cache V)
    (error : SchedulerError) : Evolves system (system.decline booking cache error).2 := by
  unfold decline
  split
  · exact .of_eq rfl rfl
  · exact .refl system

theorem evolves_resolve (system : System V) (booking : Booking V) :
    Evolves system (system.resolve booking).2 := by
  unfold resolve
  split
  · exact .refl system
  · exact .refl system
  · split
    · exact .refl system
    · split
      · exact evolves_decline _ _ _ _
      · rename_i accepted
        exact (evolves_submit? accepted).trans (evolves_fulfil _ _ _ _ _)

theorem evolves_delete (system : System V) (id : CacheId) (cache : Cache V) (key : String) :
    Evolves system (system.delete id cache key).2 := by
  unfold delete
  split
  · exact .refl system
  · exact (evolves_cancelTask _ _ _).trans (.of_eq rfl rfl)

theorem Change.evolves {before after : System V} (change : Change before after) :
    Evolves before after := by
  cases change with
  | aside aside => exact .of_eq aside.now aside.schedulers
  | halt change halts changed =>
      refine .each change rfl changed fun id scheduler => ?_
      rcases halts id scheduler with same | halted
      · rw [same]
        exact ⟨[], .rest⟩
      · rw [halted]
        exact ⟨[], .single (.halt scheduler)⟩
  | drop _ _ _ => exact .of_eq rfl rfl
  | create settings => exact .create before settings
  | createCache _ => exact .of_eq rfl rfl
  | put found affair =>
      obtain ⟨_, step⟩ := affair.step
      exact .put_step found step
  | hold _ _ => exact .of_eq rfl rfl
  | book _ _ booked => exact evolves_book booked
  | confirm _ => exact (evolves_resolve before _).trans (.of_eq rfl rfl)
  | delete key _ _ => exact evolves_delete before _ _ key
  | expire found busy _ _ _ =>
      refine .trans ?_ (.put_step found (.finish busy))
      exact .of_eq rfl rfl
  | call _ _ => exact .of_eq rfl rfl
  | stage _ _ _ _ => exact .of_eq rfl rfl

theorem Evolves.pass (system : System V) {later : Int} (order : system.now ≤ later) :
    Evolves system { system with now := later } where
  now := order
  old found := ⟨[], _, found, .pass .rest order⟩
  new {id scheduler} absent found := by
    have same : system.scheduler? id = some scheduler := found
    rw [absent] at same
    cases same

theorem Changes.evolves {before after : System V} (changes : Changes before after) :
    Evolves before after := by
  induction changes with
  | refl => exact .refl before
  | tail _ change inductionHypothesis => exact inductionHypothesis.trans change.evolves

end Agenda.System
