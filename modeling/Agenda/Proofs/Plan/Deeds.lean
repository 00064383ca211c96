import Agenda.Proofs.Plan.Settling

/-!
# What a caller asks of a scheduler, and of its plan

A submission, a cancellation, a question and the stop signal get the same answers from a settled
scheduler as from its plan, and leave the two alike.
-/

namespace Agenda

universe u

variable {V : Type u}

namespace Scheduler

variable {label handle : Label} {before after : Scheduler (Work V)} {due : Int}

theorem Simple.isStopped (simple : before.Simple label) : before.isStopped = before.halted := by
  unfold Scheduler.isStopped
  cases halted : before.halted with
  | true => rfl
  | false =>
      rw [Bool.false_or, ← Bool.not_eq_true]
      intro stopped
      rw [simple.halted stopped] at halted
      cases halted

theorem Simple.submit (simple : before.Simple label) {id : TaskId}
    (accepted : before.submit? due (.task label handle .done) = some (id, after)) :
    after.Simple label := by
  refine ⟨simple.sound.submit accepted, ?_, simple.bears.submit ⟨handle, rfl⟩ accepted⟩
  obtain ⟨_, _, ready, interrupt, journal, rfl⟩ := eq_of_submit? accepted
  exact simple.halted

theorem Simple.cancel (simple : before.Simple label) (id : TaskId) :
    (before.cancel id).2.Simple label := by
  refine ⟨simple.sound.cancel id, ?_, simple.bears.cancel id⟩
  rw [stopped_cancel, halted_cancel]
  exact simple.halted

theorem Simple.halt (simple : before.Simple label) : before.halt.Simple label :=
  ⟨simple.sound.halt, fun _ => rfl, ⟨simple.bears.queued, simple.bears.busy⟩⟩

theorem outstanding_accept (sound : before.Sound) (running : before.halted = false)
    (due : Int) (work : Work V) : (before.accept due work).outstanding.Perm
      (⟨due, before.roster.nextId, work.handle⟩ :: before.outstanding) := by
  have filled := (Heap.toList_insert_perm before.queue ⟨due, before.roster.nextId, work⟩).filter
    fun entry => before.roster.accept.isPending entry.id
  have first : before.roster.accept.isPending before.roster.nextId = true := by
    rw [Roster.isPending_iff, Roster.fate?_accept, if_pos rfl]
  have others : before.queue.toList.filter (fun entry => before.roster.accept.isPending entry.id)
      = before.queue.toList.filter fun entry => before.roster.isPending entry.id := by
    apply List.filter_congr
    intro entry held
    unfold Roster.isPending
    rw [Roster.fate?_accept, if_neg (sound.stored.fresh held)]
  have kept : (before.accept due work).halted = false := running
  rw [outstanding_of_running kept, outstanding_of_running running]
  refine (filled.map Entry.item).trans (.of_eq ?_)
  simp only [List.filter_cons, first, others, if_true]
  rfl

theorem outstanding_cancel (before : Scheduler (Work V)) (id : TaskId) :
    (before.cancel id).2.outstanding
      = before.outstanding.filter fun item => item.id ≠ id := by
  have kept := halted_cancel before id
  cases halted : before.halted with
  | true =>
      rw [outstanding_of_halted (kept.trans halted), outstanding_of_halted halted,
        List.filter_nil]
  | false =>
      rw [outstanding_of_running (kept.trans halted), outstanding_of_running halted,
        queue_cancel, roster_cancel, List.filter_map, List.filter_filter]
      congr 1
      apply List.filter_congr
      intro entry _
      rw [Bool.eq_iff_iff, Roster.isPending_iff, Roster.fate?_resolve]
      by_cases same : entry.id = id
      · by_cases pending : before.roster.fate? id = some .pending <;>
          simp [same, pending, Entry.item]
      · simp [same, Entry.item, Roster.isPending]

namespace Mirrors

variable {plan : Plan}

theorem congr (mirrors : before.Mirrors plan) (queue : after.queue = before.queue)
    (roster : after.roster = before.roster) (halted : after.halted = before.halted)
    (settings : after.settings = before.settings) : after.Mirrors plan := by
  obtain ⟨pending, fates, count, stopped, same⟩ := mirrors
  constructor
  · unfold outstanding at pending ⊢
    rw [queue, roster, halted]
    exact pending
  · unfold fateInView? at fates ⊢
    rw [roster, halted]
    exact fates
  · rw [roster]
    exact count
  · rw [halted]
    exact stopped
  · rw [settings]
    exact same

theorem add (mirrors : before.Mirrors plan) (sound : before.Sound)
    (running : before.halted = false) (handle : Label) (due : Int) :
    (before.accept due (.task label handle .done)).Mirrors (plan.add handle due) := by
  have next : before.roster.nextId = ⟨plan.count + 1⟩ := by
    rw [Roster.nextId, mirrors.count]
  have filled := outstanding_accept sound running due (.task label handle .done)
  rw [next] at filled
  refine ⟨(mirrors.pending.cons _).trans filled.symm, ?_, ?_, mirrors.stopped, mirrors.settings⟩
  · intro id
    have kept : (before.accept due (.task label handle .done)).halted = false := running
    have accepted : (before.accept due (.task label handle .done)).roster.fate? id = _ :=
      Roster.fate?_accept before.roster id
    rw [fateInView?_of_running kept, accepted, next, Plan.fates_add, mirrors.fates,
      fateInView?_of_running running]
  · have count : (plan.add handle due).count = plan.count + 1 := rfl
    rw [count, mirrors.count]
    exact (Roster.count_accept _).symm

theorem drop (mirrors : before.Mirrors plan) {id : TaskId}
    (pending : before.roster.fate? id = some .pending) (running : before.halted = false) :
    (before.cancel id).2.Mirrors (plan.drop id) := by
  have kept := halted_cancel before id
  constructor
  · rw [outstanding_cancel]
    exact mirrors.pending.filter _
  · intro other
    rw [fateInView?_of_running (kept.trans running), roster_cancel, Roster.fate?_resolve,
      Plan.fates_drop, mirrors.fates, fateInView?_of_running running]
    simp [pending]
  · rw [roster_cancel, Roster.count_resolve]
    exact mirrors.count
  · rw [kept]
    exact mirrors.stopped
  · rw [settings_cancel]
    exact mirrors.settings

/-- The queue holds what is pending, and what was cancelled besides. -/
theorem length_pending_le (mirrors : before.Mirrors plan) : plan.pending.length ≤ before.size := by
  rw [mirrors.pending.length_eq, outstanding]
  split
  · exact Nat.zero_le _
  · rw [List.length_map]
    apply Nat.le_trans (List.length_filter_le ..)
    exact Nat.le_of_eq (Heap.length_toList before.queue)

end Mirrors

end Scheduler

namespace Plan

variable {label handle : Label} {plan : Plan} {system : System V}
  {scheduler : Scheduler (Work V)}

theorem Rests.has_eq (rests : plan.Rests label system scheduler) (id : TaskId) :
    plan.has id = scheduler.roster.isPending id := by
  rw [Bool.eq_iff_iff, Roster.isPending_iff, has, List.any_eq_true]
  constructor
  · rintro ⟨item, held, same⟩
    obtain ⟨_, entry, _, pending, rfl⟩ :=
      Scheduler.mem_outstanding.1 (rests.mirrors.pending.mem_iff.1 held)
    rw [← of_decide_eq_true same]
    exact pending
  · intro pending
    have inView : scheduler.fateInView? id = some .pending := by
      rw [← rests.mirrors.fates, ← rests.shown, pending]
    have running : scheduler.halted = false := by
      rw [← Bool.not_eq_true]
      intro halted
      rw [Scheduler.fateInView?, if_pos ⟨halted, pending⟩] at inView
      cases inView
    obtain ⟨entry, held, rfl⟩ := rests.simple.sound.stored.queued id pending
    exact ⟨entry.item, rests.mirrors.pending.mem_iff.2
      (Scheduler.mem_outstanding.2 ⟨running, entry, held, pending, rfl⟩), decide_eq_true rfl⟩

theorem Follows.add (follows : plan.Follows label system scheduler)
    (running : scheduler.halted = false) {instant : Int} {after : Scheduler (Work V)}
    (accepted : scheduler.submit? instant (.task label handle .done)
      = some (scheduler.roster.nextId, after)) :
    (plan.add handle instant).Follows label
      { system.putScheduler ⟨0⟩ after with
        handles := system.handles.insert handle ⟨⟨0⟩, scheduler.roster.nextId⟩ } after := by
  have hosts := follows.hosts.putScheduler after
  refine ⟨⟨hosts.only, hosts.label, hosts.calls⟩, follows.simple.submit accepted, ?_, follows.now,
    ?_⟩
  · obtain ⟨_, _, ready, interrupt, journal, rfl⟩ := Scheduler.eq_of_submit? accepted
    have added : (scheduler.accept instant (.task label handle .done)).Mirrors
      (plan.add handle instant) := follows.mirrors.add follows.simple.sound running handle instant
    exact added.congr rfl rfl rfl rfl
  · intro other
    have next : scheduler.roster.nextId = ⟨plan.count + 1⟩ := by
      rw [Roster.nextId, follows.mirrors.count]
    rw [Std.TreeMap.getElem?_insert, next]
    by_cases same : handle = other
    · subst same
      simp [handles_add]
    · simp [handles_add, same, Ne.symm same, follows.handles]

theorem Rests.submit (rests : plan.Rests label system scheduler) (handle : Label) (due : Due) :
    (system.submit label handle due .done).1 = (plan.submit handle due).1 ∧
      (system.submit label handle due .done).2.returned = system.returned ∧
      ∃ after, (plan.submit (V := V) handle due).2.Follows label
        (system.submit label handle due .done).2 after := by
  rw [System.submit, rests.hosts.schedulerAt?, Plan.submit, rests.now]
  dsimp only
  cases reached : due.instant? system.now with
  | none => exact ⟨rfl, rfl, scheduler, rests.toFollows⟩
  | some instant =>
      have stopped := rests.simple.isStopped
      rw [← rests.mirrors.stopped] at stopped
      dsimp only
      rw [System.submit?, rests.hosts.scheduler?, if_pos rfl, Option.bind_some]
      cases past : plan.stopped with
      | true =>
          have refused : scheduler.submit? instant (.task label handle .done) = none := by
            rw [Scheduler.submit?, stopped, if_pos past]
          rw [refused, if_pos rfl, rests.mirrors.settings]
          exact ⟨rfl, rfl, scheduler, rests.toFollows⟩
      | false =>
          obtain ⟨after, accepted⟩ : ∃ after, scheduler.submit? instant
              (.task label handle .done) = some (scheduler.roster.nextId, after) := by
            rw [Scheduler.submit?, stopped, past]
            exact ⟨_, rfl⟩
          have running := rests.mirrors.stopped.symm.trans past
          have next : scheduler.roster.nextId = ⟨plan.count + 1⟩ := by
            rw [Roster.nextId, rests.mirrors.count]
          rw [accepted, if_neg Bool.false_ne_true, ← next]
          exact ⟨rfl, rfl, after, rests.add running accepted⟩

theorem Rests.running (rests : plan.Rests label system scheduler) {id : TaskId}
    (pending : scheduler.roster.fate? id = some .pending) : scheduler.halted = false := by
  have inView : scheduler.fateInView? id = some .pending := by
    rw [← rests.mirrors.fates, ← rests.shown, pending]
  rw [← Bool.not_eq_true]
  intro halted
  rw [Scheduler.fateInView?, if_pos ⟨halted, pending⟩] at inView
  cases inView

theorem Rests.cancel (rests : plan.Rests label system scheduler) (handle : Label) :
    (system.cancel label handle).1 = (plan.cancel handle).1 ∧
      (system.cancel label handle).2.returned = system.returned ∧
      ∃ after, (plan.cancel (V := V) handle).2.Follows label (system.cancel label handle).2
        after := by
  rw [System.cancel, rests.hosts.schedulerAt?, Plan.cancel, rests.handles]
  cases known : plan.handles handle with
  | none => exact ⟨rfl, rfl, scheduler, rests.toFollows⟩
  | some id =>
      dsimp only [Option.map_some]
      rw [if_pos rfl, System.cancelTask_of_found rests.hosts.found, Scheduler.fst_cancel,
        rests.has_eq]
      cases pending : scheduler.roster.isPending id with
      | true =>
          have waiting := Roster.isPending_iff.1 pending
          exact ⟨rfl, rfl, _, rests.hosts.putScheduler _, rests.simple.cancel id,
            rests.mirrors.drop waiting (rests.running waiting), rests.now, rests.handles⟩
      | false =>
          have refused : scheduler.cancel id = (false, scheduler) := if_neg (by simp [pending])
          rw [refused]
          exact ⟨rfl, rfl, scheduler, rests.hosts.putScheduler scheduler, rests.simple, rests.mirrors,
            rests.now, rests.handles⟩

theorem Rests.fateOf (rests : plan.Rests label system scheduler) (handle : Label) :
    system.fateOf handle = plan.fateOf handle := by
  rw [System.fateOf, Plan.fateOf, rests.handles]
  cases plan.handles handle with
  | none => rfl
  | some id =>
      dsimp only [Option.map_some]
      rw [rests.hosts.found, Option.bind_some]
      cases fate : plan.fates id <;> rw [rests.shown, fate]

theorem Rests.stop (rests : plan.Rests label system scheduler) :
    scheduler.halt.Mirrors plan.stop := by
  have halted : scheduler.halt.halted = true := rfl
  refine ⟨?_, ?_, rests.mirrors.count, rfl, rests.mirrors.settings⟩
  · rw [Scheduler.outstanding_of_halted halted]
    exact .refl _
  · intro id
    have fates : plan.stop.fates id
        = if plan.has id then some .cancelled else plan.fates id := rfl
    have same : scheduler.halt.roster = scheduler.roster := rfl
    rw [fates, rests.has_eq, ← rests.shown, Scheduler.fateInView?, same]
    simp [halted, Roster.isPending_iff]

/-- A token that is cancelled, be it the one of the scheduler or not. -/
theorem Rests.cancelToken (rests : plan.Rests label system scheduler) (token : Label) :
    ∃ after, (plan.cancelToken token).Follows label (system.cancelToken token) after := by
  have only : (system.cancelToken token).schedulers = #[if scheduler.settings.token = .named token
      then scheduler.halt else scheduler] := by
    simp [System.cancelToken, rests.hosts.only]
  rw [Plan.cancelToken, rests.mirrors.settings]
  by_cases own : scheduler.settings.token = .named token
  · rw [if_pos own] at only ⊢
    exact ⟨scheduler.halt, ⟨only, rests.hosts.label, rests.hosts.calls⟩, rests.simple.halt,
      rests.stop, rests.now, rests.handles⟩
  · rw [if_neg own] at only ⊢
    exact ⟨scheduler, ⟨only, rests.hosts.label, rests.hosts.calls⟩, rests.simple, rests.mirrors,
      rests.now, rests.handles⟩

end Plan

end Agenda
