import Agenda.Proofs.Scheduler.Completing
import Agenda.Proofs.Scheduler.Signalling
import Agenda.Proofs.System.Leading
import Agenda.Proofs.System.Parking
import Agenda.Proofs.System.Settled

/-!
# Who waits, and for what

Every call under way fits the scheduler it waits for, whatever has been done to that scheduler
since.  So a call that has done all it can waits for a good reason: a shutdown for tasks that are
queued or run, and a release for the running task of a stopped scheduler.  And a scheduler that is
drained lets all its shutdowns return, however many there are.
-/

namespace Agenda

universe u

variable {V : Type u}

/-- A call fits its scheduler after any run of it. -/
theorem Call.Fits.run {call : Call} {first last : Moment (Work V)} {record : List Occurrence}
    (fits : call.Fits first.scheduler) (sound : first.scheduler.Sound)
    (run : Run first record last) : call.Fits last.scheduler := by
  refine ⟨fun owner => ?_, fun kind => ?_⟩
  · have fitting := fits.shutdown owner
    cases stage : call.stage with
    | checking => trivial
    | parked drains =>
        rw [stage] at fitting
        have signals := run.signals
        refine ⟨Nat.le_trans fitting.1 signals.drains, fun drained => ?_⟩
        rcases signals.drained drained with already | signalled
        · exact Nat.lt_of_lt_of_le (fitting.2 already) signals.drains
        · exact Nat.lt_of_le_of_lt fitting.1 signalled
    | joining =>
        rw [stage] at fitting
        obtain ⟨joined, drained, stopped⟩ := fitting
        have still := run.staysClosed sound (Scheduler.closed_of_isDrained drained stopped)
        exact ⟨run.remembers.joined joined, still.closed.isDrained, still.closed.stopped⟩
  · obtain ⟨joining, halted⟩ := fits.release kind
    exact ⟨joining, run.remembers.halted halted⟩

namespace System

variable {system moved before after : System V} {id : SchedulerId}
  {host : Scheduler (Work V)} {call : Call} {position : Nat}

structure Attended (system : System V) : Prop where
  sound : ∀ {id host}, system.scheduler? id = some host → host.Sound
  fits : ∀ call ∈ system.calls, ∃ host, system.scheduler? call.scheduler = some host ∧ call.Fits host

namespace Attended

theorem goOn (attended : before.Attended) (evolves : Evolves before after)
    (calls : ∀ call ∈ after.calls, call ∈ before.calls ∨
      ∃ host, before.scheduler? call.scheduler = some host ∧ call.Fits host) : after.Attended where
  sound {id host} found := by
    cases earlier : before.scheduler? id with
    | none =>
        obtain ⟨_, settings, halted, _, run⟩ := evolves.new earlier found
        exact run.sound (Scheduler.sound_start settings halted)
    | some old =>
        obtain ⟨_, changed, seen, run⟩ := evolves.old earlier
        cases found.symm.trans seen
        exact run.sound (attended.sound earlier)
  fits call listed := by
    have earlier : ∃ host, before.scheduler? call.scheduler = some host ∧ call.Fits host :=
      (calls call listed).elim (attended.fits call) id
    obtain ⟨host, found, fits⟩ := earlier
    obtain ⟨_, changed, seen, run⟩ := evolves.old found
    exact ⟨changed, seen, fits.run (attended.sound found) run⟩

theorem setStage (attended : before.Attended) (found : before.calls[position]? = some call)
    (free : call.stage ≠ .joining) (seen : before.scheduler? call.scheduler = some host)
    {stage : Stage} (fitting : stage.Fits host) : (before.setStage position call stage).Attended := by
  refine attended.goOn (.of_eq rfl rfl) fun other listed => ?_
  rcases List.mem_or_eq_of_mem_set listed with old | rfl
  · exact .inl old
  · refine .inr ⟨host, seen, fun _ => fitting, fun kind => ?_⟩
    obtain ⟨known, same, fits⟩ := attended.fits call (List.mem_of_getElem? found)
    exact absurd (fits.release kind).1 free

theorem change (attended : before.Attended) (change : Change before after) : after.Attended := by
  have evolves := change.evolves
  have kept (same : after.calls = before.calls) : after.Attended :=
    attended.goOn evolves fun call listed => .inl (same ▸ listed)
  cases change with
  | aside aside => exact attended.goOn evolves fun call listed => .inl (aside.calls.mem listed)
  | book _ _ booked =>
      obtain ⟨_, _, _, rfl⟩ := eq_of_book booked
      exact kept rfl
  | confirm _ => exact kept (frames_resolve before _).calls
  | delete key _ _ => exact kept (frames_delete before _ _ key).calls
  | call found fits =>
      refine attended.goOn evolves fun other listed => ?_
      rcases List.mem_append.1 listed with old | new
      · exact .inl old
      · cases List.mem_singleton.1 new
        exact .inr ⟨_, found, fits⟩
  | stage found free seen fitting => exact attended.setStage found free seen fitting
  | _ => exact kept rfl

end Attended

theorem Reachable.attended (reachable : Reachable system) : system.Attended :=
  reachable.keeps (fun attended change => attended.change change)
    (fun attended order => attended.goOn (.pass _ order) fun _ => .inl)
    ⟨fun found => by simp [scheduler?] at found, nofun⟩

theorem Frames.informs (frames : Frames before after) : Informs before after := by
  obtain ⟨_, _, _, rfl⟩ := frames
  exact .of_eq rfl rfl rfl

theorem Change.informs (change : Change before after) : Informs before after := by
  cases change with
  | aside aside => exact aside.informs
  | book _ _ booked =>
      obtain ⟨_, _, _, rfl⟩ := eq_of_book booked
      exact .of_eq rfl rfl rfl
  | confirm _ => exact (frames_resolve before _).informs.trans (.of_eq rfl rfl rfl)
  | delete key _ _ => exact (frames_delete before _ _ key).informs
  | @call call _ _ _ =>
      refine ⟨[call.asked], [], [], [], ?_, (List.append_nil _).symm, List.Sublist.refl _,
        (List.append_nil _).symm, nofun⟩
      rw [List.map_append]
      exact List.Perm.refl _
  | @stage _ call stage _ found _ _ _ =>
      refine ⟨[], [], [], [], ?_, (List.append_nil _).symm, List.Sublist.refl _,
        (List.append_nil _).symm, nofun⟩
      rw [List.append_nil]
      exact .of_eq (map_set_of_eq found { call with stage } Call.asked rfl).symm
  | _ => exact .of_eq rfl rfl rfl

theorem Changes.informs (changes : Changes before after) : Informs before after := by
  induction changes with
  | refl => exact .of_eq rfl rfl rfl
  | tail _ change inductionHypothesis => exact inductionHypothesis.trans change.informs

theorem Step.informs (step : Step before after) : Informs before after := by
  rcases step.changes_or_passes with changes | ⟨later, _, rfl⟩
  · exact changes.informs
  · exact .of_eq rfl rfl rfl

/-- Calls that are not under way any more in what a system leads to have returned. -/
theorem Leads.informs (leads : Leads before after) : Informs before after := by
  induction leads with
  | refl => exact .of_eq rfl rfl rfl
  | tail _ step inductionHypothesis => exact inductionHypothesis.trans step.informs

/-- What settling does is done by workers and calls. -/
theorem leads_settle (system : System V) : Leads system system.settle :=
  settle_keeps (motive := Leads system) (fun leads move => leads.tail (.worker move))
    (fun leads move => leads.tail (.call move)) .refl

namespace IsSettled

theorem moveCall?_eq_none (settled : system.IsSettled) (position : Nat) :
    system.moveCall? position = none := by
  cases found : system.calls[position]? with
  | none => simp [moveCall?, found]
  | some call =>
      have still := settled ⟨0⟩
      unfold move? at still
      split at still
      · cases still
      · obtain ⟨inside, _⟩ := List.getElem?_eq_some_iff.1 found
        exact List.findSome?_eq_none_iff.1 (Option.map_eq_none_iff.1 still) position
          (List.mem_range.2 inside)

theorem exited_of_halted (settled : system.IsSettled) (found : system.scheduler? id = some host)
    (halted : host.halted = true) (free : host.worker.isBusy = false) : host.worker = .exited := by
  obtain ⟨awake, still⟩ := still_of_moveWorker? found (settled.moveWorker?_eq_none id) free
  exact Scheduler.exited_of_halted awake still free halted

theorem exited_of_stopped (settled : system.IsSettled) (found : system.scheduler? id = some host)
    (sound : host.Sound) (stopped : host.stopped = true) (vacant : host.queue.toList = [])
    (free : host.worker.isBusy = false) : host.worker = .exited := by
  obtain ⟨awake, still⟩ := still_of_moveWorker? found (settled.moveWorker?_eq_none id) free
  exact sound.exited_of_stopped awake still free stopped vacant

end IsSettled

/-- The calls under way in a settled system wait for something that is still to happen. -/
structure Patient (system : System V) : Prop where
  shutdown : ∀ call ∈ system.calls, call.owner = true →
    ∃ host, system.scheduler? call.scheduler = some host ∧
      (host.queue.toList ≠ [] ∨ host.worker.isBusy = true)
  release : ∀ call ∈ system.calls, call.owner = false →
    ∃ host, system.scheduler? call.scheduler = some host ∧
      host.isStopped = true ∧ host.worker.isBusy = true

def IsDrained (id : SchedulerId) (system : System V) : Prop :=
  ∃ host, system.scheduler? id = some host ∧ host.isDrained = true

def shutdowns (system : System V) (id : SchedulerId) : List Call :=
  system.calls.filter fun call => call.owner && call.scheduler = id

/-- All shutdowns that waited in the first system have returned in the second. -/
structure Released (before after : System V) (id : SchedulerId) : Prop where
  none : after.shutdowns id = []
  /-- Each helper is told, as often as it has called. -/
  helpers : ((before.shutdowns id).filterMap fun call => call.caller.label?).Subperm
    (after.returned.toList.drop before.returned.size)
  /-- Each worker that has called goes on, and the step of its task is answered. -/
  workers : ∀ call ∈ before.shutdowns id, ∀ {own scheduler handle},
    call.caller = .worker own scheduler handle →
      .answered scheduler handle .ok ∈ after.events.toList.drop before.events.size

structure Releases (system : System V) (id : SchedulerId) : Prop where
  /-- Whoever is parked, or about to be, goes on. -/
  woken : ∀ {position call}, system.calls[position]? = some call → call.owner = true →
    call.scheduler = id → call.stage ≠ .joining → (system.moveCall? position).isSome = true
  /-- The scheduler stays drained if it accepts nothing. -/
  still : ∀ {later host last}, Leads system later → system.scheduler? id = some host →
    later.scheduler? id = some last → last.roster.count = host.roster.count → later.IsDrained id
  released : ∀ {later}, Leads system later → later.IsSettled → later.IsDrained id →
    Released system later id

theorem Attended.woken (attended : system.Attended) (drained : system.IsDrained id)
    (found : system.calls[position]? = some call) (owner : call.owner = true)
    (own : call.scheduler = id) (free : call.stage ≠ .joining) :
    (system.moveCall? position).isSome = true := by
  obtain ⟨host, hosted, drained⟩ := drained
  obtain ⟨other, same, fits⟩ := attended.fits call (List.mem_of_getElem? found)
  rw [own, hosted] at same
  cases same
  have fitting := fits.shutdown owner
  rw [moveCall?, found, Option.bind_some, own, hosted, Option.bind_some]
  cases stage : call.stage with
  | checking =>
      simp only [drained, if_true]
      split <;> rfl
  | parked drains =>
      rw [stage] at fitting
      simp [Nat.ne_of_gt (fitting.2 drained)]
  | joining => exact absurd stage free

/-- A settled system has no shutdown of a drained scheduler under way. -/
theorem Attended.shutdowns_eq_nil (attended : system.Attended) (settled : system.IsSettled)
    (drained : system.IsDrained id) : system.shutdowns id = [] := by
  rw [shutdowns, List.filter_eq_nil_iff]
  intro call listed kind
  rw [Bool.and_eq_true, decide_eq_true_eq] at kind
  obtain ⟨owner, own⟩ := kind
  obtain ⟨position, found⟩ := List.getElem?_of_mem listed
  have still := settled.moveCall?_eq_none position
  by_cases joining : call.stage = .joining
  · obtain ⟨host, hosted, fits⟩ := attended.fits call listed
    have fitting := fits.shutdown owner
    rw [joining] at fitting
    obtain ⟨_, drained, stopped⟩ := fitting
    have closed := Scheduler.closed_of_isDrained drained stopped
    have exited := settled.exited_of_stopped hosted (attended.sound hosted) closed.stopped
      closed.queue closed.free
    simp [moveCall?, found, hosted, joining, exited, Worker.isExited] at still
  · have moves := attended.woken drained found owner own joining
    rw [still] at moves
    cases moves

theorem Attended.patient (attended : system.Attended) (settled : system.IsSettled) :
    system.Patient where
  shutdown call listed owner := by
    obtain ⟨host, hosted, _⟩ := attended.fits call listed
    refine ⟨host, hosted, ?_⟩
    by_contra waits
    rw [not_or, not_not, Bool.not_eq_true] at waits
    obtain ⟨vacant, free⟩ := waits
    have drained : system.IsDrained call.scheduler :=
      ⟨host, hosted, Scheduler.isDrained_iff.2 ⟨Scheduler.toList_eq_nil_iff.1 vacant, free⟩⟩
    have none := attended.shutdowns_eq_nil settled drained
    rw [shutdowns, List.filter_eq_nil_iff] at none
    exact none call listed (by simp [owner])
  release call listed kind := by
    obtain ⟨host, hosted, fits⟩ := attended.fits call listed
    obtain ⟨joining, halted⟩ := fits.release kind
    refine ⟨host, hosted, by rw [Scheduler.isStopped, halted, Bool.true_or], ?_⟩
    by_contra free
    obtain ⟨position, found⟩ := List.getElem?_of_mem listed
    have still := settled.moveCall?_eq_none position
    have exited := settled.exited_of_halted hosted halted (Bool.not_eq_true _ |>.mp free)
    simp [moveCall?, found, hosted, joining, exited, Worker.isExited] at still

theorem Informs.released (informs : Informs before after) (none : after.shutdowns id = []) :
    Released before after id := by
  obtain ⟨begun, ended, told, known, tells⟩ := informs
  let kind : Call → Bool := fun call => call.owner && call.scheduler = id
  let label? : Call → Option Label := fun call => call.caller.label?
  have returned : after.returned.toList.drop before.returned.size = told := by
    rw [tells.returned, ← Array.length_toList, List.drop_left]
  have events : after.events.toList.drop before.events.size = known := by
    rw [tells.events, ← Array.length_toList, List.drop_left]
  have gone : (after.calls.map Call.asked).filter kind = [] := by
    rw [List.filter_map, List.map_eq_nil_iff]
    exact none
  have some : ((before.calls.map Call.asked).filter kind ++ begun.filter kind).Perm
      (ended.filter kind) := by
    have all := tells.calls.filter kind
    rwa [List.filter_append, List.filter_append, gone, List.append_nil] at all
  have asked : (before.calls.map Call.asked).filter kind = (before.shutdowns id).map Call.asked :=
    List.filter_map
  rw [asked] at some
  refine ⟨none, ?_, ?_⟩
  · have labels : ((before.shutdowns id).map Call.asked).filterMap label? =
        (before.shutdowns id).filterMap label? := List.filterMap_map
    have among : ((before.shutdowns id).filterMap label?).Subperm
        ((ended.filter kind).filterMap label?) := by
      rw [← labels]
      exact ((List.sublist_append_left _ _).filterMap label?).subperm.trans
        (some.filterMap label?).subperm
    rw [returned]
    exact among.trans ((List.filter_sublist.filterMap label?).trans tells.labels).subperm
  · intro call listed own scheduler handle caller
    rw [events]
    have listed := some.subset (List.mem_append_left _ (List.mem_map_of_mem listed))
    exact tells.answers (List.mem_filter.1 listed).1 caller

theorem releases_of_isDrained (reachable : Reachable system) (drained : system.IsDrained id) :
    system.Releases id where
  woken found owner own free := reachable.attended.woken drained found owner own free
  still {later host last} leads found seen same := by
    obtain ⟨known, again, drained⟩ := drained
    cases found.symm.trans again
    obtain ⟨record, changed, hosted, run⟩ := leads.evolves.old found
    cases seen.symm.trans hosted
    refine ⟨last, seen, (run.isDrained_or_accepts drained).resolve_right ?_⟩
    rw [same]
    exact Nat.lt_irrefl _
  released leads settled drained :=
    leads.informs.released ((reachable.leads leads).attended.shutdowns_eq_nil settled drained)

/-- No call waits in vain: what a settled system waits for is still to happen, every system comes
to be settled, and a drained scheduler lets all its shutdowns return. -/
theorem Reachable.releases (reachable : Reachable system) :
    (system.IsSettled → system.Patient) ∧ (Leads system system.settle ∧ system.settle.IsSettled) ∧
      ∀ {id}, system.IsDrained id → system.Releases id :=
  ⟨fun settled => reachable.attended.patient settled,
    ⟨leads_settle system, isSettled_settle system⟩,
    fun drained => releases_of_isDrained reachable drained⟩

/-- Two shutdowns wait for a task that waits for a gate, and are let go when it has ended. -/
theorem releases_of_gated_task :
    ∃ blocked drained : System Nat, Reachable blocked ∧ blocked.IsSettled ∧
      (blocked.shutdowns ⟨0⟩).length = 2 ∧ blocked.Patient ∧ Reachable drained ∧
        drained.IsDrained ⟨0⟩ ∧ (drained.shutdowns ⟨0⟩).length = 2 ∧ drained.Releases ⟨0⟩ := by
  have empty : Reachable ({} : System Nat) := .start
  have created := empty.step (.deed _ (.request (.create "main" {})))
  have submitted := created.step (.deed _ (.submit "main" "task" (.at 0) (.wait "gate" .done)))
  have first := submitted.step (.deed _ (.part (.shutdown "main") "first"))
  have called := first.step (.deed _ (.part (.shutdown "main") "second"))
  generalize given : (Session.perform (Session.perform (Session.perform (Session.perform
    ({} : System Nat) (.request (.create "main" {}))).2
    (.submit "main" "task" (.at 0) (.wait "gate" .done))).2
    (.part (.shutdown "main") "first")).2 (.part (.shutdown "main") "second")).2 = start at called
  have course : ((((start.moveWorker? ⟨0⟩).bind (·.moveWorker? ⟨0⟩)).bind (·.moveCall? 0)).bind
      (·.moveCall? 1)).any (fun blocked => (blocked.move? ⟨0⟩).isNone && (blocked.shutdowns ⟨0⟩).length == 2 &&
        (((Session.perform blocked (.request (.openGate "gate"))).2.moveWorker? ⟨0⟩).bind
          (·.moveWorker? ⟨0⟩)).any fun drained => (drained.shutdowns ⟨0⟩).length == 2 &&
            (drained.scheduler? ⟨0⟩).any Scheduler.isDrained) = true := by
    rw [← given]
    cbv
  obtain ⟨blocked, blocks, course⟩ := (Option.any_eq_true _ _).1 course
  simp only [Option.bind_eq_some_iff] at blocks
  obtain ⟨parked, ⟨begun, ⟨up, starts, begins⟩, parks⟩, blocks⟩ := blocks
  rw [Bool.and_eq_true, Bool.and_eq_true, Option.isNone_iff_eq_none, beq_iff_eq] at course
  obtain ⟨⟨still, two⟩, course⟩ := course
  obtain ⟨drained, drains, course⟩ := (Option.any_eq_true _ _).1 course
  obtain ⟨opened, opens, ends⟩ := Option.bind_eq_some_iff.1 drains
  rw [Bool.and_eq_true, beq_iff_eq] at course
  obtain ⟨host, hosted, free⟩ := (Option.any_eq_true _ _).1 course.2
  have waits : Reachable blocked :=
    (((called.step (.worker starts)).step (.worker begins)).step (.call parks)).step (.call blocks)
  have settled : blocked.IsSettled := isSettled_of_move? still
  have reachable : Reachable drained :=
    ((waits.step (.deed _ _)).step (.worker opens)).step (.worker ends)
  have vacant : drained.IsDrained ⟨0⟩ := ⟨host, hosted, free⟩
  exact ⟨blocked, drained, waits, settled, two, (Reachable.releases waits).1 settled, reachable,
    vacant, course.1, (Reachable.releases reachable).2.2 vacant⟩

end System

end Agenda
