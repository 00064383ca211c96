import Agenda.Proofs.System.Quiet
import Agenda.Proofs.System.Reach

/-!
# Who does what

Each step of a system is done by one of the workers or by somebody outside.  A call, whoever made it,
leaves all workers with what they have in their hands, and tells its caller when it returns.
-/

namespace Agenda

universe u

variable {V : Type u}

def Caller.worker? : Caller → Option SchedulerId
  | .helper _ => none
  | .worker id _ _ => some id

/-- What becomes known when a call returns to its caller. -/
def Caller.answers : Caller → List (Event V)
  | .helper _ => []
  | .worker _ scheduler handle => [.answered scheduler handle .ok]

namespace System

inductive Act : Option SchedulerId → System V → System V → Prop where
  | deed (system : System V) (deed : Session.Deed V) :
      Act none system (Session.perform system deed).2
  | book {system locked : System V} {label : Label} {id : CacheId} {cache : Cache V}
      {key : String} {access : Access V} {booking : Booking V} :
      system.cacheAt? label = some (id, cache) → system.isAccessible id key access = true →
      system.book id cache key access = .ok (booking, locked) → Act none system locked
  | confirm {system : System V} {booking : Booking V} :
      booking ∈ system.bookings → Act none system (system.confirm booking).2
  | pass {system : System V} {later : Int} :
      system.now ≤ later → Act none system { system with now := later }
  | worker {system moved : System V} {id : SchedulerId} :
      system.moveWorker? id = some moved → Act (some id) system moved
  | call {system moved : System V} {position : Nat} {call : Call} :
      system.calls[position]? = some call → system.moveCall? position = some moved →
      Act call.caller.worker? system moved

theorem Act.step {who : Option SchedulerId} {before after : System V} (act : Act who before after) :
    Step before after := by
  cases act with
  | deed _ asked => exact .deed before asked
  | book located accessible booked => exact .book located accessible booked
  | confirm held => exact .confirm held
  | pass order => exact .pass order
  | worker move => exact .worker move
  | call _ move => exact .call move

/-- Whoever waits for a call of its own is in the middle of the task that made the call. -/
structure Manned (system : System V) : Prop where
  hands : ∀ call ∈ system.calls, ∀ {id label handle}, call.caller = .worker id label handle →
    ∃ task script, system.hand? id = some (task, .task label handle script)

def Free (system : System V) (id : SchedulerId) : Prop :=
  ∀ call ∈ system.calls, call.caller.worker? ≠ some id

/-- All who wait for a call have waited for one before. -/
def NoneCalls (before after : System V) : Prop :=
  ∀ call ∈ after.calls, ∃ earlier ∈ before.calls, earlier.caller = call.caller

section Calls

variable {system before middle after moved : System V} {caller : Caller} {id : SchedulerId}
  {host : Scheduler (Work V)}

inductive Parts (caller : Caller) (before after : System V) : Prop where
  | told : (∀ id, after.hand? id = before.hand? id) →
      after.events.toList = before.events.toList ++ caller.answers →
      after.calls = before.calls → Parts caller before after
  | waits (call : Call) : call.caller = caller → (∀ id, after.hand? id = before.hand? id) →
      after.events = before.events → after.calls = before.calls ++ [call] →
      Parts caller before after

theorem Parts.silent {label : Label} (parts : Parts (.helper label) before after) :
    (∀ id, after.hand? id = before.hand? id) ∧ after.events = before.events := by
  cases parts with
  | told hands events _ =>
      refine ⟨hands, ?_⟩
      rw [← Array.toList_inj, events]
      exact List.append_nil _
  | waits _ _ hands events _ => exact ⟨hands, events⟩

theorem Quiet.parts (quiet : Quiet before middle) (parts : Parts caller middle after) :
    Parts caller before after := by
  cases parts with
  | told hands events calls =>
      refine .told (fun id => (hands id).trans (quiet.hands id)) ?_ (calls.trans quiet.calls)
      rw [events, quiet.events]
  | waits call own hands events calls =>
      refine .waits call own (fun id => (hands id).trans (quiet.hands id))
        (events.trans quiet.events) ?_
      rw [calls, quiet.calls]

theorem parts_returnTo (system : System V) (caller : Caller) :
    Parts caller system (system.returnTo caller) := by
  cases caller with
  | helper label => exact .told (fun _ => rfl) (List.append_nil _).symm rfl
  | worker id scheduler handle => exact .told (fun _ => rfl) Array.toList_push rfl

theorem parts_awaitExit (caller : Caller) (found : system.scheduler? id = some host) :
    Parts caller system (system.awaitExit caller id host) := by
  unfold awaitExit
  split
  · exact parts_returnTo system caller
  · have joined : Quiet system (system.putScheduler id host.join) := .put found rfl
    exact joined.parts (.waits _ rfl (fun _ => rfl) rfl rfl)

theorem parts_leave (system : System V) (caller : Caller) (id : SchedulerId) :
    Parts caller system (system.leave caller id) := by
  unfold leave
  split
  · exact parts_returnTo system caller
  · split
    · exact parts_returnTo system caller
    · rename_i found
      exact parts_awaitExit caller found

theorem parts_shutdown (caller : Caller) (found : system.scheduler? id = some host) :
    Parts caller system (system.shutdown caller id host) := by
  unfold shutdown
  split
  · refine Quiet.parts (.put found ?_) (parts_returnTo _ caller)
    unfold Scheduler.stopInside
    split <;> rfl
  · exact .waits _ rfl (fun _ => rfl) rfl rfl

theorem parts_release (system : System V) (caller : Caller) (label : Label) (id : SchedulerId) :
    Parts caller system (system.release caller label id) := by
  refine Quiet.parts (.trans ?_ (.sweep _)) (parts_leave _ caller id)
  exact .of_eq rfl rfl rfl

theorem parts_releaseCache (system : System V) (caller : Caller) (label : Label) (id : CacheId)
    (scheduler : SchedulerId) : Parts caller system (system.releaseCache caller label id scheduler) := by
  have swept : Quiet system
      ({ system with cacheLabels := system.cacheLabels.erase label } : System V).sweep := by
    refine .trans ?_ (.sweep _)
    exact .of_eq rfl rfl rfl
  unfold releaseCache
  dsimp only
  split
  · exact swept.parts (parts_returnTo _ caller)
  · exact swept.parts (parts_leave _ caller scheduler)

theorem parts_part? {parting : Parting} (begun : system.part? caller parting = .ok after) :
    Parts caller system after := by
  cases parting with
  | shutdown label =>
      simp only [part?] at begun
      split at begun <;> cases begun
      rename_i located
      exact parts_shutdown caller (scheduler?_of_schedulerAt? located)
  | release label =>
      simp only [part?] at begun
      split at begun <;> cases begun
      exact parts_release system caller label _
  | releaseCache label =>
      simp only [part?] at begun
      split at begun <;> cases begun
      exact parts_releaseCache system caller label _ _

/-- What the move of a call does: the call goes on, or it is over and its caller is told. -/
structure Advances (system : System V) (call : Call) (moved : System V) (known : List (Event V)) :
    Prop where
  hands : ∀ id, moved.hand? id = system.hand? id
  told : known = [] ∨ known = call.caller.answers
  events : moved.events.toList = system.events.toList ++ known
  calls : NoneCalls system moved

theorem advances_setStage {position : Nat} {call : Call} (found : system.calls[position]? = some call)
    (stage : Stage) : Advances system call (system.setStage position call stage) [] where
  hands _ := rfl
  told := .inl rfl
  events := (List.append_nil _).symm
  calls other listed := by
    rcases List.mem_or_eq_of_mem_set listed with earlier | rfl
    · exact ⟨other, earlier, rfl⟩
    · exact ⟨call, List.mem_of_getElem? found, rfl⟩

theorem advances_endCall (system : System V) (position : Nat) (call : Call) :
    Advances system call (system.endCall position call) call.caller.answers := by
  have swept : Quiet ({ system with calls := system.calls.eraseIdx position } : System V)
      ({ system with calls := system.calls.eraseIdx position } : System V).sweep := .sweep _
  have fewer (other : Call) (listed : other ∈ system.calls.eraseIdx position) :
      ∃ earlier ∈ system.calls, earlier.caller = other.caller :=
    ⟨other, (List.eraseIdx_sublist system.calls position).subset listed, rfl⟩
  refine ⟨fun id => ?_, .inr rfl, ?_, fun other listed => fewer other ?_⟩
  · refine Eq.trans ?_ (swept.hands id)
    rw [endCall]
    cases call.caller <;> rfl
  · rw [endCall]
    cases call.caller with
    | helper label => exact (List.append_nil _).symm
    | worker id scheduler handle => exact Array.toList_push
  · rw [endCall] at listed
    cases told : call.caller <;> rw [told] at listed <;> exact listed

theorem Quiet.advances {call : Call} {known : List (Event V)} (quiet : Quiet before middle)
    (advances : Advances middle call after known) : Advances before call after known where
  hands id := (advances.hands id).trans (quiet.hands id)
  told := advances.told
  events := by rw [advances.events, quiet.events]
  calls other listed := by
    rw [← quiet.calls]
    exact advances.calls other listed

theorem advances_moveCall? {position : Nat} {call : Call}
    (found : system.calls[position]? = some call) (move : system.moveCall? position = some moved) :
    ∃ known, Advances system call moved known := by
  obtain ⟨_, same, onTarget⟩ := Option.bind_eq_some_iff.1 move
  cases found.symm.trans same
  obtain ⟨scheduler, target, taken⟩ := Option.bind_eq_some_iff.1 onTarget
  split at taken
  · split at taken
    · have closed : scheduler.close.worker = scheduler.worker := by
        unfold Scheduler.close
        split <;> rfl
      dsimp only at taken
      split at taken <;> cases taken
      · exact ⟨_, (Quiet.put target closed).advances (advances_endCall _ position call)⟩
      · have joined : Quiet system (system.putScheduler call.scheduler scheduler.close.join) :=
          .put target closed
        have still : (system.putScheduler call.scheduler
            scheduler.close.join).calls[position]? = some call := found
        exact ⟨_, joined.advances (advances_setStage still .joining)⟩
    · cases taken
      exact ⟨_, advances_setStage found _⟩
  · split at taken <;> cases taken
    exact ⟨_, advances_setStage found .checking⟩
  · split at taken <;> cases taken
    exact ⟨_, advances_endCall system position call⟩

end Calls

section Manned

variable {system before after : System V} {caller : Caller} {id : SchedulerId}

theorem NoneCalls.of_eq (same : after.calls = before.calls) : NoneCalls before after := by
  intro call listed
  rw [same] at listed
  exact ⟨call, listed, rfl⟩

theorem Manned.goOn (manned : before.Manned) (hands : ∀ id, after.hand? id = before.hand? id)
    (calls : NoneCalls before after) : after.Manned := by
  refine ⟨fun call listed {id label handle} own => ?_⟩
  obtain ⟨earlier, held, same⟩ := calls call listed
  rw [hands]
  exact manned.hands earlier held (same.trans own)

/-- A worker that waits for no call may take anything into its hands. -/
theorem Manned.change (manned : before.Manned) (free : before.Free id)
    (others : ∀ other, other ≠ id → after.hand? other = before.hand? other)
    (calls : NoneCalls before after) : after.Manned := by
  refine ⟨fun call listed {other label handle} own => ?_⟩
  obtain ⟨earlier, held, same⟩ := calls call listed
  have different : other ≠ id := by
    rintro rfl
    exact free earlier held (congrArg Caller.worker? (same.trans own))
  rw [others other different]
  exact manned.hands earlier held (same.trans own)

theorem Manned.parts (manned : before.Manned) (parts : Parts caller before after)
    (own : ∀ {id label handle}, caller = .worker id label handle →
      ∃ task script, before.hand? id = some (task, .task label handle script)) : after.Manned := by
  cases parts with
  | told hands _ calls => exact manned.goOn hands (.of_eq calls)
  | waits call made hands _ calls =>
      refine ⟨fun other listed {id label handle} named => ?_⟩
      rw [calls, List.mem_append, List.mem_singleton] at listed
      rw [hands]
      rcases listed with earlier | rfl
      · exact manned.hands other earlier named
      · exact own (made.symm.trans named)

theorem eq_of_worker? {id : SchedulerId} (same : caller.worker? = some id) :
    ∃ label handle, caller = .worker id label handle := by
  cases caller with
  | helper label => cases same
  | worker other label handle =>
      cases same
      exact ⟨label, handle, rfl⟩

theorem Manned.free (manned : system.Manned)
    (idle : ∀ {task label handle script}, system.hand? id ≠ some (task, .task label handle script)) :
    system.Free id := by
  intro call listed own
  obtain ⟨label, handle, named⟩ := eq_of_worker? own
  obtain ⟨task, script, held⟩ := manned.hands call listed named
  exact idle held

theorem free_of_callOf? (none : system.callOf? id = none) : system.Free id := by
  intro call listed own
  obtain ⟨label, handle, named⟩ := eq_of_worker? own
  have waits := List.findIdx?_eq_none_iff.1 none call listed
  rw [named] at waits
  simp [Caller.isWorkerOf] at waits

theorem eq_of_callOf? {position : Nat} (found : system.callOf? id = some position) :
    ∃ call label handle, system.calls[position]? = some call ∧
      call.caller = .worker id label handle := by
  obtain ⟨inside, own, _⟩ := List.findIdx?_eq_some_iff_getElem.1 found
  refine ⟨system.calls[position], ?_⟩
  cases named : system.calls[position].caller with
  | helper label =>
      rw [named] at own
      cases own
  | worker other label handle =>
      rw [named] at own
      obtain rfl : other = id := of_decide_eq_true own
      exact ⟨label, handle, List.getElem?_eq_getElem inside, rfl⟩

end Manned

end System

end Agenda
