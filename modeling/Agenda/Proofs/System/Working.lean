import Agenda.Proofs.Scheduler.Effect
import Agenda.Proofs.System.Acting
import Agenda.Proofs.System.Hosting

/-!
# How workers work

In each of its moves a worker begins, goes on with or ends the task in its hands.  What becomes known
in the move belongs to that task, and the failure hook is called where the task panics and nowhere
else.
-/

namespace Agenda

universe u

variable {V : Type u}

def Script.panic? : Script V → Option Payload
  | .done => none
  | .panic payload => some payload
  | .wait _ rest => rest.panic?
  | .threadName rest => rest.panic?
  | .submit _ _ _ _ rest => rest.panic?
  | .request _ rest => rest.panic?
  | .part _ rest => rest.panic?

def Hook.tells (task : TaskId) (payload : Payload) : Option Hook → List (Event V)
  | none => []
  | some hook => [.failed hook.label task payload.message]

/-- What a worker does in one move at the time `now` with the task in its hands, and what becomes
known by it. -/
inductive Beat (now : Int) (hook : Option Hook) :
    Option (TaskId × Work V) → List (Event V) → Option (TaskId × Work V) → Prop where
  | rest : Beat now hook none [] none
  | begin (task : TaskId) (label handle : Label) (script : Script V) :
      Beat now hook none [.began label handle (Clock.toMillis now)]
        (some (task, .task label handle script))
  | beginDeletion (task : TaskId) (cache : CacheId) (key : String) (generation : Nat) :
      Beat now hook none [] (some (task, .deletion cache key generation))
  | proceed {task : TaskId} {label handle : Label} {script rest : Script V}
      (replies : List (Reply V)) : rest.panic? = script.panic? →
      Beat now hook (some (task, .task label handle script))
        (replies.map (.answered label handle)) (some (task, .task label handle rest))
  | finish (task : TaskId) (label handle : Label) :
      Beat now hook (some (task, .task label handle .done)) [] none
  | fail (task : TaskId) (label handle : Label) (payload : Payload) :
      Beat now hook (some (task, .task label handle (.panic payload)))
        (Hook.tells task payload hook) none
  | finishDeletion (task : TaskId) (cache : CacheId) (key : String) (generation : Nat) :
      Beat now hook (some (task, .deletion cache key generation)) [] none

theorem Scheduler.fate?_of_look {ω : Type u} {scheduler : Scheduler ω} {now : Int} {task : TaskId}
    {work : ω} (looking : scheduler.worker = .looking)
    (busy : (scheduler.look now).worker.hand? = some (task, work)) :
    scheduler.roster.fate? task = some .pending ∧
      (scheduler.look now).roster.fate? task = some .fired := by
  unfold Scheduler.look at busy ⊢
  split at busy
  · cases busy
  · rename_i running
    rw [if_neg running]
    have effect := (chooses_choose scheduler now).effect looking
    cases place : (scheduler.choose now).worker with
    | busy id held =>
        rw [place] at busy effect
        cases busy
        have shown := effect.pending_of_began List.mem_cons_self
        exact ⟨shown.1, shown.2.1⟩
    | _ =>
        rw [place] at busy
        cases busy

namespace System

section Workers

variable {system middle moved : System V} {id : SchedulerId} {host : Scheduler (Work V)}
  {hook : Option Hook} {task : TaskId} {label handle : Label}

structure Works (system : System V) (id : SchedulerId) (hook : Option Hook) (moved : System V)
    (known : List (Event V)) : Prop where
  beat : Beat system.now hook (system.hand? id) known (moved.hand? id)
  others : ∀ other, other ≠ id → moved.hand? other = system.hand? other
  events : moved.events.toList = system.events.toList ++ known
  manned : moved.Manned

theorem works_of_call {call : Call} {known : List (Event V)} (manned : system.Manned)
    (found : call ∈ system.calls) (own : call.caller = .worker id label handle)
    (advances : Advances system call moved known) : Works system id hook moved known := by
  obtain ⟨task, script, held⟩ := manned.hands call found own
  refine ⟨?_, fun other _ => advances.hands other, advances.events,
    manned.goOn advances.hands advances.calls⟩
  rw [advances.hands, held]
  rcases advances.told with rfl | rfl
  · exact .proceed [] rfl
  · rw [own]
    exact .proceed [.ok] rfl

theorem works_moveLooking (manned : system.Manned) (found : system.scheduler? id = some host)
    (looking : host.worker = .looking) :
    ∃ known, Works system id hook (system.moveLooking id host) known := by
  have idle : system.hand? id = none := by
    rw [hand?_of_found found, looking]
    rfl
  have free : system.Free id := manned.free (by rw [idle]; nofun)
  have others (other : SchedulerId) (different : other ≠ id) :=
    hand?_putScheduler_of_ne system different (host.look system.now)
  have held := hand?_putScheduler_self found (host.look system.now)
  have quiet : NoneCalls system (system.putScheduler id (host.look system.now)) := .of_eq rfl
  cases place : (host.look system.now).worker with
  | busy task work =>
      rw [place] at held
      cases work with
      | task label handle script =>
          rw [moveLooking_of_task place]
          have shown : ((system.putScheduler id (host.look system.now)).report
              (.began label handle (Clock.toMillis system.now))).hand? id =
              some (task, .task label handle script) := held
          refine ⟨[.began label handle (Clock.toMillis system.now)], ?_, others, Array.toList_push,
            manned.change free others (.of_eq rfl)⟩
          rw [idle, shown]
          exact .begin task label handle script
      | deletion cache key generation =>
          have begun : system.moveLooking id host = system.putScheduler id (host.look system.now) := by
            simp only [moveLooking, place]
          rw [begun]
          refine ⟨[], ?_, others, (List.append_nil _).symm, manned.change free others quiet⟩
          rw [idle, held]
          exact .beginDeletion task cache key generation
  | _ =>
      rw [place] at held
      rw [moveLooking_of_rest (by rw [place]; rfl)]
      refine ⟨[], ?_, others, (List.append_nil _).symm, manned.change free others quiet⟩
      rw [idle, held]
      exact .rest

theorem works_put (manned : system.Manned) (found : system.scheduler? id = some host)
    (free : system.Free id) {new : Scheduler (Work V)}
    (beat : Beat system.now hook host.worker.hand? [] new.worker.hand?) :
    Works system id hook (system.putScheduler id new) [] := by
  have others (other : SchedulerId) (different : other ≠ id) :=
    hand?_putScheduler_of_ne system different new
  refine ⟨?_, others, (List.append_nil _).symm, manned.change free others (.of_eq rfl)⟩
  rw [hand?_of_found found, hand?_putScheduler_self found]
  exact beat

theorem Works.then_quiet {known : List (Event V)} (works : Works system id hook middle known)
    (quiet : Quiet middle moved) : Works system id hook moved known where
  beat := by
    rw [quiet.hands]
    exact works.beat
  others other different := (quiet.hands other).trans (works.others other different)
  events := by rw [quiet.events, works.events]
  manned := works.manned.goOn quiet.hands (.of_eq quiet.calls)

theorem works_failTask {payload : Payload} (manned : system.Manned)
    (found : system.scheduler? id = some host) (free : system.Free id)
    (busy : host.worker = .busy task (.task label handle (.panic payload))) :
    Works system id host.settings.hook (system.failTask id host task payload.message)
      (Hook.tells task payload host.settings.hook) := by
  have others (other : SchedulerId) (different : other ≠ id) :=
    hand?_putScheduler_of_ne system different (host.fail task payload.message).finish
  have held : (system.finishTask id (host.fail task payload.message)).hand? id = none := by
    refine (hand?_putScheduler_self found _).trans ?_
    rw [Scheduler.finish, Scheduler.worker_signalDrained]
    rfl
  have idle : (system.failTask id host task payload.message).hand? id = none := by
    rw [← held, failTask]
    cases host.settings.hook <;> rfl
  have fails : Beat system.now host.settings.hook (system.hand? id)
      (Hook.tells task payload host.settings.hook) none := by
    rw [hand?_of_found found, busy]
    exact .fail task label handle payload
  refine ⟨?_, ?_, ?_, ?_⟩
  · rw [idle]
    exact fails
  · intro other different
    rw [← others other different, failTask]
    cases host.settings.hook <;> rfl
  · rw [failTask]
    cases host.settings.hook with
    | none => exact (List.append_nil _).symm
    | some hook => exact Array.toList_push
  · refine manned.change free (fun other different => ?_) (.of_eq ?_)
    · rw [← others other different, failTask]
      cases host.settings.hook <;> rfl
    · rw [failTask]
      cases host.settings.hook <;> rfl

section Task

variable {script rest : Script V} (manned : system.Manned)
  (found : system.scheduler? id = some host) (free : system.Free id)
  (busy : host.worker = .busy task (.task label handle script))

include manned found free busy

theorem works_proceedTask (same : rest.panic? = script.panic?) :
    Works system id hook (system.proceedTask id host task label handle rest) [] := by
  refine works_put manned found free ?_
  rw [busy]
  exact .proceed [] same

theorem works_reportAnswer (same : rest.panic? = script.panic?) {answer : Reply V × System V}
    (quiet : Quiet (system.proceedTask id host task label handle rest) answer.2) :
    Works system id hook (reportAnswer label handle answer) [.answered label handle answer.1] := by
  have asks : Works system id hook answer.2 [] :=
    (works_proceedTask manned found free busy same).then_quiet quiet
  have held : (reportAnswer label handle answer).hand? id =
      some (task, .task label handle rest) :=
    (quiet.hands id).trans (hand?_putScheduler_self found _)
  refine ⟨?_, asks.others, ?_, asks.manned.goOn (fun _ => rfl) (.of_eq rfl)⟩
  · rw [hand?_of_found found, busy, held]
    exact .proceed [answer.1] same
  · have events := asks.events
    rw [List.append_nil] at events
    rw [reportAnswer, System.report, Array.toList_push, events]

/-- A worker goes on with its task, and makes a call that may have to wait. -/
theorem works_parts (same : rest.panic? = script.panic?)
    (parts : Parts (.worker id label handle)
      (system.proceedTask id host task label handle rest) moved) :
    ∃ known, Works system id hook moved known := by
  have proceeds : Works system id hook (system.proceedTask id host task label handle rest) [] :=
    works_proceedTask manned found free busy same
  have held : (system.proceedTask id host task label handle rest).hand? id =
      some (task, .task label handle rest) := hand?_putScheduler_self found _
  have kept : moved.Manned := proceeds.manned.parts parts fun own => by
    cases own
    exact ⟨task, rest, held⟩
  cases parts with
  | told hands events _ =>
      refine ⟨[.answered label handle .ok], ?_, fun other different => ?_, events, kept⟩
      · rw [hand?_of_found found, busy, hands, held]
        exact .proceed [.ok] same
      · exact (hands other).trans (proceeds.others other different)
  | waits call _ hands events _ =>
      refine ⟨[], ?_, fun other different => ?_, ?_, kept⟩
      · rw [hand?_of_found found, busy, hands, held]
        exact .proceed [] same
      · exact (hands other).trans (proceeds.others other different)
      · rw [events]
        exact (List.append_nil _).symm

theorem works_moveTask? (move : system.moveTask? id host task label handle script = some moved) :
    ∃ known, Works system id host.settings.hook moved known := by
  cases script with
  | done =>
      cases move
      refine ⟨[], works_put manned found free ?_⟩
      rw [busy, Scheduler.finish, Scheduler.worker_signalDrained]
      exact .finish task label handle
  | panic payload =>
      cases move
      exact ⟨_, works_failTask manned found free busy⟩
  | wait gate rest =>
      have same : rest.panic? = (Script.wait gate rest).panic? := rfl
      simp only [moveTask?] at move
      split at move <;> cases move
      exact ⟨[], works_proceedTask manned found free busy same⟩
  | threadName rest =>
      have same : rest.panic? = (Script.threadName rest).panic? := rfl
      cases move
      exact ⟨_, works_reportAnswer manned found free busy same (.refl _)⟩
  | submit target name due act rest =>
      have same : rest.panic? = (Script.submit target name due act rest).panic? := rfl
      cases move
      exact ⟨_, works_reportAnswer manned found free busy same (.submit _ _ _ _ _)⟩
  | request request rest =>
      have same : rest.panic? = (Script.request request rest).panic? := rfl
      obtain ⟨⟨reply, answered⟩, answer, equal⟩ := Option.map_eq_some_iff.1 move
      cases equal
      exact ⟨_, works_reportAnswer manned found free busy same (.answer? answer)⟩
  | part parting rest =>
      have same : rest.panic? = (Script.part parting rest).panic? := rfl
      simp only [moveTask?] at move
      split at move <;> cases move
      · exact ⟨_, works_reportAnswer manned found free busy same (.refl _)⟩
      · rename_i begun
        exact works_parts manned found free busy same (parts_part? begun)

end Task

theorem works_moveDeletion? {cacheId : CacheId} {key : String} {generation : Nat}
    (manned : system.Manned) (found : system.scheduler? id = some host)
    (busy : host.worker = .busy task (.deletion cacheId key generation))
    (move : system.moveDeletion? id host cacheId key generation = some moved) :
    Works system id hook moved [] := by
  have free : system.Free id := manned.free (by rw [hand?_of_found found, busy]; nofun)
  have ends : Works system id hook (system.finishTask id host) [] := by
    refine works_put manned found free ?_
    rw [busy, Scheduler.finish, Scheduler.worker_signalDrained]
    exact .finishDeletion task cacheId key generation
  unfold moveDeletion? at move
  split at move
  · cases move
    exact ends
  · split at move
    · cases move
      exact ends
    · split at move <;> cases move
      refine Works.then_quiet ?_ (.sweep _)
      exact ends.then_quiet (.of_eq rfl rfl rfl)

/-- Whatever a worker does in a move, it does with the task in its hands, and leaves the others
alone. -/
theorem works_moveWorker? (manned : system.Manned) (move : system.moveWorker? id = some moved) :
    ∃ host known, system.scheduler? id = some host ∧
      Works system id host.settings.hook moved known := by
  obtain ⟨host, found, taken⟩ := Option.bind_eq_some_iff.1 move
  refine ⟨host, ?_⟩
  have wakes {woken : Scheduler (Work V)} (woke : host.wake? system.now = some woken) :
      Works system id host.settings.hook (system.putScheduler id woken) [] := by
    have parked : host.worker.hand? = none := by
      rcases (Scheduler.wakes_of_wake? woke).dormant with worker | worker | ⟨due, worker⟩ <;>
        rw [worker] <;> rfl
    have free : system.Free id := manned.free (by rw [hand?_of_found found, parked]; nofun)
    refine works_put manned found free ?_
    rw [parked, (Scheduler.wakes_of_wake? woke).worker]
    exact .rest
  split at taken
  · rename_i looking
    cases taken
    have works : ∃ known, Works system id host.settings.hook (system.moveLooking id host) known :=
      works_moveLooking manned found looking
    obtain ⟨known, works⟩ := works
    exact ⟨known, found, works⟩
  · rename_i busy
    split at taken
    · rename_i position waits
      obtain ⟨call, label, handle, listed, own⟩ := eq_of_callOf? waits
      obtain ⟨known, advances⟩ := advances_moveCall? listed taken
      exact ⟨known, found, works_of_call manned (List.mem_of_getElem? listed) own advances⟩
    · rename_i none
      obtain ⟨known, works⟩ := works_moveTask? manned found (free_of_callOf? none) busy taken
      exact ⟨known, found, works⟩
  · rename_i busy
    exact ⟨[], found, works_moveDeletion? manned found busy taken⟩
  · obtain ⟨woken, woke, same⟩ := Option.map_eq_some_iff.1 taken
    cases same
    exact ⟨[], found, wakes woke⟩

theorem begins_moveWorker? {work : Work V} (move : system.moveWorker? id = some moved)
    (idle : system.hand? id = none) (busy : moved.hand? id = some (task, work)) :
    ∃ host changed, system.scheduler? id = some host ∧ moved.scheduler? id = some changed ∧
      host.roster.fate? task = some .pending ∧ changed.roster.fate? task = some .fired := by
  obtain ⟨host, found, taken⟩ := Option.bind_eq_some_iff.1 move
  rw [hand?_of_found found] at idle
  have parked {woken : Scheduler (Work V)} (woke : host.wake? system.now = some woken) :
      (system.putScheduler id woken).hand? id ≠ some (task, work) := by
    rw [hand?_putScheduler_self found, (Scheduler.wakes_of_wake? woke).worker]
    nofun
  split at taken
  · rename_i looking
    cases taken
    have seen : (system.moveLooking id host).scheduler? id = some (host.look system.now) := by
      rw [← scheduler?_putScheduler_self found (host.look system.now), moveLooking]
      split <;> rfl
    rw [hand?_of_found seen] at busy
    obtain ⟨pending, fired⟩ := Scheduler.fate?_of_look looking busy
    exact ⟨host, _, found, seen, pending, fired⟩
  · rename_i held
    rw [held] at idle
    cases idle
  · rename_i held
    rw [held] at idle
    cases idle
  · obtain ⟨woken, woke, same⟩ := Option.map_eq_some_iff.1 taken
    cases same
    exact absurd busy (parked woke)

end Workers

section Acts

variable {before after : System V} {id : SchedulerId} {who : Option SchedulerId}

/-- What is done from outside: workers keep what they have in their hands, and nothing becomes
known. -/
structure Spared (before after : System V) : Prop where
  hands : ∀ id, after.hand? id = before.hand? id
  events : after.events = before.events
  manned : after.Manned

theorem Quiet.spared (quiet : Quiet before after) (manned : before.Manned) : Spared before after :=
  ⟨quiet.hands, quiet.events, manned.goOn quiet.hands (.of_eq quiet.calls)⟩

theorem quiet_or_parts_perform (system : System V) (deed : Session.Deed V) :
    Quiet system (Session.perform system deed).2 ∨
      ∃ label, Parts (.helper label) system (Session.perform system deed).2 := by
  cases deed with
  | submit scheduler handle due script => exact .inl (.submit system scheduler handle due script)
  | request request =>
      simp only [Session.perform]
      cases answer : system.answer? request with
      | none => exact .inl (.refl system)
      | some answered => exact .inl (.answer? answer)
  | part parting helper =>
      simp only [Session.perform]
      split
      · exact .inl (.refl system)
      · rename_i begun
        exact .inr ⟨helper, parts_part? begun⟩

theorem events_perform (system : System V) (deed : Session.Deed V) :
    (Session.perform system deed).2.events = system.events := by
  rcases quiet_or_parts_perform system deed with quiet | ⟨_, parts⟩
  · exact quiet.events
  · exact parts.silent.2

theorem Act.spared (act : Act who before after) (manned : before.Manned) (outside : who = none) :
    Spared before after := by
  cases act with
  | deed _ deed =>
      rcases quiet_or_parts_perform before deed with quiet | ⟨_, parts⟩
      · exact quiet.spared manned
      · exact ⟨parts.silent.1, parts.silent.2, manned.parts parts nofun⟩
  | book _ _ booked => exact (Quiet.book booked).spared manned
  | confirm _ => exact (Quiet.confirm before _).spared manned
  | pass _ => exact ⟨fun _ => rfl, rfl, ⟨manned.hands⟩⟩
  | worker _ => cases outside
  | call found move =>
      rename_i call
      obtain ⟨known, advances⟩ := advances_moveCall? found move
      have silent : call.caller.answers = ([] : List (Event V)) := by
        cases named : call.caller with
        | helper label => rfl
        | worker id label handle =>
            rw [named] at outside
            cases outside
      have quiet : known = [] := by
        rcases advances.told with same | same
        · exact same
        · exact same.trans silent
      refine ⟨advances.hands, ?_, manned.goOn advances.hands advances.calls⟩
      rw [← Array.toList_inj, advances.events, quiet, List.append_nil]

theorem Act.works (act : Act who before after) (manned : before.Manned) (own : who = some id) :
    ∃ host known, before.scheduler? id = some host ∧
      Works before id host.settings.hook after known := by
  cases act with
  | worker move =>
      cases own
      exact works_moveWorker? manned move
  | call found move =>
      rename_i call
      obtain ⟨known, advances⟩ := advances_moveCall? found move
      obtain ⟨label, handle, named⟩ := eq_of_worker? own
      have listed := List.mem_of_getElem? found
      obtain ⟨task, script, held⟩ := manned.hands call listed named
      obtain ⟨host, seen, _⟩ := Option.bind_eq_some_iff.1 held
      exact ⟨host, known, seen, works_of_call manned listed named advances⟩
  | _ => cases own

theorem Step.act (step : Step before after) : ∃ who, Act who before after := by
  cases step with
  | deed asked => exact ⟨none, .deed before asked⟩
  | book located accessible booked => exact ⟨none, .book located accessible booked⟩
  | confirm held => exact ⟨none, .confirm held⟩
  | worker move => exact ⟨some _, .worker move⟩
  | call move =>
      obtain ⟨_, found, _⟩ := Option.bind_eq_some_iff.1 move
      exact ⟨_, .call found move⟩
  | pass order => exact ⟨none, .pass order⟩

theorem Manned.act (manned : before.Manned) (act : Act who before after) : after.Manned := by
  cases who with
  | none => exact (act.spared manned rfl).manned
  | some id =>
      obtain ⟨_, _, _, works⟩ := act.works manned rfl
      exact works.manned

theorem Reachable.manned {system : System V} (reachable : Reachable system) : system.Manned := by
  induction reachable with
  | start => exact ⟨nofun⟩
  | step _ step inductionHypothesis =>
      obtain ⟨_, act⟩ := step.act
      exact inductionHypothesis.act act

theorem Act.begins {task : TaskId} {work : Work V} (act : Act who before after) (own : who = some id)
    (idle : before.hand? id = none) (busy : after.hand? id = some (task, work)) :
    ∃ host changed, before.scheduler? id = some host ∧ after.scheduler? id = some changed ∧
      host.roster.fate? task = some .pending ∧ changed.roster.fate? task = some .fired := by
  cases act with
  | worker move =>
      cases own
      exact begins_moveWorker? move idle busy
  | call found move =>
      obtain ⟨known, advances⟩ := advances_moveCall? found move
      rw [advances.hands, idle] at busy
      cases busy
  | _ => cases own

end Acts

end System

end Agenda
