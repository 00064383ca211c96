import Agenda.Proofs.Deletion.Accessing

/-!
# Acceptance and refusal

A submission is accepted exactly if its scheduler is not stopped at that moment, whoever makes it: a
caller from outside, a task, or an access to a cache.  Then the task bears the next number of the
scheduler; in every other case no number is used up.
-/

namespace Agenda

universe u

variable {V : Type u}

def Access.value? (access : Access V) (old : Option (Lease V)) : Option V :=
  match access with
  | .read => old.map Lease.value
  | .add value _ => some value
  | .set value _ => some value

namespace System

variable {system asked after : System V} {operation : Operation V} {id : SchedulerId}
  {host target : Scheduler (Work V)} {deed : Session.Deed V} {submission : Submission V}
  {task : TaskId} {label handle : Label} {due : Due} {script : Script V}

structure Admitted (system : System V) (operation : Operation V) (after : System V)
    (submission : Submission V) (task : TaskId) : Prop where
  /-- The scheduler has one task more, which is queued, and no other scheduler has. -/
  enlists : Enlists [(submission.scheduler, ⟨submission.due, task, submission.work⟩)] system after
  queued : ⟨submission.due, task, submission.work⟩ ∈ after.queued submission.scheduler
  /-- Who submits a task is told its number. -/
  direct : operation.access? system = none → operation.reply? system = some (.accepted task)
  /-- An access answers what it finds, and the number goes with the entry. -/
  access : ∀ {place key access}, operation.access? system = some (place, key, access) →
    operation.reply? system = some (access.answer (system.lease? place key)) ∧
      ∃ lease, after.lease? place key = some lease ∧ lease.deletion = task ∧
        lease.deadline = submission.due ∧
        access.value? (system.lease? place key) = some lease.value

structure Denied (system : System V) (operation : Operation V) (after : System V) (name : String) :
    Prop where
  enlists : Enlists [] system after
  direct : operation.access? system = none →
    operation.reply? system = some (.refused (.stopped name))
  /-- A read answers all the same, a write fails, and the entries stay what they are. -/
  access : ∀ {place key access}, operation.access? system = some (place, key, access) →
    operation.reply? system = some (access.denial name (system.lease? place key)) ∧
      ∀ place key, after.lease? place key = system.lease? place key

/-- A submission is accepted under the next number if its scheduler is not stopped, and refused if it
is. -/
def Decides (system : System V) (operation : Operation V) (after : System V)
    (submission : Submission V) : Prop :=
  ∃ host, system.scheduler? submission.scheduler = some host ∧
    (host.isStopped = false → system.Admitted operation after submission host.roster.nextId) ∧
    (host.isStopped = true → system.Denied operation after host.name)

theorem Poses.exists_host (poses : system.Poses operation asked deed after)
    (found : asked.scheduler? id = some target) :
    ∃ host, system.scheduler? id = some host ∧ target = { host with worker := target.worker } := by
  cases poses with
  | call => exact ⟨target, found, rfl⟩
  | @task own host _ task label handle script rest located busy =>
      by_cases same : id = own
      · subst same
        cases (scheduler?_putScheduler_self located _).symm.trans found
        exact ⟨host, located, rfl⟩
      · exact ⟨target, (scheduler?_putScheduler_of_ne system same _).symm.trans found, rfl⟩

theorem submission?_submit (submitted :
      asked.submission? (.submit label handle due script) = some submission) :
    ∃ id target instant, asked.schedulerAt? label = some (id, target) ∧
      due.instant? asked.now = some instant ∧
      submission = ⟨id, instant, .task label handle script⟩ := by
  obtain ⟨⟨id, target⟩, located, submitted⟩ := Option.bind_eq_some_iff.1 submitted
  obtain ⟨instant, reached, rfl⟩ := Option.map_eq_some_iff.1 submitted
  exact ⟨id, target, instant, located, reached, rfl⟩

theorem submit_of_none (none : asked.submission? (.submit label handle due script) = none) :
    (asked.submit label handle due script).2 = asked := by
  simp only [submission?] at none
  unfold submit
  split
  · rfl
  · rename_i id target located
    rw [located, Option.bind_some, Option.map_eq_none_iff] at none
    rw [none]

theorem submit_of_isStopped (located : asked.schedulerAt? label = some (id, target)) {instant : Int}
    (reached : due.instant? asked.now = some instant) (stopped : target.isStopped = true)
    (handle : Label) (script : Script V) :
    asked.submit label handle due script = (.refused (.stopped target.name), asked) :=
  (refuses_of_isStopped (scheduler?_of_schedulerAt? located) stopped).tasks .call located reached

theorem admits_submit (located : asked.schedulerAt? label = some (id, target)) {instant : Int}
    (reached : due.instant? asked.now = some instant) (running : target.isStopped = false) :
    (asked.submit label handle due script).1 = .accepted target.roster.nextId ∧
      Enlists [(id, ⟨instant, target.roster.nextId, .task label handle script⟩)] asked
        (asked.submit label handle due script).2 ∧
      ⟨instant, target.roster.nextId, .task label handle script⟩ ∈
        (asked.submit label handle due script).2.queued id := by
  have found := scheduler?_of_schedulerAt? located
  obtain ⟨task, filled, accepted, taken⟩ := submit_of_running located running reached handle script
  obtain ⟨_, rfl, _, _, _, full⟩ := Scheduler.eq_of_submit? accepted
  have given : asked.submit? id instant (.task label handle script) =
      some (target.roster.nextId, asked.putScheduler id filled) := by
    rw [submit?_of_found found, accepted, Option.map_some]
  rw [taken]
  refine ⟨rfl, (Enlists.submit? given).aside rfl, ?_⟩
  have placed : ({ asked.putScheduler id filled with
      handles := asked.handles.insert handle ⟨id, target.roster.nextId⟩ } : System V).scheduler? id
      = some filled := scheduler?_putScheduler_self found filled
  exact (queued_of_found placed) ▸ full ▸ Heap.mem_insert_iff.2 (.inl rfl)

theorem enlists_perform (other : ∀ label key access, deed ≠ .request (.access label key access))
    (none : asked.submission? deed = none) : Enlists [] asked (Session.perform asked deed).2 := by
  cases deed with
  | submit label handle due script =>
      rw [Session.perform, submit_of_none none]
      exact .refl asked
  | request request =>
      rw [Session.perform]
      cases answer : asked.answer? request with
      | none => exact .refl asked
      | some answered =>
          refine .answer? (fun label key access same => ?_) answer
          exact other label key access (congrArg Session.Deed.request same)
  | part parting helper =>
      simp only [Session.perform]
      split
      · exact .refl asked
      · rename_i begun
        exact .part? begun

theorem Does.enlists_of_access (does : system.Does operation after) (reachable : Reachable system)
    {accessed : CacheId × String × Access V} (access : operation.access? system = some accessed)
    (none : operation.submission? system = none) : Enlists [] system after := by
  rcases does.access_cases reachable access with idles | ⟨locked, booking, ends, _⟩
  · exact idles.enlists
  · obtain ⟨cache, host, reply, _, _, _, submission, comesOut⟩ := ends.comesOut reachable
    rw [none] at submission
    have never := Option.map_eq_none_iff.1 submission.symm
    cases comesOut with
    | accepted _ reached => cases never.symm.trans reached
    | overflow _ _ enlists => exact enlists
    | refused _ reached => exact absurd never reached

theorem Does.enlists_of_posed (does : system.Does operation after) (reachable : Reachable system)
    (posed : operation.posed? system = some (asked, deed))
    (none : operation.submission? system = none) : Enlists [] system after := by
  have poses := does.poses posed
  obtain ⟨events, rfl⟩ := poses.comes
  have plain (enlists : Enlists [] asked (Session.perform asked deed).2) :
      Enlists [] system { (Session.perform asked deed).2 with events } :=
    (poses.enlists.trans enlists).aside rfl
  by_cases access : ∃ label key access, deed = .request (.access label key access)
  · obtain ⟨label, key, access, rfl⟩ := access
    cases located : asked.cacheAt? label with
    | none =>
        refine plain ?_
        rw [Session.perform, answer?, access?, located]
        exact .refl asked
    | some found =>
        obtain ⟨place, cache⟩ := found
        exact does.enlists_of_access reachable (Operation.access?_of_posed posed located) none
  · refine plain (enlists_perform (fun label key kind same => access ⟨label, key, kind, same⟩) ?_)
    exact (Operation.submission?_of_posed posed).symm.trans none

theorem enlists_moveTask? (found : system.scheduler? id = some host)
    (move : system.moveTask? id host task label handle script = some after)
    (submits : ∀ target name due act rest, script ≠ .submit target name due act rest)
    (requests : ∀ request rest, script ≠ .request request rest) : Enlists [] system after := by
  have proceeds (rest : Script V) := Enlists.proceedTask found task label handle rest
  cases script with
  | done =>
      cases move
      exact .finishTask found
  | panic payload =>
      cases move
      exact .failTask found task _
  | wait gate rest =>
      simp only [moveTask?] at move
      split at move <;> cases move
      exact proceeds rest
  | threadName rest =>
      cases move
      exact (proceeds rest).aside rfl
  | submit target name due act rest => exact absurd rfl (submits _ _ _ _ _)
  | request request rest => exact absurd rfl (requests _ _)
  | part parting rest =>
      simp only [moveTask?] at move
      split at move <;> cases move
      · exact (proceeds rest).aside rfl
      · rename_i begun
        exact (proceeds rest).trans (.part? begun)

/-- No scheduler is given a task in an operation in which none is submitted. -/
theorem Does.enlists (does : system.Does operation after) (reachable : Reachable system)
    (none : operation.submission? system = none) : Enlists [] system after := by
  cases posed : operation.posed? system with
  | some call => exact does.enlists_of_posed reachable posed none
  | none =>
      cases does with
      | deed deed => cases posed
      | book _ _ booked => exact .book booked
      | confirm held => exact (Does.confirm held).enlists_of_access reachable rfl none
      | call move => exact .moveCall? move
      | pass _ => exact .of_eq rfl
      | @worker moved id move =>
          obtain ⟨host, found, taken⟩ := Option.bind_eq_some_iff.1 move
          split at taken
          · cases taken
            exact .moveLooking found
          · rename_i busy
            split at taken
            · exact .moveCall? taken
            · rename_i free
              refine enlists_moveTask? found taken ?_ ?_
              · rintro target name due act rest rfl
                simp [Operation.posed?, free, found, busy] at posed
              · rintro request rest rfl
                simp [Operation.posed?, free, found, busy] at posed
          · exact .moveDeletion? found taken
          · obtain ⟨woken, woke, rfl⟩ := Option.map_eq_some_iff.1 taken
            exact .goOn found (Scheduler.wakes_of_wake? woke).continues

/-- What is submitted is submitted by itself, or for the entry of an access. -/
theorem Does.submission_cases (does : system.Does operation after) (reachable : Reachable system)
    (submitted : operation.submission? system = some submission) :
    (∃ locked booking, system.Ends operation locked booking after ∧
      operation.access? system = some (booking.cache, booking.key, booking.access)) ∨
    ∃ asked label handle due script,
      operation.posed? system = some (asked, .submit label handle due script) ∧
        asked.submission? (.submit label handle due script) = some submission ∧
        operation.access? system = none := by
  cases access : operation.access? system with
  | some accessed =>
      obtain ⟨place, key, kind⟩ := accessed
      rcases does.access_cases reachable access with
        idles | ⟨locked, booking, ends, rfl, rfl, rfl⟩
      · cases idles.submission.symm.trans submitted
      · exact .inl ⟨locked, booking, ends, rfl⟩
  | none =>
      refine .inr ?_
      cases posed : operation.posed? system with
      | none =>
          cases operation with
          | confirm booking => cases access
          | _ => simp [Operation.submission?, posed] at submitted
      | some call =>
          obtain ⟨asked, deed⟩ := call
          rw [Operation.submission?_of_posed posed] at submitted
          cases deed with
          | submit label handle due script =>
              exact ⟨asked, label, handle, due, script, rfl, submitted, rfl⟩
          | part parting helper => cases submitted
          | request request =>
              cases request with
              | access label key kind =>
                  obtain ⟨⟨place, cache⟩, located, _⟩ := Option.bind_eq_some_iff.1 submitted
                  cases access.symm.trans (Operation.access?_of_posed posed located)
              | _ => cases submitted

/-- The deletion of an entry is accepted exactly if its scheduler is not stopped. -/
theorem Ends.admitted_or_denied {locked : System V} {booking : Booking V}
    (ends : system.Ends operation locked booking after) (reachable : Reachable system)
    (access : operation.access? system = some (booking.cache, booking.key, booking.access))
    (submitted : operation.submission? system = some submission) :
    system.Decides operation after submission := by
  obtain ⟨cache, host, reply, found, hosted, told, submission, comesOut⟩ := ends.comesOut reachable
  rw [submission] at submitted
  obtain ⟨deadline, reached, rfl⟩ := Option.map_eq_some_iff.1 submitted
  refine ⟨host, hosted, fun running => ?_, fun stopped => ?_⟩
  · cases comesOut with
    | accepted _ due valued entries enlists queued =>
        cases reached.symm.trans due
        refine ⟨enlists, queued, fun none => ?_, fun seen => ?_⟩
        · cases access.symm.trans none
        · cases access.symm.trans seen
          exact ⟨told, _, (entries _ _).trans (if_pos ⟨rfl, rfl⟩), rfl, rfl, valued⟩
    | overflow never => cases reached.symm.trans never
    | refused stopped => cases running.symm.trans stopped
  · cases comesOut with
    | accepted running => cases stopped.symm.trans running
    | overflow never => cases reached.symm.trans never
    | refused _ _ entries enlists =>
        refine ⟨enlists, fun none => ?_, fun seen => ?_⟩
        · cases access.symm.trans none
        · cases access.symm.trans seen
          exact ⟨told, entries⟩

theorem Poses.admitted_or_denied
    (poses : system.Poses operation asked (.submit label handle due script) after)
    (posed : operation.posed? system = some (asked, .submit label handle due script))
    (direct : operation.access? system = none)
    (submitted : asked.submission? (.submit label handle due script) = some submission) :
    system.Decides operation after submission := by
  obtain ⟨id, target, instant, located, reached, rfl⟩ := submission?_submit submitted
  have told := Operation.reply?_of_posed posed
  obtain ⟨host, found, same⟩ := poses.exists_host (scheduler?_of_schedulerAt? located)
  have roster : target.roster = host.roster := by rw [same]
  have stops : target.isStopped = host.isStopped := by rw [same]; rfl
  have name : target.name = host.name := by rw [same]; rfl
  obtain ⟨events, rfl⟩ := poses.comes
  have none {accessed : CacheId × String × Access V} : operation.access? system ≠ some accessed := by
    rw [direct]
    nofun
  refine ⟨host, found, fun running => ?_, fun stopped => ?_⟩
  · obtain ⟨answer, enlists, queued⟩ := admits_submit located reached (stops.trans running)
    rw [← roster]
    refine ⟨(poses.enlists.trans enlists).aside rfl, queued, fun _ => ?_, fun seen => absurd seen none⟩
    exact told.trans (congrArg some answer)
  · have refused := submit_of_isStopped located reached (stops.trans stopped) handle script
    refine ⟨?_, fun _ => ?_, fun seen => absurd seen none⟩
    · rw [Session.perform, refused]
      exact poses.enlists.aside rfl
    · rw [told, Session.perform, refused, name]

/-- A submission is accepted exactly if its scheduler is not stopped. -/
theorem Does.admitted_or_denied (does : system.Does operation after) (reachable : Reachable system)
    (submitted : operation.submission? system = some submission) :
    system.Decides operation after submission := by
  rcases does.submission_cases reachable submitted with
    ⟨locked, booking, ends, access⟩ | ⟨asked, label, handle, due, script, posed, given, direct⟩
  · exact ends.admitted_or_denied reachable access submitted
  · exact (does.poses posed).admitted_or_denied posed direct given

end System

end Agenda
