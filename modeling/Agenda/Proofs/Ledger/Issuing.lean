import Mathlib
import Agenda.Proofs.Ledger.Admitting
import Agenda.Proofs.System.Tracing

/-!
# The numbers of tasks

In every run a scheduler accepts what is submitted to it until it is stopped, and nothing afterwards.
The tasks bear the numbers from one on in the order of their acceptance, whether a caller, a task or a
cache has submitted them, and nothing else uses up a number.
-/

namespace Agenda

universe u

variable {V : Type u}

namespace Operation

/-- In the operation a task is submitted to the scheduler `id`, which is not stopped. -/
def accepts (system : System V) (id : SchedulerId) (operation : Operation V) : Bool :=
  (operation.submission? system).any fun submission =>
    submission.scheduler = id && (system.scheduler? id).any fun host => !host.isStopped

/-- An operation that is not to use up the number of a task. -/
inductive IsVain (system : System V) (operation : Operation V) : Prop where
  | cancel {asked : System V} {label handle : Label} :
      operation.posed? system = some (asked, .request (.cancel label handle)) →
      IsVain system operation
  | absent {place : CacheId} {key : String} :
      operation.access? system = some (place, key, .read) → system.lease? place key = none →
      IsVain system operation
  | overflow : operation.reply? system = some .overflow → IsVain system operation
  | refused {error : SchedulerError} :
      operation.reply? system = some (.refused error) → IsVain system operation
  /-- An addition under a present key fails like this, and so does a refused write. -/
  | failed {error : CacheError} :
      operation.reply? system = some (.failed error) → IsVain system operation

end Operation

namespace System

def accepted (id : SchedulerId) (record : List (System V × Operation V)) : Nat :=
  record.countP fun entry => entry.2.accepts entry.1 id

def assigned (id : SchedulerId) (record : List (System V × Operation V)) : List TaskId :=
  record.filterMap fun entry => if entry.2.accepts entry.1 id then
    (entry.1.scheduler? id).map fun host => host.roster.nextId else none

variable {system first last after : System V} {operation : Operation V} {id : SchedulerId}
  {host : Scheduler (Work V)} {submission : Submission V} {task : TaskId}
  {record : List (System V × Operation V)}

theorem accepts_of_submission? (submitted : operation.submission? system = some submission)
    (found : system.scheduler? submission.scheduler = some host) (id : SchedulerId) :
    operation.accepts system id = (decide (submission.scheduler = id) && !host.isStopped) := by
  rw [Operation.accepts, submitted, Option.any_some]
  by_cases own : submission.scheduler = id
  · rw [← own, found, Option.any_some]
  · simp [own]

theorem accepts_of_none (none : operation.submission? system = none) (id : SchedulerId) :
    operation.accepts system id = false := by
  rw [Operation.accepts, none]
  rfl

theorem exists_of_accepts (accepts : operation.accepts system id = true) :
    ∃ host, system.scheduler? id = some host ∧ host.isStopped = false := by
  obtain ⟨submission, _, accepts⟩ := (Option.any_eq_true _ _).1 accepts
  obtain ⟨host, found, running⟩ := (Option.any_eq_true _ _).1 (Bool.and_eq_true_iff.1 accepts).2
  exact ⟨host, found, Bool.not_eq_true' _ ▸ running⟩

/-- The number of accepted tasks grows by the submission that is accepted. -/
theorem Does.issued (does : system.Does operation after) (reachable : Reachable system)
    (id : SchedulerId) :
    after.issued id = system.issued id + (operation.accepts system id).toNat := by
  cases submitted : operation.submission? system with
  | none =>
      rw [(does.enlists reachable submitted).issued, accepts_of_none submitted]
      rfl
  | some submission =>
      obtain ⟨host, found, admitted, denied⟩ := does.admitted_or_denied reachable submitted
      rw [accepts_of_submission? submitted found]
      cases stopped : host.isStopped with
      | true =>
          rw [(denied stopped).enlists.issued]
          simp
      | false =>
          rw [(admitted stopped).enlists.issued, List.countP_singleton]
          by_cases own : submission.scheduler = id <;> simp [own]

theorem accepted_append (record : List (System V × Operation V)) (system : System V)
    (operation : Operation V) (id : SchedulerId) : accepted id (record ++ [(system, operation)]) =
      accepted id record + (operation.accepts system id).toNat := by
  rw [accepted, List.countP_append, List.countP_singleton]
  cases operation.accepts system id <;> rfl

/-- A scheduler has accepted as many tasks as it says. -/
theorem Course.issued (course : Course first record last) (reachable : Reachable first)
    (id : SchedulerId) : last.issued id = first.issued id + accepted id record := by
  induction course with
  | rest => rfl
  | step course does inductionHypothesis =>
      rw [does.issued (reachable.leads course.leads), inductionHypothesis, accepted_append,
        Nat.add_assoc]

/-- The tasks bear the numbers that follow those of the tasks accepted before. -/
theorem Course.assigned (course : Course first record last) (reachable : Reachable first)
    (id : SchedulerId) : assigned id record =
      (List.range (accepted id record)).map fun number => ⟨first.issued id + number + 1⟩ := by
  induction course with
  | rest => rfl
  | @step record last after operation course does inductionHypothesis =>
      rw [accepted_append, System.assigned, List.filterMap_append, ← System.assigned,
        inductionHypothesis]
      cases accepts : operation.accepts last id with
      | false => simp [accepts]
      | true =>
          obtain ⟨host, found, _⟩ := exists_of_accepts accepts
          have count := course.issued reachable id
          rw [issued_of_found found] at count
          simp [accepts, found, Roster.nextId, count, List.range_succ]

/-- How a scheduler deals with what is submitted to it after a run, and how it has numbered its tasks
in it. -/
structure Issues (record : List (System V × Operation V)) (last : System V) (id : SchedulerId)
    (host : Scheduler (Work V)) : Prop where
  /-- Once stopped it is so for ever. -/
  final : host.isStopped = true → ∀ {later}, Leads last later →
    ∃ still, later.scheduler? id = some still ∧ still.isStopped = true
  accepts : ∀ {operation after submission}, last.Does operation after →
    operation.submission? last = some submission → submission.scheduler = id →
    host.isStopped = false → last.Admitted operation after submission ⟨accepted id record + 1⟩
  refuses : ∀ {operation after submission}, last.Does operation after →
    operation.submission? last = some submission → submission.scheduler = id →
    host.isStopped = true → last.Denied operation after host.name
  /-- As long as nothing is submitted to it, it uses up no number, and nothing joins its queue. -/
  silent : ∀ {operation after}, last.Does operation after →
    (∀ submission, operation.submission? last = some submission → submission.scheduler ≠ id) →
      after.issued id = host.roster.count ∧ after.queued id ⊆ host.queue.toList
  vain : ∀ {operation after}, last.Does operation after → operation.IsVain last →
    after.issued id = host.roster.count ∧ after.queued id ⊆ host.queue.toList
  count : host.roster.count = accepted id record
  /-- The numbers in use are those up to the number of accepted tasks. -/
  known : ∀ task, host.roster.fate? task ≠ none ↔ 0 < task.number ∧ task.number ≤ accepted id record
  /-- The first task accepted was given the number one, and each later one the next number. -/
  assigned : assigned id record = (List.range (accepted id record)).map fun number => ⟨number + 1⟩

/-- No task is accepted in an operation that is not to use up a number. -/
theorem Admitted.not_vain (admitted : system.Admitted operation after submission task)
    (submitted : operation.submission? system = some submission) : ¬ operation.IsVain system := by
  have answers {reply : Reply V} (told : operation.reply? system = some reply) :
      (∃ task, reply = .accepted task) ∨ reply = .ok ∨ ∃ value, reply = .found value := by
    cases access : operation.access? system with
    | none =>
        cases told.symm.trans (admitted.direct access)
        exact .inl ⟨_, rfl⟩
    | some accessed =>
        obtain ⟨place, key, kind⟩ := accessed
        cases told.symm.trans (admitted.access access).1
        cases kind with
        | add value ttl => exact .inr (.inl rfl)
        | _ => exact .inr (.inr ⟨_, rfl⟩)
  intro vain
  cases vain with
  | cancel posed => cases (Operation.submission?_of_posed posed).symm.trans submitted
  | absent access vacant =>
      obtain ⟨_, _, _, _, _, valued⟩ := admitted.access access
      rw [vacant] at valued
      cases valued
  | overflow told => simpa using answers told
  | refused told => simpa using answers told
  | failed told => simpa using answers told

theorem Enlists.quiet {tasks : List (SchedulerId × Entry (Work V))}
    (enlists : Enlists tasks system after) (found : system.scheduler? id = some host)
    (other : ∀ task ∈ tasks, task.1 ≠ id) :
    after.issued id = host.roster.count ∧ after.queued id ⊆ host.queue.toList := by
  constructor
  · rw [enlists.issued, issued_of_found found, List.countP_eq_zero.2, Nat.add_zero]
    intro task listed own
    exact other task listed (of_decide_eq_true own)
  · intro entry held
    rw [← queued_of_found found]
    exact (enlists.queued id entry held).resolve_left fun listed => other _ listed rfl

/-- An operation in which a scheduler accepts nothing uses up none of its numbers. -/
theorem Does.quiet (does : system.Does operation after) (reachable : Reachable system)
    (found : system.scheduler? id = some host) (refused : operation.accepts system id = false) :
    after.issued id = host.roster.count ∧ after.queued id ⊆ host.queue.toList := by
  cases submitted : operation.submission? system with
  | none => exact (does.enlists reachable submitted).quiet found (List.forall_mem_nil _)
  | some submission =>
      obtain ⟨target, there, admitted, denied⟩ := does.admitted_or_denied reachable submitted
      rw [accepts_of_submission? submitted there] at refused
      cases stopped : target.isStopped with
      | true => exact (denied stopped).enlists.quiet found (List.forall_mem_nil _)
      | false =>
          refine (admitted stopped).enlists.quiet found fun task listed => ?_
          rw [stopped, Bool.not_false, Bool.and_true] at refused
          rw [List.mem_singleton.1 listed]
          exact of_decide_eq_false refused

theorem Does.not_accepts_of_vain (does : system.Does operation after)
    (reachable : Reachable system) (vain : operation.IsVain system) (id : SchedulerId) :
    operation.accepts system id = false := by
  cases submitted : operation.submission? system with
  | none => exact accepts_of_none submitted id
  | some submission =>
      obtain ⟨target, there, admitted, _⟩ := does.admitted_or_denied reachable submitted
      cases stopped : target.isStopped with
      | true => rw [accepts_of_submission? submitted there, stopped, Bool.not_true, Bool.and_false]
      | false => exact absurd vain ((admitted stopped).not_vain submitted)

/-- In every run a scheduler accepts exactly what is submitted to it before it is stopped, and numbers
it in this order. -/
theorem Course.issues (course : Course {} record last) (found : last.scheduler? id = some host) :
    Issues record last id host := by
  have reachable : Reachable last := Reachable.start.leads course.leads
  have count : host.roster.count = accepted id record := by
    have issued := course.issued .start id
    rw [issued_of_found found] at issued
    simpa [System.issued, scheduler?] using issued
  have decides {operation : Operation V} {after : System V} {submission : Submission V}
      (does : last.Does operation after)
      (submitted : operation.submission? last = some submission) (own : submission.scheduler = id) :
      (host.isStopped = false → last.Admitted operation after submission host.roster.nextId) ∧
        (host.isStopped = true → last.Denied operation after host.name) := by
    obtain ⟨target, there, decided⟩ := does.admitted_or_denied reachable submitted
    rw [own, found] at there
    cases there
    exact decided
  constructor
  · intro stopped later leads
    obtain ⟨_, still, seen, run⟩ := leads.evolves.old found
    exact ⟨still, seen, run.remembers.isStopped stopped⟩
  · intro operation after submission does submitted own running
    have next : host.roster.nextId = ⟨accepted id record + 1⟩ := by rw [Roster.nextId, count]
    exact next ▸ (decides does submitted own).1 running
  · exact fun does submitted own stopped => (decides does submitted own).2 stopped
  · intro operation after does other
    refine does.quiet reachable found ?_
    cases submitted : operation.submission? last with
    | none => exact accepts_of_none submitted id
    | some submission =>
        obtain ⟨_, there, _⟩ := does.admitted_or_denied reachable submitted
        rw [accepts_of_submission? submitted there, decide_eq_false (other submission submitted),
          Bool.false_and]
  · exact fun does vain => does.quiet reachable found (does.not_accepts_of_vain reachable vain id)
  · exact count
  · intro task
    rw [ne_eq, Roster.fate?_eq_none_iff, count]
    omega
  · have numbers := course.assigned .start id
    simpa [System.issued, scheduler?] using numbers

/-- A caller, two accesses and a task have submitted tasks, and then the task has stopped the
scheduler. -/
theorem issues_of_inner_shutdown :
    ∃ (record : List (System Nat × Operation Nat)) (last : System Nat)
        (host : Scheduler (Work Nat)),
      Course {} record last ∧ last.scheduler? ⟨0⟩ = some host ∧ host.isStopped = true ∧
        accepted ⟨0⟩ record = 5 ∧ Issues record last ⟨0⟩ host := by
  have runs : (trace? ({} : System Nat) [.deed (.request (.create "main" {})),
      .deed (.request (.createCacheOn "store" "main")),
      .deed (.submit "main" "late" (.at 50) .done),
      .deed (.request (.access "store" "key" (.add 7 (.span 50)))),
      .deed (.request (.access "store" "key" (.add 8 (.span 50)))),
      .deed (.request (.access "store" "other" .read)),
      .deed (.request (.cancel "main" "late")),
      .deed (.submit "main" "inner" (.at 0) (.request (.access "store" "key" .read)
        (.submit "main" "child" (.at 90) .done (.part (.shutdown "main") .done)))),
      .worker ⟨0⟩, .worker ⟨0⟩, .worker ⟨0⟩, .worker ⟨0⟩, .worker ⟨0⟩]).any (fun run =>
        decide (accepted ⟨0⟩ run.1 = 5) && (run.2.scheduler? ⟨0⟩).any fun host => host.isStopped)
          = true := by
    decide +kernel
  obtain ⟨⟨record, last⟩, traced, shown⟩ := (Option.any_eq_true _ _).1 runs
  rw [Bool.and_eq_true, decide_eq_true_eq] at shown
  obtain ⟨count, shown⟩ := shown
  obtain ⟨host, found, stopped⟩ := (Option.any_eq_true _ _).1 shown
  have course : Course {} record last := .of_trace? traced
  exact ⟨record, last, host, course, found, stopped, count, Course.issues course found⟩

end System

end Agenda
