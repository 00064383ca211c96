import Agenda.Proofs.System.Leading
import Agenda.Proofs.System.Quiet

/-!
# What is done in a step

`Operation` names what happens in a step of a system.  From its name and the system before it one can
tell which call is made, by a caller from outside or in the middle of a task, which caches the
operation touches, and which schedulers it concerns.  A `Course` is a run together with its
operations.
-/

namespace Agenda

universe u

variable {V : Type u}

inductive Demand (V : Type u) where
  | submit (scheduler : Label)
  | request (request : Request V)
  | part (parting : Parting)

namespace Demand

/-- The label of the cache that is called, given up, or loses its label to another one. -/
def cache? : Demand V → Option Label
  | .request (.createCacheOn cache _) => some cache
  | .request (.createCacheAlone cache _) => some cache
  | .request (.access cache _ _) => some cache
  | .request (.delete cache _) => some cache
  | .part (.releaseCache cache) => some cache
  | _ => none

def scheduler? : Demand V → Option Label
  | .submit scheduler => some scheduler
  | .request (.create scheduler _) => some scheduler
  | .request (.cancel scheduler _) => some scheduler
  | .request (.schedulerOf _ scheduler) => some scheduler
  | .part (.shutdown scheduler) => some scheduler
  | .part (.release scheduler) => some scheduler
  | _ => none

def token? : Demand V → Option Label
  | .request (.cancelToken token) => some token
  | _ => none

end Demand

def Session.Deed.demand : Session.Deed V → Demand V
  | .submit scheduler _ _ _ => .submit scheduler
  | .request asked => .request asked
  | .part parting _ => .part parting

def Script.demand? : Script V → Option (Demand V)
  | .submit scheduler _ _ _ _ => some (.submit scheduler)
  | .request asked _ => some (.request asked)
  | .part parting _ => some (.part parting)
  | _ => none

inductive Operation (V : Type u) where
  /-- A call from outside. -/
  | deed (deed : Session.Deed V)
  /-- An access to a cache takes the lock, and time may pass before it goes on. -/
  | book (cache : Label) (key : String) (access : Access V)
  | confirm (booking : Booking V)
  /-- A move of the worker of a scheduler. -/
  | worker (id : SchedulerId)
  /-- A move of a call under way. -/
  | call (position : Nat)
  | pass (later : Int)

namespace System

variable {system before after first last : System V} {operation : Operation V}

inductive Does (system : System V) : Operation V → System V → Prop where
  | deed (deed : Session.Deed V) : Does system (.deed deed) (Session.perform system deed).2
  | book {locked : System V} {label : Label} {id : CacheId} {cache : Cache V} {key : String}
      {access : Access V} {booking : Booking V} :
      system.cacheAt? label = some (id, cache) → system.isAccessible id key access = true →
      system.book id cache key access = .ok (booking, locked) →
      Does system (.book label key access) locked
  | confirm {booking : Booking V} :
      booking ∈ system.bookings → Does system (.confirm booking) (system.confirm booking).2
  | worker {moved : System V} {id : SchedulerId} :
      system.moveWorker? id = some moved → Does system (.worker id) moved
  | call {moved : System V} {position : Nat} :
      system.moveCall? position = some moved → Does system (.call position) moved
  | pass {later : Int} : system.now ≤ later → Does system (.pass later) { system with now := later }

/-- The script of the task in the hands of a worker that does not wait for a call. -/
def script? (system : System V) (id : SchedulerId) : Option (Script V) :=
  match system.callOf? id, system.hand? id with
  | none, some (_, .task _ _ script) => some script
  | _, _ => none

end System

namespace Operation

variable {system : System V}

def demand? (system : System V) : Operation V → Option (Demand V)
  | .deed asked => some asked.demand
  | .worker id => (system.script? id).bind Script.demand?
  | _ => none

/-- The operation is about the cache. -/
inductive Touches (system : System V) : Operation V → CacheId → Prop where
  | demand {operation : Operation V} {demand : Demand V} {label : Label} {place : CacheId} :
      operation.demand? system = some demand → demand.cache? = some label →
      system.cacheLabels[label]? = some place → Touches system operation place
  | book {label : Label} {key : String} {access : Access V} {place : CacheId} :
      system.cacheLabels[label]? = some place → Touches system (.book label key access) place
  | confirm (booking : Booking V) : Touches system (.confirm booking) booking.cache
  | deletion {id : SchedulerId} {task : TaskId} {place : CacheId} {key : String}
      {generation : Nat} :
      system.hand? id = some (task, .deletion place key generation) →
      Touches system (.worker id) place

/-- The operation is about the scheduler: one of its own, a call on it, or one about a cache on
it. -/
inductive Concerns (system : System V) : Operation V → SchedulerId → Prop where
  | demand {operation : Operation V} {demand : Demand V} {label : Label} {id : SchedulerId} :
      operation.demand? system = some demand → demand.scheduler? = some label →
      system.schedulerLabels[label]? = some id → Concerns system operation id
  | token {operation : Operation V} {demand : Demand V} {token : Label} {id : SchedulerId}
      {host : Scheduler (Work V)} :
      operation.demand? system = some demand → demand.token? = some token →
      system.scheduler? id = some host → host.settings.token = .named token →
      Concerns system operation id
  | cache {operation : Operation V} {place : CacheId} {cache : Cache V} :
      operation.Touches system place → system.cache? place = some cache →
      Concerns system operation cache.scheduler
  | worker (id : SchedulerId) : Concerns system (.worker id) id
  /-- The worker makes the move of a call that it waits for. -/
  | own {id : SchedulerId} {position : Nat} {call : Call} :
      system.callOf? id = some position → system.calls[position]? = some call →
      Concerns system (.worker id) call.scheduler
  | call {position : Nat} {call : Call} :
      system.calls[position]? = some call → Concerns system (.call position) call.scheduler

end Operation

namespace System

variable {system before after first last : System V} {operation : Operation V}

theorem Does.step (does : before.Does operation after) : Step before after := by
  cases does with
  | deed deed => exact .deed before deed
  | book located accessible booked => exact .book located accessible booked
  | confirm held => exact .confirm held
  | worker move => exact .worker move
  | call move => exact .call move
  | pass order => exact .pass order

/-- In every step something is done that has a name. -/
theorem Step.exists_does (step : Step before after) :
    ∃ operation, before.Does operation after := by
  cases step with
  | deed deed => exact ⟨_, .deed deed⟩
  | book located accessible booked => exact ⟨_, .book located accessible booked⟩
  | confirm held => exact ⟨_, .confirm held⟩
  | worker move => exact ⟨_, .worker move⟩
  | call move => exact ⟨_, .call move⟩
  | pass order => exact ⟨_, .pass order⟩

/-- A request that is made in an operation, from outside or by a task, has an answer. -/
inductive Replies (system : System V) : Operation V → Request V → Reply V → System V → Prop where
  | call {request : Request V} {reply : Reply V} {after : System V} :
      system.answer? request = some (reply, after) →
      Replies system (.deed (.request request)) request reply after
  | task {id : SchedulerId} {host : Scheduler (Work V)} {task : TaskId} {label handle : Label}
      {request : Request V} {rest : Script V} {reply : Reply V} {answered : System V} :
      system.scheduler? id = some host → system.callOf? id = none →
      host.worker = .busy task (.task label handle (.request request rest)) →
      (system.proceedTask id host task label handle rest).answer? request = some (reply, answered) →
      Replies system (.worker id) request reply (answered.report (.answered label handle reply))

theorem script?_eq_some_iff {id : SchedulerId} {script : Script V} :
    system.script? id = some script ↔ system.callOf? id = none ∧
      ∃ task label handle, system.hand? id = some (task, .task label handle script) := by
  unfold script?
  split
  · rename_i free held
    rw [free, held]
    simp
  · rename_i other
    constructor
    · nofun
    · rintro ⟨free, task, label, handle, held⟩
      exact absurd held (other task label handle script free)

/-- A request that does not have to wait has an answer. -/
theorem Does.replies {request : Request V} (does : system.Does operation after)
    (demanded : operation.demand? system = some (.request request)) :
    (∃ reply, system.Replies operation request reply after) ∨
      operation = .deed (.request request) ∧ system.answer? request = none ∧ after = system := by
  cases does with
  | deed deed =>
      cases deed with
      | request asked =>
          cases demanded
          cases answer : system.answer? request with
          | none =>
              refine .inr ⟨rfl, rfl, ?_⟩
              rw [Session.perform, answer]
              rfl
          | some answered =>
              rw [Session.perform, answer]
              exact .inl ⟨answered.1, .call answer⟩
      | _ => cases demanded
  | @worker moved id move =>
      obtain ⟨script, scripted, asked⟩ := Option.bind_eq_some_iff.1 demanded
      obtain ⟨free, task, label, handle, held⟩ := script?_eq_some_iff.1 scripted
      cases script with
      | request other rest =>
          cases asked
          obtain ⟨host, found, taken⟩ := Option.bind_eq_some_iff.1 move
          have busy := Worker.hand?_eq_some_iff.1 ((hand?_of_found found).symm.trans held)
          simp only [busy, free, moveTask?] at taken
          obtain ⟨⟨reply, answered⟩, answer, same⟩ := Option.map_eq_some_iff.1 taken
          cases same
          exact .inl ⟨reply, .task found free busy answer⟩
      | _ => cases asked
  | _ => cases demanded

/-- A run with all that is done in it, each time with the system before. -/
inductive Course (first : System V) : List (System V × Operation V) → System V → Prop where
  | rest : Course first [] first
  | step {record : List (System V × Operation V)} {last after : System V}
      {operation : Operation V} :
      Course first record last → last.Does operation after →
      Course first (record ++ [(last, operation)]) after

namespace Course

variable {record : List (System V × Operation V)}

theorem leads (course : Course first record last) : Leads first last := by
  induction course with
  | rest => exact .refl
  | step _ does inductionHypothesis => exact inductionHypothesis.tail does.step

/-- Every run has a course. -/
theorem of_leads (leads : Leads first last) : ∃ record, Course first record last := by
  induction leads with
  | refl => exact ⟨[], .rest⟩
  | tail _ step inductionHypothesis =>
      obtain ⟨record, course⟩ := inductionHypothesis
      obtain ⟨operation, does⟩ := step.exists_does
      exact ⟨_, course.step does⟩

/-- Whatever is done in a course is done after what stands before it in the record. -/
theorem split {early late : List (System V × Operation V)} {entry : System V × Operation V}
    (course : Course first (early ++ entry :: late) last) :
    Course first early entry.1 ∧ ∃ after, entry.1.Does entry.2 after := by
  generalize whole : early ++ entry :: late = record at course
  induction course generalizing late with
  | rest => exact absurd whole (List.append_ne_nil_of_right_ne_nil _ (List.cons_ne_nil _ _))
  | @step record last after operation course does inductionHypothesis =>
      rcases List.eq_nil_or_concat late with rfl | ⟨others, final, rfl⟩
      · obtain ⟨rfl, same⟩ := List.append_inj' whole rfl
        cases same
        exact ⟨course, after, does⟩
      · rw [List.concat_eq_append, ← List.cons_append, ← List.append_assoc] at whole
        exact inductionHypothesis (List.append_inj' whole rfl).1

theorem split_of_mem {entry : System V × Operation V} (course : Course first record last)
    (listed : entry ∈ record) : ∃ early late after, record = early ++ entry :: late ∧
      Course first early entry.1 ∧ entry.1.Does entry.2 after := by
  obtain ⟨early, late, rfl⟩ := List.append_of_mem listed
  obtain ⟨before, after, does⟩ := course.split
  exact ⟨early, late, after, rfl, before, does⟩

theorem keeps {motive : System V → Prop} {kind : System V × Operation V → Prop}
    (course : Course first record last) (reachable : Reachable first)
    (kept : ∀ entry ∈ record, kind entry)
    (does : ∀ {before operation after}, Reachable before → before.Does operation after →
      kind (before, operation) → motive before → motive after)
    (start : motive first) : motive last := by
  induction course with
  | rest => exact start
  | @step record last after operation course done inductionHypothesis =>
      have earlier := inductionHypothesis fun entry listed => kept entry (List.mem_append_left _ listed)
      have latest := kept (last, operation) (List.mem_append_right _ List.mem_cons_self)
      exact does (reachable.leads course.leads) done latest earlier

end Course

end System

end Agenda
