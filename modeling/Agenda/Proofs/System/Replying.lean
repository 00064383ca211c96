import Agenda.Proofs.System.Enlisting
import Agenda.Proofs.System.Independence

/-!
# What callers submit and what they are told

A call that returns at once is posed in one operation, from outside or by a task, and answered in it.
An access during which time passes submits its deletion and is answered in the operation that ends it.
-/

namespace Agenda

universe u

variable {V : Type u}

def Access.answer (access : Access V) (old : Option (Lease V)) : Reply V :=
  match access with
  | .add _ _ => .ok
  | _ => .found (old.map Lease.value)

/-- A task that is submitted to a scheduler, be it accepted or refused. -/
structure Submission (V : Type u) where
  scheduler : SchedulerId
  due : Int
  work : Work V

namespace System

/-- The deletion that an access submits.  It submits none as long as it waits for the lock, none if the
key is absent for a read or present for an addition, and none that is due beyond the clock. -/
def deletion? (system : System V) (label : Label) (key : String) (access : Access V) :
    Option (Submission V) :=
  (system.cacheAt? label).bind fun (place, cache) =>
    if system.isAccessible place key access then
      match cache.ttl? key access with
      | .ok (some ttl) => (ttl.after? system.now).map fun deadline =>
          ⟨cache.scheduler, deadline, .deletion place key (cache.generation + 1)⟩
      | _ => none
    else none

/-- The deletion that an access submits which holds the lock. -/
def renewal? (system : System V) (booking : Booking V) : Option (Submission V) :=
  (system.cache? booking.cache).bind fun cache => booking.deadline.map fun deadline =>
    ⟨cache.scheduler, deadline, .deletion booking.cache booking.key booking.generation⟩

def submission? (system : System V) : Session.Deed V → Option (Submission V)
  | .submit label handle due script => (system.schedulerAt? label).bind fun (id, _) =>
      (due.instant? system.now).map fun instant => ⟨id, instant, .task label handle script⟩
  | .request (.access label key access) => system.deletion? label key access
  | _ => none

end System

namespace Operation

/-- The call that is posed in an operation, with the system that it is put to: a task is left with its
rest before it makes a call. -/
def posed? (system : System V) : Operation V → Option (System V × Session.Deed V)
  | .deed made => some (system, made)
  | .worker id =>
      match system.callOf? id, system.scheduler? id with
      | none, some host =>
          match host.worker with
          | .busy task (.task label handle (.submit target name due act rest)) =>
              some (system.proceedTask id host task label handle rest, .submit target name due act)
          | .busy task (.task label handle (.request request rest)) =>
              some (system.proceedTask id host task label handle rest, .request request)
          | _ => none
      | _, _ => none
  | _ => none

def submission? (system : System V) : Operation V → Option (Submission V)
  | .confirm booking => system.renewal? booking
  | operation => (operation.posed? system).bind fun (asked, made) => asked.submission? made

def reply? (system : System V) : Operation V → Option (Reply V)
  | .confirm booking => some (system.confirm booking).1
  | operation => (operation.posed? system).map fun (asked, made) => (Session.perform asked made).1

/-- The access to a cache that ends in an operation, or has to wait. -/
def access? (system : System V) : Operation V → Option (CacheId × String × Access V)
  | .confirm booking => some (booking.cache, booking.key, booking.access)
  | operation => (operation.posed? system).bind fun (asked, made) =>
      match made with
      | .request (.access label key access) =>
          (asked.cacheAt? label).map fun (place, _) => (place, key, access)
      | _ => none

/-- The key that a delete takes out of a cache, unless it has to wait. -/
def delete? (system : System V) (operation : Operation V) : Option (CacheId × String) :=
  (operation.posed? system).bind fun (asked, made) =>
    match made with
    | .request (.delete label key) => (asked.cacheAt? label).map fun (place, _) => (place, key)
    | _ => none

section Posed

variable {system asked : System V} {operation : Operation V} {deed : Session.Deed V}

theorem submission?_of_posed (posed : operation.posed? system = some (asked, deed)) :
    operation.submission? system = asked.submission? deed := by
  cases operation with
  | confirm booking => cases posed
  | _ => simp only [submission?, posed, Option.bind_some]

theorem reply?_of_posed (posed : operation.posed? system = some (asked, deed)) :
    operation.reply? system = some (Session.perform asked deed).1 := by
  cases operation with
  | confirm booking => cases posed
  | _ => simp only [reply?, posed, Option.map_some]

/-- An access that ends in an operation is posed in it, or goes on in it. -/
theorem exists_of_access? {place : CacheId} {key : String} {access : Access V}
    (accessed : operation.access? system = some (place, key, access)) :
    (∃ booking, operation = .confirm booking ∧ booking.cache = place ∧ booking.key = key ∧
      booking.access = access) ∨
    ∃ asked label cache,
      operation.posed? system = some (asked, .request (.access label key access)) ∧
        asked.cacheAt? label = some (place, cache) := by
  cases operation with
  | confirm booking =>
      cases accessed
      exact .inl ⟨booking, rfl, rfl, rfl, rfl⟩
  | _ =>
      refine .inr ?_
      simp only [access?, Option.bind_eq_some_iff] at accessed
      obtain ⟨⟨asked, deed⟩, posed, called⟩ := accessed
      dsimp only at called
      split at called
      · obtain ⟨⟨_, cache⟩, located, same⟩ := Option.map_eq_some_iff.1 called
        cases same
        exact ⟨asked, _, cache, posed, located⟩
      · cases called

theorem access?_of_posed {label : Label} {key : String} {access : Access V} {place : CacheId}
    {cache : Cache V}
    (posed : operation.posed? system = some (asked, .request (.access label key access)))
    (located : asked.cacheAt? label = some (place, cache)) :
    operation.access? system = some (place, key, access) := by
  cases operation with
  | confirm booking => cases posed
  | _ => simp only [access?, posed, Option.bind_some, located, Option.map_some]

theorem delete?_of_posed {label : Label} {key : String} {place : CacheId} {cache : Cache V}
    (posed : operation.posed? system = some (asked, .request (.delete label key)))
    (located : asked.cacheAt? label = some (place, cache)) :
    operation.delete? system = some (place, key) := by
  simp only [delete?, posed, Option.bind_some, located, Option.map_some]

end Posed

end Operation

namespace System

variable {system after asked : System V} {operation : Operation V} {deed : Session.Deed V}

/-- A call that is posed in an operation is carried out.  A task makes its answer known. -/
inductive Poses (system : System V) :
    Operation V → System V → Session.Deed V → System V → Prop where
  | call (deed : Session.Deed V) :
      Poses system (.deed deed) system deed (Session.perform system deed).2
  | task {id : SchedulerId} {host : Scheduler (Work V)} {deed : Session.Deed V} {task : TaskId}
      {label handle : Label} {script : Script V} (rest : Script V) :
      system.scheduler? id = some host → host.worker = .busy task (.task label handle script) →
      Poses system (.worker id) (system.proceedTask id host task label handle rest) deed
        ((Session.perform (system.proceedTask id host task label handle rest) deed).2.report
          (.answered label handle
            (Session.perform (system.proceedTask id host task label handle rest) deed).1))

theorem Does.poses (does : system.Does operation after)
    (posed : operation.posed? system = some (asked, deed)) :
    system.Poses operation asked deed after := by
  cases does with
  | deed deed =>
      cases posed
      exact .call deed
  | @worker moved id move =>
      obtain ⟨host, found, taken⟩ := Option.bind_eq_some_iff.1 move
      simp only [Operation.posed?, found] at posed
      split at posed
      · rename_i free same
        cases same
        split at posed
        · rename_i busy
          cases posed
          simp only [busy, free, moveTask?] at taken
          cases taken
          exact .task _ found busy
        · rename_i task label handle request rest busy
          cases posed
          simp only [busy, free, moveTask?] at taken
          obtain ⟨answered, answer, rfl⟩ := Option.map_eq_some_iff.1 taken
          have performed : Session.perform (system.proceedTask id host task label handle rest)
              (.request request) = answered := by
            rw [Session.perform, answer]
            rfl
          rw [reportAnswer, ← performed]
          exact .task rest found busy
        · cases posed
      · cases posed
  | _ => cases posed

namespace Poses

theorem puts (poses : system.Poses operation asked deed after) : Puts system asked := by
  cases poses with
  | call => exact puts_self system
  | task rest found busy => exact puts_proceedTask found busy rest

/-- Nothing follows a call but that its answer is made known. -/
theorem comes (poses : system.Poses operation asked deed after) :
    ∃ events, after = { (Session.perform asked deed).2 with events } := by
  cases poses with
  | call => exact ⟨_, rfl⟩
  | task => exact ⟨_, rfl⟩

/-- No task is accepted before the call is made. -/
theorem enlists (poses : system.Poses operation asked deed after) : Enlists [] system asked := by
  cases poses with
  | call => exact .refl system
  | task rest found _ => exact .proceedTask found ..

end Poses

end System

end Agenda
