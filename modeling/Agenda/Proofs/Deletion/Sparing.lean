import Agenda.Proofs.Deletion.Denying
import Agenda.Proofs.System.Replying

/-!
# What leaves all entries as they are

The entries of caches come in and change in accesses, and they go in deletes and by their deletions.
Whatever else is done to a system leaves all of them as they are.
-/

namespace Agenda.System

universe u

variable {V : Type u} {system before after asked : System V} {id : SchedulerId}
  {host : Scheduler (Work V)} {operation : Operation V} {deed : Session.Deed V}

def Preserves (before after : System V) : Prop :=
  ∀ place key, after.lease? place key = before.lease? place key

namespace Preserves

theorem refl (system : System V) : Preserves system system := fun _ _ => rfl

theorem trans {first second third : System V} (before : Preserves first second)
    (after : Preserves second third) : Preserves first third :=
  fun place key => (after place key).trans (before place key)

theorem of_eq (caches : after.caches = before.caches) : Preserves before after := by
  intro place key
  rw [lease?, lease?, cache?, cache?, caches]

theorem of_aside {middle : System V} (preserves : Preserves middle after)
    (caches : middle.caches = before.caches) : Preserves before after :=
  (of_eq caches).trans preserves

theorem sweep (system : System V) : Preserves system system.sweep := lease?_sweep system

theorem createCache (system : System V) (id : SchedulerId) :
    Preserves system (system.createCache id).2 := by
  intro place key
  cases found : system.cache? place with
  | some cache =>
      have created := cache?_createCache found id
      exact (lease?_of_found created key).trans (lease?_of_found found key).symm
  | none =>
      cases created : (system.createCache id).2.cache? place with
      | none => rw [lease?, lease?, created, found]
      | some cache =>
          rw [lease?, lease?, created, found, eq_of_createCache found created]
          rfl

theorem cancelTask (system : System V) (id : SchedulerId) (task : TaskId) :
    Preserves system (system.cancelTask id task).2 := by
  obtain ⟨_, same⟩ := cancelTask_eq system id task
  rw [same]
  exact .of_eq rfl

theorem submit (system : System V) (label handle : Label) (due : Due) (script : Script V) :
    Preserves system (system.submit label handle due script).2 := by
  unfold System.submit
  split
  · exact .refl system
  · split
    · exact .refl system
    · split
      · exact .refl system
      · rename_i accepted
        obtain ⟨host, _, accepted⟩ := Option.bind_eq_some_iff.1 accepted
        obtain ⟨_, _, same⟩ := Option.map_eq_some_iff.1 accepted
        cases same
        exact .of_eq rfl

theorem cancel (system : System V) (scheduler handle : Label) :
    Preserves system (system.cancel scheduler handle).2 := by
  unfold System.cancel
  split
  · exact .refl system
  · exact .refl system
  · split
    · exact cancelTask _ _ _
    · exact .of_eq rfl

theorem labelScheduler (system : System V) (label : Label) (id : SchedulerId) :
    Preserves system (system.labelScheduler label id) :=
  (sweep _).of_aside rfl

theorem labelNewCache (system : System V) (label : Label) (id : SchedulerId) :
    Preserves system (system.labelNewCache label id) := by
  have labelled : Preserves (system.createCache id).2 (system.labelNewCache label id) :=
    (sweep _).of_aside rfl
  exact (createCache system id).trans labelled

theorem createCacheOn (system : System V) (label scheduler : Label) :
    Preserves system (system.createCacheOn label scheduler).2 := by
  unfold System.createCacheOn
  split
  · exact .refl system
  · exact labelNewCache _ _ _

theorem schedulerOf (system : System V) (cache scheduler : Label) :
    Preserves system (system.schedulerOf cache scheduler).2 := by
  unfold System.schedulerOf
  split
  · exact .refl system
  · exact labelScheduler _ _ _

/-- A request other than an access and a delete leaves all entries as they are. -/
theorem answer? {request : Request V} {reply : Reply V}
    (accesses : ∀ label key access, request ≠ .access label key access)
    (deletes : ∀ label key, request ≠ .delete label key)
    (answered : system.answer? request = some (reply, after)) : Preserves system after := by
  cases request with
  | create label settings =>
      cases answered
      exact (labelScheduler _ _ _).of_aside rfl
  | cancel scheduler handle =>
      rw [← snd_eq_of_some answered]
      exact cancel _ _ _
  | createCacheOn label scheduler =>
      rw [← snd_eq_of_some answered]
      exact createCacheOn _ _ _
  | createCacheAlone label settings =>
      cases answered
      exact (labelNewCache _ _ _).of_aside rfl
  | schedulerOf cache scheduler =>
      rw [← snd_eq_of_some answered]
      exact schedulerOf _ _ _
  | access label key access => exact absurd rfl (accesses label key access)
  | delete label key => exact absurd rfl (deletes label key)
  | consult label query =>
      obtain ⟨_, _, equal⟩ := Option.map_eq_some_iff.1 answered
      cases equal
      exact .refl system
  | _ =>
      cases answered
      exact .of_eq rfl

theorem returnTo (system : System V) (caller : Caller) : Preserves system (system.returnTo caller) := by
  cases caller <;> exact .of_eq rfl

theorem leave (system : System V) (caller : Caller) (id : SchedulerId) :
    Preserves system (system.leave caller id) := by
  unfold System.leave
  split
  · exact returnTo _ _
  · split
    · exact returnTo _ _
    · unfold awaitExit
      split
      · exact returnTo _ _
      · exact .of_eq rfl

theorem releaseCache (system : System V) (caller : Caller) (label : Label) (place : CacheId)
    (id : SchedulerId) : Preserves system (system.releaseCache caller label place id) := by
  unfold System.releaseCache
  dsimp only
  split
  · exact ((sweep _).trans (returnTo _ _)).of_aside rfl
  · exact ((sweep _).trans (leave _ _ _)).of_aside rfl

theorem part? {caller : Caller} {parting : Parting}
    (begun : system.part? caller parting = .ok after) : Preserves system after := by
  cases parting with
  | shutdown label =>
      simp only [System.part?] at begun
      split at begun <;> cases begun
      unfold shutdown
      split
      · exact (returnTo _ _).of_aside rfl
      · exact .of_eq rfl
  | release label =>
      simp only [System.part?] at begun
      split at begun <;> cases begun
      exact ((sweep _).trans (leave _ _ _)).of_aside rfl
  | releaseCache label =>
      simp only [System.part?] at begun
      split at begun <;> cases begun
      exact releaseCache _ _ _ _ _

theorem endCall (system : System V) (position : Nat) (call : Call) :
    Preserves system (system.endCall position call) :=
  ((sweep _).trans (returnTo _ _)).of_aside rfl

theorem moveCall? {position : Nat} (move : system.moveCall? position = some after) :
    Preserves system after := by
  obtain ⟨call, _, onTarget⟩ := Option.bind_eq_some_iff.1 move
  obtain ⟨host, _, taken⟩ := Option.bind_eq_some_iff.1 onTarget
  split at taken
  · split at taken
    · dsimp only at taken
      split at taken <;> cases taken
      · exact (endCall _ _ _).of_aside rfl
      · exact .of_eq rfl
    · cases taken
      exact .of_eq rfl
  · split at taken <;> cases taken
    exact .of_eq rfl
  · split at taken <;> cases taken
    exact endCall _ _ _

theorem moveLooking (system : System V) (id : SchedulerId) (host : Scheduler (Work V)) :
    Preserves system (system.moveLooking id host) := by
  unfold System.moveLooking
  dsimp only
  split <;> exact .of_eq rfl

theorem failTask (system : System V) (id : SchedulerId) (host : Scheduler (Work V)) (task : TaskId)
    (message : String) : Preserves system (system.failTask id host task message) := by
  unfold System.failTask
  dsimp only
  split <;> exact .of_eq rfl

theorem moveTask? {task : TaskId} {label handle : Label} {script : Script V}
    (requests : ∀ request rest, script ≠ .request request rest)
    (move : system.moveTask? id host task label handle script = some after) :
    Preserves system after := by
  cases script with
  | panic payload =>
      cases move
      exact failTask _ _ _ _ _
  | wait gate rest =>
      simp only [System.moveTask?] at move
      split at move <;> cases move
      exact .of_eq rfl
  | submit target name due act rest =>
      cases move
      have submitted := submit (system.proceedTask id host task label handle rest) target name due act
      exact submitted.of_aside rfl
  | request request rest => exact absurd rfl (requests request rest)
  | part parting rest =>
      simp only [System.moveTask?] at move
      split at move <;> cases move
      · exact .of_eq rfl
      · rename_i begun
        exact (part? begun).of_aside rfl
  | _ =>
      cases move
      exact .of_eq rfl

end Preserves

theorem preserves_book {locked : System V} {place : CacheId} {cache : Cache V} {key : String}
    {access : Access V} {booking : Booking V} (found : system.cache? place = some cache)
    (booked : system.book place cache key access = .ok (booking, locked)) : Preserves system locked := by
  obtain ⟨_, _, _, rfl⟩ := eq_of_book booked
  intro other name
  refine (lease?_putCache found cache.advance other name).trans ?_
  split
  · rename_i own
    rw [own, lease?_of_found found]
    rfl
  · rfl

theorem preserves_perform (accesses : ∀ label key access, deed ≠ .request (.access label key access))
    (deletes : ∀ label key, deed ≠ .request (.delete label key)) :
    Preserves asked (Session.perform asked deed).2 := by
  cases deed with
  | submit label handle due script => exact .submit _ _ _ _ _
  | request request =>
      rw [Session.perform]
      cases answer : asked.answer? request with
      | none => exact .refl asked
      | some answered =>
          refine .answer? (fun label key access same => ?_) (fun label key same => ?_) answer
          · exact accesses label key access (congrArg Session.Deed.request same)
          · exact deletes label key (congrArg Session.Deed.request same)
  | part parting helper =>
      simp only [Session.perform]
      split
      · exact .refl asked
      · rename_i begun
        exact .part? begun

/-- An access to a cache that is not there, or a delete from it, comes to nothing. -/
theorem preserves_of_absent {label : Label} (absent : asked.cacheAt? label = none) :
    (∀ key access, Preserves asked (Session.perform asked (.request (.access label key access))).2) ∧
      ∀ key, Preserves asked (Session.perform asked (.request (.delete label key))).2 := by
  constructor
  · intro key access
    rw [Session.perform, answer?, access?, absent]
    exact .refl asked
  · intro key
    rw [Session.perform, answer?, delete?, absent]
    exact .refl asked

theorem Does.preserves_of_posed (does : system.Does operation after)
    (posed : operation.posed? system = some (asked, deed))
    (accesses : operation.access? system = none) (deletes : operation.delete? system = none) :
    Preserves system after := by
  have poses := does.poses posed
  have puts := poses.puts
  obtain ⟨events, rfl⟩ := poses.comes
  have plain (preserves : Preserves asked (Session.perform asked deed).2) :
      Preserves system { (Session.perform asked deed).2 with events } :=
    fun place key => (preserves place key).trans (puts.lease? place key)
  cases deed with
  | request request =>
      cases request with
      | access label key access =>
          cases located : asked.cacheAt? label with
          | none => exact plain ((preserves_of_absent located).1 key access)
          | some _ => cases accesses.symm.trans (Operation.access?_of_posed posed located)
      | delete label key =>
          cases located : asked.cacheAt? label with
          | none => exact plain ((preserves_of_absent located).2 key)
          | some _ => cases deletes.symm.trans (Operation.delete?_of_posed posed located)
      | _ => exact plain (preserves_perform nofun nofun)
  | _ => exact plain (preserves_perform nofun nofun)

/-- An operation leaves all entries as they are unless it is an access or a delete, or the worker
carries out a deletion. -/
theorem Does.preserves (does : system.Does operation after)
    (accesses : operation.access? system = none) (deletes : operation.delete? system = none)
    (deletions : ∀ id task place key generation, operation = .worker id →
      system.hand? id ≠ some (task, .deletion place key generation)) : Preserves system after := by
  cases posed : operation.posed? system with
  | some call => exact does.preserves_of_posed posed accesses deletes
  | none =>
      cases does with
      | deed deed => cases posed
      | book located _ booked => exact preserves_book (cache?_of_cacheAt? located) booked
      | confirm _ => cases accesses
      | call move => exact .moveCall? move
      | pass _ => exact .of_eq rfl
      | @worker moved id move =>
          obtain ⟨host, found, taken⟩ := Option.bind_eq_some_iff.1 move
          split at taken
          · cases taken
            exact .moveLooking _ _ _
          · rename_i busy
            split at taken
            · exact .moveCall? taken
            · rename_i free
              refine .moveTask? (fun request rest same => ?_) taken
              simp [Operation.posed?, free, found, busy, same] at posed
          · rename_i busy
            exact absurd (hand?_eq_some_iff.2 ⟨host, found, busy⟩) (deletions _ _ _ _ _ rfl)
          · obtain ⟨_, _, rfl⟩ := Option.map_eq_some_iff.1 taken
            exact .of_eq rfl

end Agenda.System
