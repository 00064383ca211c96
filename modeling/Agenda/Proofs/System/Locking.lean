import Agenda.Proofs.Deletion.Dating

/-!
# Locks that are held through the moves of a system

An access that holds the lock of a cache keeps it while workers and calls make their moves.  A task
that takes a lock lets go of it in the same move.
-/

namespace Agenda.System

universe u

variable {V : Type u} {system before after moved : System V} {id : SchedulerId}
  {host : Scheduler (Work V)} {caller : Caller}

theorem Frames.bookings (frames : Frames before after) : after.bookings = before.bookings := by
  obtain ⟨_, _, _, rfl⟩ := frames
  rfl

/-- Letting go of a lock that was taken last leaves those that were held before. -/
theorem bookings_unlock_of_cons {booking : Booking V} {bookings : List (Booking V)}
    (held : system.bookings = booking :: bookings)
    (apart : ∀ other ∈ bookings, other.cache = booking.cache →
      other.generation ≠ booking.generation) : (system.unlock booking).bookings = bookings := by
  have released (other : Booking V) (listed : other ∈ bookings) :
      (!(other.cache = booking.cache && other.generation = booking.generation)) = true := by
    by_cases same : other.cache = booking.cache
    · simp [apart other listed same]
    · simp [same]
  rw [unlock, held, List.filter_cons_of_neg (by simp), List.filter_eq_self.2 released]

section Requests

theorem bookings_confirm {locked : System V} {booking : Booking V} {bookings : List (Booking V)}
    (held : locked.bookings = booking :: bookings)
    (apart : ∀ other ∈ bookings, other.cache = booking.cache →
      other.generation ≠ booking.generation) : (locked.confirm booking).2.bookings = bookings := by
  have resolved : (locked.resolve booking).2.bookings = booking :: bookings :=
    (frames_resolve locked booking).bookings.trans held
  exact bookings_unlock_of_cons resolved apart

theorem Numbered.bookings_access? (numbered : system.Numbered) {label : Label} {key : String}
    {access : Access V} {reply : Reply V}
    (answered : system.access? label key access = some (reply, after)) :
    after.bookings = system.bookings := by
  unfold access? at answered
  split at answered
  · cases answered
    rfl
  · rename_i cacheId cache located
    split at answered
    · split at answered
      · cases answered
        rfl
      · rename_i booking locked booked
        cases answered
        obtain ⟨_, _, rfl, rfl⟩ := eq_of_book booked
        refine bookings_confirm rfl fun other listed same => ?_
        have held : other ∈ system.holders cacheId := mem_holders_iff.2 ⟨listed, same⟩
        have given := (numbered.caches (cache?_of_cacheAt? located)).booked other held
        exact Nat.ne_of_lt (Nat.lt_succ_of_le given.2)
    · cases answered

theorem bookings_delete? {label : Label} {key : String} {reply : Reply V}
    (answered : system.delete? label key = some (reply, after)) :
    after.bookings = system.bookings := by
  unfold delete? at answered
  split at answered
  · cases answered
    rfl
  · split at answered
    · rw [← snd_eq_of_some answered]
      exact (frames_delete system _ _ key).bookings
    · cases answered

theorem bookings_submit (system : System V) (scheduler handle : Label) (due : Due)
    (script : Script V) :
    (system.submit scheduler handle due script).2.bookings = system.bookings := by
  unfold submit
  split
  · rfl
  · split
    · rfl
    · split
      · rfl
      · rename_i accepted
        obtain ⟨_, _, accepted⟩ := Option.bind_eq_some_iff.1 accepted
        obtain ⟨_, _, same⟩ := Option.map_eq_some_iff.1 accepted
        cases same
        rfl

theorem bookings_cancel (system : System V) (scheduler handle : Label) :
    (system.cancel scheduler handle).2.bookings = system.bookings := by
  unfold cancel
  split
  · rfl
  · rfl
  · split
    · exact (frames_cancelTask system _ _).bookings
    · rfl

theorem bookings_createCacheOn (system : System V) (label scheduler : Label) :
    (system.createCacheOn label scheduler).2.bookings = system.bookings := by
  unfold createCacheOn
  split <;> rfl

theorem bookings_schedulerOf (system : System V) (cache scheduler : Label) :
    (system.schedulerOf cache scheduler).2.bookings = system.bookings := by
  unfold schedulerOf
  split <;> rfl

/-- A request is answered with the same locks held before and after. -/
theorem Numbered.bookings_answer? (numbered : system.Numbered) {request : Request V}
    {reply : Reply V} (answered : system.answer? request = some (reply, after)) :
    after.bookings = system.bookings := by
  cases request with
  | cancel scheduler handle =>
      rw [← snd_eq_of_some answered]
      exact bookings_cancel _ _ _
  | createCacheOn label scheduler =>
      rw [← snd_eq_of_some answered]
      exact bookings_createCacheOn _ _ _
  | schedulerOf cache scheduler =>
      rw [← snd_eq_of_some answered]
      exact bookings_schedulerOf _ _ _
  | access label key access => exact numbered.bookings_access? answered
  | delete label key => exact bookings_delete? answered
  | consult label query =>
      obtain ⟨_, _, equal⟩ := Option.map_eq_some_iff.1 answered
      cases equal
      rfl
  | _ =>
      cases answered
      rfl

end Requests

section Calls

theorem bookings_returnTo (system : System V) (caller : Caller) :
    (system.returnTo caller).bookings = system.bookings := by
  cases caller <;> rfl

theorem bookings_leave (system : System V) (caller : Caller) (id : SchedulerId) :
    (system.leave caller id).bookings = system.bookings := by
  unfold leave
  split
  · exact bookings_returnTo system caller
  · split
    · exact bookings_returnTo system caller
    · unfold awaitExit
      split
      · exact bookings_returnTo system caller
      · rfl

theorem bookings_part? {parting : Parting} (begun : system.part? caller parting = .ok after) :
    after.bookings = system.bookings := by
  cases parting with
  | shutdown label =>
      simp only [part?] at begun
      split at begun <;> cases begun
      unfold shutdown
      split
      · exact bookings_returnTo _ caller
      · rfl
  | release label =>
      simp only [part?] at begun
      split at begun <;> cases begun
      exact bookings_leave _ caller _
  | releaseCache label =>
      simp only [part?] at begun
      split at begun <;> cases begun
      unfold releaseCache
      dsimp only
      split
      · exact bookings_returnTo _ caller
      · exact bookings_leave _ caller _

theorem Numbered.bookings_perform (numbered : system.Numbered) (deed : Session.Deed V) :
    (Session.perform system deed).2.bookings = system.bookings := by
  cases deed with
  | submit label handle due script => exact bookings_submit ..
  | request request =>
      rw [Session.perform]
      cases answer : system.answer? request with
      | none => rfl
      | some answered => exact numbered.bookings_answer? answer
  | part parting helper =>
      simp only [Session.perform]
      split
      · rfl
      · rename_i begun
        exact bookings_part? begun

theorem bookings_moveCall? {position : Nat} (move : system.moveCall? position = some moved) :
    moved.bookings = system.bookings := by
  obtain ⟨call, _, move⟩ := Option.bind_eq_some_iff.1 move
  obtain ⟨_, _, taken⟩ := Option.bind_eq_some_iff.1 move
  split at taken
  · split at taken
    · dsimp only at taken
      split at taken <;> cases taken
      · exact bookings_returnTo _ call.caller
      · rfl
    · cases taken
      rfl
  · split at taken <;> cases taken
    rfl
  · split at taken <;> cases taken
    exact bookings_returnTo _ call.caller

end Calls

section Workers

variable {task : TaskId} {label handle : Label} {script : Script V}

theorem Numbered.bookings_moveTask? (numbered : system.Numbered)
    (move : system.moveTask? id host task label handle script = some moved) :
    moved.bookings = system.bookings := by
  cases script with
  | panic payload =>
      cases move
      unfold failTask
      dsimp only
      split <;> rfl
  | submit target name due act rest =>
      cases move
      exact bookings_submit _ _ _ _ _
  | request request rest =>
      obtain ⟨⟨reply, answered⟩, answer, equal⟩ := Option.map_eq_some_iff.1 move
      cases equal
      have still : (system.proceedTask id host task label handle rest).Numbered :=
        ⟨numbered.caches, numbered.known⟩
      have same := still.bookings_answer? answer
      exact same
  | part parting rest =>
      simp only [moveTask?] at move
      split at move <;> cases move
      · rfl
      · rename_i begun
        have same := bookings_part? begun
        exact same
  | wait gate rest =>
      simp only [moveTask?] at move
      split at move <;> cases move
      rfl
  | _ =>
      cases move
      rfl

theorem bookings_moveDeletion? {cacheId : CacheId} {key : String} {generation : Nat}
    (move : system.moveDeletion? id host cacheId key generation = some moved) :
    moved.bookings = system.bookings := by
  unfold moveDeletion? at move
  split at move
  · cases move
    rfl
  · split at move
    · cases move
      rfl
    · split at move <;> cases move
      rfl

/-- A move of a worker takes no lock for longer and lets go of none. -/
theorem Numbered.bookings_moveWorker? (numbered : system.Numbered)
    (move : system.moveWorker? id = some moved) : moved.bookings = system.bookings := by
  obtain ⟨host, _, taken⟩ := Option.bind_eq_some_iff.1 move
  split at taken
  · cases taken
    unfold moveLooking
    dsimp only
    split <;> rfl
  · split at taken
    · exact bookings_moveCall? taken
    · exact numbered.bookings_moveTask? taken
  · exact bookings_moveDeletion? taken
  · obtain ⟨_, _, rfl⟩ := Option.map_eq_some_iff.1 taken
    rfl

end Workers

end Agenda.System
