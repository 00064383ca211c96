import Agenda.Proofs.Deletion.Outdating
import Agenda.Proofs.System.Locking

/-!
# What an access has found

An access that holds the lock of a cache has taken it in an earlier step, and the entry that it found
there is still what it was: absent for an addition, and for a read one that the read prolongs.
-/

namespace Agenda.System

universe u

variable {V : Type u} {system asked locked : System V} {place : CacheId} {cache : Cache V}
  {key : String} {access : Access V} {booking : Booking V} {generation : Nat} {clock : Int}

structure Encounters (system : System V) (booking : Booking V) : Prop where
  /-- A key that is added is absent. -/
  vacant : ∀ {value ttl}, booking.access = .add value ttl →
    system.lease? booking.cache booking.key = none
  /-- A read does not shorten the life of the entry. -/
  later : booking.access.isRead = true → ∀ {lease deadline},
    system.lease? booking.cache booking.key = some lease → booking.deadline = some deadline →
      lease.deadline ≤ deadline

theorem ReadClock.le_now (read : system.ReadClock place generation clock) : clock ≤ system.now := by
  obtain ⟨before, after, _, step, rfl, _, leads⟩ := read
  exact Int.le_trans step.evolves.now leads.evolves.now

/-- The later a time to live begins, the later it is over. -/
theorem deadline_le {ttl : Delay} {now deadline later : Int} (order : clock ≤ now)
    (early : ttl.after? clock = some deadline) (late : ttl.after? now = some later) :
    deadline ≤ later := by
  cases ttl with
  | span nanos =>
      obtain ⟨_, rfl⟩ := Delay.after?_eq_some_iff.1 early
      obtain ⟨_, rfl⟩ := Delay.after?_eq_some_iff.1 late
      omega
  | endless => cases early

/-- What is added was absent when the access read the clock, and what is read was stored earlier. -/
theorem Reachable.encounters_of_book (reachable : Reachable system)
    (found : system.cache? place = some cache) (now : asked.now = system.now)
    (booked : asked.book place cache key access = .ok (booking, locked)) :
    system.Encounters booking := by
  obtain ⟨ttl, lasting, rfl, _⟩ := eq_of_book booked
  constructor
  · rintro value other rfl
    rw [Cache.ttl?] at lasting
    split at lasting
    · cases lasting
    · rename_i absent
      rw [Cache.contains, Std.TreeMap.contains_eq_isSome_getElem?] at absent
      exact (lease?_of_found found key).trans (Option.not_isSome_iff_eq_none.1 absent)
  · intro read lease deadline stored reached
    cases access with
    | read =>
        rw [lease?_of_found found] at stored
        rw [Cache.ttl?, stored] at lasting
        cases lasting
        obtain ⟨clock, seen⟩ := (reachable.dated found stored).read
        have early := (reachable.dated found stored).deadline seen
        exact deadline_le seen.le_now early (now ▸ reached)
    | _ => cases read

/-- An access that holds the lock of a cache has taken it in an earlier step. -/
theorem Reachable.exists_book (reachable : Reachable system) (held : booking ∈ system.bookings) :
    ∃ before locked cache, Reachable before ∧ before.cache? booking.cache = some cache ∧
      before.isAccessible booking.cache booking.key booking.access = true ∧
      before.book booking.cache cache booking.key booking.access = .ok (booking, locked) ∧
      Leads locked system := by
  induction reachable with
  | start => cases held
  | @step before after reachable step inductionHypothesis =>
      have earlier (old : booking ∈ before.bookings) :
          ∃ before locked cache, Reachable before ∧ before.cache? booking.cache = some cache ∧
            before.isAccessible booking.cache booking.key booking.access = true ∧
            before.book booking.cache cache booking.key booking.access = .ok (booking, locked) ∧
            Leads locked after := by
        obtain ⟨first, locked, cache, begins, found, accessible, booked, leads⟩ :=
          inductionHypothesis old
        exact ⟨first, locked, cache, begins, found, accessible, booked, leads.tail step⟩
      cases step with
      | deed deed => exact earlier (reachable.numbered.bookings_perform deed ▸ held)
      | book located accessible booked =>
          have found := cache?_of_cacheAt? located
          obtain ⟨rfl, rfl, rfl⟩ := (reachable.begins found accessible booked).asked
          obtain ⟨_, _, _, same⟩ := eq_of_book booked
          rw [same] at held
          rcases List.mem_cons.1 held with rfl | old
          · exact ⟨before, after, _, reachable, found, accessible, booked, .refl⟩
          · exact earlier old
      | @confirm ending _ =>
          have old : booking ∈ (before.resolve ending).2.bookings := (List.mem_filter.1 held).1
          exact earlier ((frames_resolve before ending).bookings ▸ old)
      | worker move => exact earlier (reachable.numbered.bookings_moveWorker? move ▸ held)
      | call move => exact earlier (bookings_moveCall? move ▸ held)
      | pass _ => exact earlier held

/-- As long as an access holds the lock, it fits the entry under its key. -/
theorem Reachable.encounters (reachable : Reachable system) (held : booking ∈ system.bookings) :
    system.Encounters booking := by
  obtain ⟨before, locked, cache, begins, found, accessible, booked, leads⟩ :=
    reachable.exists_book held
  have encounters := begins.encounters_of_book found rfl booked
  have numbered : locked.Numbered := begins.numbered.change (.book found accessible booked)
  obtain ⟨_, holds⟩ := (holds_of_book found accessible booked).leads numbered leads
  obtain ⟨changed, present, _, _, kept⟩ := holds.found
  have same : system.lease? booking.cache booking.key = before.lease? booking.cache booking.key := by
    rw [lease?_of_found present, kept held booking.key fun _ => rfl, lease?_of_found found]
  constructor
  · rw [same]
    exact encounters.vacant
  · rw [same]
    exact encounters.later

end Agenda.System
