import Agenda.Proofs.Deletion.Turn

/-!
# Generations

A cache hands out its generations in order.  An access carries a later one than the entry it found,
and as long as it holds the lock nobody else touches that entry.
-/

namespace Agenda

universe u

variable {V : Type u}

namespace Cache

/-- How the generations of a cache, its entries and the accesses that hold its lock relate. -/
structure Numbered (cache : Cache V) (holders : List (Booking V)) : Prop where
  stored : ∀ {key lease}, cache.lease? key = some lease →
    0 < lease.generation ∧ lease.generation ≤ cache.generation
  booked : ∀ booking ∈ holders, 0 < booking.generation ∧ booking.generation ≤ cache.generation
  ahead : ∀ booking ∈ holders, ∀ lease, cache.lease? booking.key = some lease →
    lease.generation < booking.generation
  reads : ∀ booking ∈ holders, booking.access.isRead = true →
    ∃ old, cache.lease? booking.key = some old ∧ old.ttl = booking.ttl
  apart : ∀ first ∈ holders, ∀ second ∈ holders, first.generation ≠ second.generation →
    first.key ≠ second.key ∧ first.access.isRead = true

structure Outgrows (kind : Lease V → Prop) (key : String) (generation : Nat) (cache : Cache V)
    (holders : List (Booking V)) : Prop where
  given : generation ≤ cache.generation
  booked : ∀ booking ∈ holders, booking.key = key → generation < booking.generation
  stored : ∀ lease, cache.lease? key = some lease → kind lease ∨ generation < lease.generation

structure Dates (clock : Int) (generation : Nat) (cache : Cache V) (holders : List (Booking V)) :
    Prop where
  booked : ∀ booking ∈ holders, booking.generation = generation →
    booking.deadline = booking.ttl.after? clock
  stored : ∀ {key lease}, cache.lease? key = some lease → lease.generation = generation →
    lease.ttl.after? clock = some lease.deadline

namespace Turn

variable {cache changed : Cache V} {holders remaining : List (Booking V)} {now : Int}
  {booking other : Booking V} {key : String} {lease : Lease V} {generation : Nat}

theorem generation_le (turn : cache.Turn now holders changed remaining) :
    cache.generation ≤ changed.generation := by
  cases turn with
  | quiet _ generation => exact Nat.le_of_eq generation.symm
  | book _ => exact Nat.le_succ _
  | confirm _ generation _ => exact Nat.le_of_eq generation.symm
  | remove _ _ generation _ => exact Nat.le_of_eq generation.symm

/-- Who holds the lock after a turn has held it before, or was given a new generation. -/
theorem held_or_books (turn : cache.Turn now holders changed remaining)
    (held : booking ∈ remaining) : booking ∈ holders ∨ cache.Books now holders booking ∧
      changed = cache.advance ∧ remaining = booking :: holders := by
  cases turn with
  | quiet _ _ => exact .inl held
  | book books =>
      rcases List.mem_cons.1 held with rfl | old
      · exact .inr ⟨books, rfl, rfl⟩
      · exact .inl old
  | confirm _ _ _ => exact .inl (List.mem_filter.1 held).1
  | remove _ _ _ _ => exact .inl held

/-- An entry after a turn was there before, or is that of an access that held the lock. -/
theorem kept_or_stored (turn : cache.Turn now holders changed remaining)
    (found : changed.lease? key = some lease) : cache.lease? key = some lease ∨
      ∃ booking ∈ holders, booking.key = key ∧ lease.generation = booking.generation ∧
        booking.deadline = some lease.deadline ∧ lease.ttl = booking.ttl := by
  cases turn with
  | quiet leases _ => exact .inl ((leases key).symm.trans found)
  | book _ => exact .inl found
  | confirm held _ leases =>
      rcases leases key with same | ⟨own, stored, present, facts⟩
      · exact .inl (same.symm.trans found)
      · cases present.symm.trans found
        exact .inr ⟨_, held, own.symm, facts⟩
  | remove _ _ _ leases =>
      rcases leases key with same | ⟨_, gone⟩
      · exact .inl (same.symm.trans found)
      · cases gone.symm.trans found

/-- While an access holds the lock, nobody else touches the entry that it found; and if it is a
write, no entry at all. -/
theorem lease?_of_held (turn : cache.Turn now holders changed remaining)
    (numbered : cache.Numbered holders) (held : booking ∈ holders) (still : booking ∈ remaining)
    (touched : booking.access.isRead = true → key = booking.key) :
    changed.lease? key = cache.lease? key := by
  cases turn with
  | quiet leases _ => exact leases key
  | book _ => rfl
  | @confirm ending changed ended _ leases =>
      have different : booking.generation ≠ ending.generation := by
        simpa using (List.mem_filter.1 still).2
      obtain ⟨keys, read⟩ := numbered.apart booking held ending ended different
      rcases leases key with same | ⟨own, _⟩
      · exact same
      · exact absurd ((touched read).symm.trans own) keys
  | remove _ vacant _ _ =>
      rw [vacant] at held
      cases held

theorem numbered (turn : cache.Turn now holders changed remaining)
    (numbered : cache.Numbered holders) : changed.Numbered remaining := by
  have later := turn.generation_le
  have same (booking : Booking V) (held : booking ∈ holders) (still : booking ∈ remaining) :
      changed.lease? booking.key = cache.lease? booking.key :=
    turn.lease?_of_held numbered held still fun _ => rfl
  constructor
  · intro key lease found
    rcases turn.kept_or_stored found with kept | ⟨booking, held, _, given, _⟩
    · obtain ⟨positive, bound⟩ := numbered.stored kept
      exact ⟨positive, Nat.le_trans bound later⟩
    · obtain ⟨positive, bound⟩ := numbered.booked booking held
      rw [given]
      exact ⟨positive, Nat.le_trans bound later⟩
  · intro booking held
    rcases turn.held_or_books held with old | ⟨books, rfl, _⟩
    · obtain ⟨positive, bound⟩ := numbered.booked booking old
      exact ⟨positive, Nat.le_trans bound later⟩
    · rw [books.generation]
      exact ⟨Nat.succ_pos _, Nat.le_refl _⟩
  · intro booking held lease found
    rcases turn.held_or_books held with old | ⟨books, rfl, _⟩
    · rw [same booking old held] at found
      exact numbered.ahead booking old lease found
    · rw [books.generation]
      exact Nat.lt_succ_of_le (numbered.stored found).2
  · intro booking held read
    rcases turn.held_or_books held with old | ⟨books, rfl, _⟩
    · rw [same booking old held]
      exact numbered.reads booking old read
    · exact books.reads read
  · intro first held second further different
    rcases turn.held_or_books held with old | ⟨books, _, rfl⟩
    · rcases turn.held_or_books further with older | ⟨books, _, rfl⟩
      · exact numbered.apart first old second older different
      · obtain ⟨read, _, keys⟩ := books.shares first old
        exact ⟨keys, read⟩
    · rcases List.mem_cons.1 further with rfl | old
      · exact absurd rfl different
      · obtain ⟨_, read, keys⟩ := books.shares second old
        exact ⟨keys.symm, read⟩

theorem outgrows {kind : Lease V → Prop} (turn : cache.Turn now holders changed remaining)
    (outgrows : Outgrows kind key generation cache holders) :
    Outgrows kind key generation changed remaining := by
  refine ⟨Nat.le_trans outgrows.given turn.generation_le, ?_, ?_⟩
  · intro booking held own
    rcases turn.held_or_books held with old | ⟨books, _, _⟩
    · exact outgrows.booked booking old own
    · rw [books.generation]
      exact Nat.lt_succ_of_le outgrows.given
  · intro lease found
    rcases turn.kept_or_stored found with kept | ⟨booking, held, own, given, _⟩
    · exact outgrows.stored lease kept
    · rw [given]
      exact .inr (outgrows.booked booking held own)

/-- A generation is dated by the time at which it was handed out. -/
theorem dates {clock : Int} (turn : cache.Turn now holders changed remaining)
    (present : now = clock ∨ generation ≤ cache.generation)
    (dates : Dates clock generation cache holders) : Dates clock generation changed remaining := by
  constructor
  · intro booking held own
    rcases turn.held_or_books held with old | ⟨books, _, _⟩
    · exact dates.booked booking old own
    · rcases present with rfl | given
      · exact books.deadline
      · rw [← own, books.generation] at given
        omega
  · intro key lease found own
    rcases turn.kept_or_stored found with kept | ⟨booking, held, _, given, deadline, ttl⟩
    · exact dates.stored kept own
    · rw [ttl, ← dates.booked booking held (given.symm.trans own), deadline]

end Turn

end Cache

namespace System

variable {before after system : System V} {id : CacheId} {cache : Cache V}

structure Numbered (system : System V) : Prop where
  caches : ∀ {id cache}, system.cache? id = some cache → cache.Numbered (system.holders id)
  known : ∀ booking ∈ system.bookings, ∃ cache, system.cache? booking.cache = some cache

namespace Numbered

theorem readsPresent (numbered : system.Numbered) : system.ReadsPresent :=
  fun found => (numbered.caches found).reads

theorem holders_of_absent (numbered : system.Numbered) (absent : system.cache? id = none) :
    system.holders id = [] := by
  refine List.eq_nil_iff_forall_not_mem.2 fun booking held => ?_
  obtain ⟨booked, rfl⟩ := mem_holders_iff.1 held
  obtain ⟨cache, found⟩ := numbered.known booking booked
  cases absent.symm.trans found

theorem start : Numbered ({} : System V) := by
  refine ⟨?_, nofun⟩
  intro id cache found
  simp [cache?] at found

theorem change (numbered : before.Numbered) (change : Change before after) : after.Numbered := by
  have unborn {id : CacheId} (absent : before.cache? id = none) :
      after.holders id = [] ∧ Unborn id before after := by
    have unborn := change.unborn absent numbered.readsPresent
    refine ⟨List.eq_nil_of_subset_nil ?_, unborn⟩
    rw [← numbered.holders_of_absent absent]
    exact unborn.holders
  constructor
  · intro id cache found
    cases earlier : before.cache? id with
    | some old =>
        obtain ⟨changed, again, _, turn⟩ := change.turns earlier numbered.readsPresent
        cases found.symm.trans again
        exact turn.numbered (numbered.caches earlier)
    | none =>
        obtain ⟨vacant, unborn⟩ := unborn earlier
        rw [vacant]
        refine ⟨fun present => ?_, nofun, nofun, nofun, nofun⟩
        rw [(unborn.empty found).1] at present
        cases present
  · intro booking held
    have listed := mem_holders_iff.2 ⟨held, rfl⟩
    cases earlier : before.cache? booking.cache with
    | some old =>
        obtain ⟨changed, again, _⟩ := change.turns earlier numbered.readsPresent
        exact ⟨changed, again⟩
    | none =>
        rw [(unborn earlier).1] at listed
        cases listed

theorem changes (numbered : before.Numbered) (changes : Changes before after) : after.Numbered :=
  changes.keeps (fun numbered change => numbered.change change) numbered

end Numbered

end System

end Agenda
