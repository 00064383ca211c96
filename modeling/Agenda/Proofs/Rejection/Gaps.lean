import Agenda.Proofs.Deletion.Counting
import Agenda.Proofs.Rejection.Attempts
import Agenda.Proofs.Rejection.Sessions

/-!
# A generation that nobody uses

If a generation was handed out for nothing, all that come after it have numbers that are greater by
one.  Nothing that is there bears such a number yet, and nobody sees the numbers.
-/

namespace Agenda

universe u

variable {V : Type u}

namespace Guise

def plain : Guise V where
  script _ _ script := script
  number _ generation := generation
  injective _ _ _ same := same
  heard := []
  kept := []

theorem work_plain (id : SchedulerId) : (plain : Guise V).work id = fun _ work => work := by
  funext task work
  cases work <;> rfl

/-- The generations after `last` have numbers that are greater by one. -/
def skip (last generation : Nat) : Nat := if last < generation then generation + 1 else generation

theorem skip_injective (last : Nat) : Function.Injective (skip last) := by
  intro first second same
  unfold skip at same
  split at same <;> split at same <;> omega

def gap (target : CacheId) (last : Nat) : Guise V :=
  { plain with
    number := fun id => if id = target then skip last else fun generation => generation
    injective := fun id => by
      split
      · exact skip_injective last
      · exact fun _ _ same => same }

variable {target id : CacheId} {last generation : Nat}

theorem number_gap_of_ne (apart : id ≠ target) :
    (gap target last : Guise V).number id = fun generation => generation :=
  if_neg apart

theorem number_gap_self : (gap target last : Guise V).number target = skip last := if_pos rfl

theorem skip_of_le (earlier : generation ≤ last) : skip last generation = generation :=
  if_neg (Nat.not_lt.2 earlier)

theorem skip_of_lt (later : last < generation) : skip last generation = generation + 1 :=
  if_pos later

theorem number_gap_of_le (earlier : generation ≤ last) :
    (gap target last : Guise V).number id generation = generation := by
  by_cases own : id = target
  · rw [own, number_gap_self, skip_of_le earlier]
  · rw [number_gap_of_ne own]

end Guise

theorem Scheduler.recast_self {ω : Type u} (scheduler : Scheduler ω) :
    scheduler.recast false (fun _ work => work) = scheduler := by
  have queue : scheduler.queue.map (Entry.recast fun _ work => work) = scheduler.queue :=
    congrArg Heap.mk (Array.map_id _)
  have worker : scheduler.worker.recast (fun _ work => work) = scheduler.worker := by
    cases scheduler.worker <;> rfl
  rw [recast, queue, worker]
  rfl

theorem Cache.Mirrors.refl (cache : Cache V) : cache.Mirrors (fun generation => generation) cache where
  scheduler := rfl
  lease? key := by
    have same : Lease.renumber (V := V) (fun generation => generation) = id := rfl
    rw [same, Option.map_id, id]
  generation := rfl
  dropped := rfl
  journal := rfl

namespace System

variable {guise : Guise V} {image system after : System V} {id : CacheId} {cache : Cache V}

theorem Mirrors.refl (system : System V) : Mirrors Guise.plain system system where
  now := rfl
  scheduler? id := by
    rw [Guise.work_plain, show Scheduler.recast false (fun (_ : TaskId) (work : Work V) => work) = fun host =>
      host from funext Scheduler.recast_self, Option.map_id']
  found found := ⟨_, found, .refl _⟩
  absent missing := missing
  schedulerLabels := rfl
  cacheLabels := rfl
  handles := rfl
  cancelledTokens := rfl
  openGates := rfl
  bookings := (List.map_id _).symm
  calls := rfl
  events := ⟨system.events.toList, rfl, rfl⟩
  returned := rfl

theorem suits_plain (system : System V) : Guise.plain.Suits system :=
  ⟨fun different => absurd rfl different, fun _ _ => rfl, fun _ _ _ => rfl⟩

/-- Something has become known in the image only. -/
theorem Twins.interject (twins : image.Twins guise system) (event : Event V) :
    (image.report event).Twins
      { guise with heard := (image.report event).events.toList, kept := system.events.toList }
      system where
  mirrors := { twins.mirrors with
    scheduler? := twins.mirrors.scheduler?
    found := twins.mirrors.found
    bookings := twins.mirrors.bookings
    events := ⟨[], (List.append_nil _).symm, (List.append_nil _).symm⟩ }
  suits := ⟨twins.suits.known, twins.suits.absent, twins.suits.onward⟩
  reachable := twins.reachable

section Gap

theorem suits_gap (found : system.cache? id = some cache) :
    (Guise.gap id cache.generation).Suits system := by
  refine ⟨fun different => absurd rfl different, fun {other} missing generation => ?_,
    fun {other held} seen generation later => ?_⟩
  · have apart : other ≠ id := by
      rintro rfl
      cases missing.symm.trans found
    rw [Guise.number_gap_of_ne apart]
  · by_cases own : other = id
    · subst own
      cases found.symm.trans seen
      rw [Guise.number_gap_self, Guise.skip_of_lt later, Guise.skip_of_lt (Nat.lt_succ_of_lt later)]
    · rw [Guise.number_gap_of_ne own]

variable (reachable : Reachable system) (found : system.cache? id = some cache)

include reachable found

/-- No deletion bears a generation that is still to come. -/
theorem recast_gap {place : SchedulerId} {host : Scheduler (Work V)}
    (hosted : system.scheduler? place = some host) :
    host.recast false (Guise.plain.work place) =
      host.recast false ((Guise.gap id cache.generation).work place) := by
  have kept {task : TaskId} {work : Work V} (counts : system.Counts work) :
      Guise.plain.work place task work = (Guise.gap id cache.generation).work place task work := by
    cases work with
    | task label handle script => rfl
    | deletion target key generation =>
        refine congrArg (Work.deletion target key) (Eq.symm ?_)
        by_cases own : target = id
        · subst own
          refine Guise.number_gap_of_le ?_
          rw [← handedOut_of_found found]
          exact counts target key generation rfl
        · exact congrFun (Guise.number_gap_of_ne own) generation
  have bears := reachable.counted.bears hosted
  exact Scheduler.recast_congr (fun entry held => kept (bears.queued entry held))
    fun busy => kept (bears.busy busy)

/-- No entry does, and the next that is stored bears the second next generation. -/
theorem mirrors_gap_of_advance {twin : Cache V}
    (alike : twin.Mirrors (fun generation => generation) cache.advance) :
    twin.Mirrors ((Guise.gap id cache.generation : Guise V).number id) cache where
  scheduler := alike.scheduler
  lease? key := by
    rw [alike.lease?]
    cases present : cache.lease? key with
    | none => exact congrArg (Option.map _) present
    | some lease =>
        have given := ((reachable.numbered.caches found).stored present).2
        have same : (Guise.gap id cache.generation : Guise V).number id lease.generation =
            lease.generation := Guise.number_gap_of_le given
        refine (congrArg (Option.map _) present).trans (congrArg some ?_)
        rw [Lease.renumber, Lease.renumber, same]
  generation := by
    rw [alike.generation, Guise.number_gap_self, Guise.skip_of_lt (Nat.lt_succ_self _)]
    rfl
  dropped := alike.dropped
  journal := alike.journal

theorem Mirrors.gap (mirrors : Mirrors Guise.plain image (system.putCache id cache.advance)) :
    Mirrors (Guise.gap id cache.generation) image system := by
  refine { mirrors with scheduler? := fun place => ?_, found := ?_, absent := ?_, bookings := ?_ }
  · refine (mirrors.scheduler? place).trans ?_
    have same : (system.putCache id cache.advance).scheduler? place = system.scheduler? place := rfl
    rw [same]
    cases hosted : system.scheduler? place with
    | none => rfl
    | some host => exact congrArg some (recast_gap reachable found hosted)
  · intro other held seen
    by_cases own : other = id
    · subst own
      cases found.symm.trans seen
      obtain ⟨twin, there, alike⟩ := mirrors.found (cache?_putCache_self found cache.advance)
      exact ⟨twin, there, mirrors_gap_of_advance reachable found alike⟩
    · obtain ⟨twin, there, alike⟩ :=
        mirrors.found ((cache?_putCache_of_ne system own cache.advance).trans seen)
      refine ⟨twin, there, ?_⟩
      rw [Guise.number_gap_of_ne own]
      exact alike
  · intro other missing
    refine mirrors.absent ?_
    have apart : other ≠ id := by
      rintro rfl
      cases missing.symm.trans found
    rw [cache?_putCache_of_ne system apart, missing]
  · rw [mirrors.bookings]
    refine List.map_congr_left fun booking held => congrArg (fun generation =>
      { booking with generation }) (Eq.symm ?_)
    by_cases own : booking.cache = id
    · have numbered := reachable.numbered.caches (own ▸ found)
      exact Guise.number_gap_of_le (numbered.booked booking (mem_holders_iff.2 ⟨held, rfl⟩)).2
    · exact congrFun (Guise.number_gap_of_ne own) booking.generation

end Gap

/-- After a failed attempt the system cannot be told from one without the attempt. -/
theorem Reachable.indistinct_of_wastes (reachable : Reachable system) (wastes : Wastes system after)
    (mirrors : Mirrors Guise.plain image after) : image.Indistinct system := by
  have same : image.bookings = after.bookings := mirrors.bookings.trans (List.map_id _)
  cases wastes with
  | nothing =>
      exact ⟨.plain, fun _ _ => rfl, ⟨mirrors, suits_plain system, reachable⟩, same⟩
  | generation found =>
      exact ⟨_, fun _ _ => rfl, ⟨mirrors.gap reachable found, suits_gap found, reachable⟩, same⟩

end System

end Agenda
