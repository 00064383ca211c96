import Agenda.Proofs.Shelf.Likeness
import Agenda.Proofs.Shelf.Storing

/-!
# Accesses to caches

An access to a cache of a system at rest has the reply and the effect that it has on the shelf.
-/

namespace Agenda

universe u

variable {V : Type u}

def Cache.booking (cache : Cache V) (id : CacheId) (key : String) (access : Access V) (ttl : Delay)
    (now : Int) : Booking V :=
  ⟨id, key, access, ttl, cache.generation + 1, ttl.after? now⟩

namespace System

variable {shelves : Shelves V} {system : System V} {label name : Label} {token : Token}
  {before : Scheduler (Work V)} {shelf : Shelf V} {id : CacheId} {cache : Cache V} {key : String}
  {access : Access V} {ttl : Delay} {value : V} {reply : Reply V}

def booked (system : System V) (cache : Cache V) (booking : Booking V) : System V :=
  { system.putCache booking.cache cache.advance with bookings := [booking] }

theorem book_eq (free : system.bookings = []) (fits : cache.ttl? key access = .ok (some ttl)) :
    system.book id cache key access = .ok (cache.booking id key access ttl system.now,
      system.booked cache (cache.booking id key access ttl system.now)) := by
  rw [book, fits]
  dsimp only
  rw [free]
  rfl

theorem bookings_unlock {booking : Booking V} (only : system.bookings = [booking]) :
    (system.unlock booking).bookings = [] := by
  simp [unlock, only]

theorem alters_unlock (booking : Booking V) (rest : system.bookings = [])
    (found : system.cache? booking.cache = some cache) :
    Alters booking.cache cache.advance system ((system.booked cache booking).unlock booking) :=
  ⟨rfl, rfl, (bookings_unlock rfl).trans rest.symm, Array.size_setIfInBounds,
    cache?_putCache_self found _, fun different => cache?_putCache_of_ne system different _⟩

theorem alters_fulfilled (booking : Booking V) (rest : system.bookings = [])
    (found : system.cache? booking.cache = some cache) (changed : Cache V)
    (after : Scheduler (Work V)) : Alters booking.cache changed system
      (((system.booked cache booking).amend booking.cache changed after).unlock booking) := by
  have booked : (system.booked cache booking).cache? booking.cache = some cache.advance :=
    cache?_putCache_self found _
  refine ⟨rfl, rfl, (bookings_unlock rfl).trans rest.symm, ?_, cache?_putCache_self booked _, ?_⟩
  · exact Array.size_setIfInBounds.trans Array.size_setIfInBounds
  · intro other different
    exact (cache?_putCache_of_ne _ different _).trans (cache?_putCache_of_ne _ different _)

/-- An access whose time to live ends too late stores nothing. -/
theorem AtRest.overflow (rest : system.AtRest label token before)
    (pairs : shelves.Pairs system before name shelf id cache)
    (never : ttl.after? system.now = none) :
    Shelves.Meets label token (.overflow, shelves)
      ((system.booked cache (cache.booking id key access ttl system.now)).confirm
        (cache.booking id key access ttl system.now)) := by
  have alters := alters_unlock (cache.booking id key access ttl system.now) rest.bookings
    pairs.keeps.found
  have tidy := rest.alter alters ⟨rest.only, rest.label, rest.calls⟩ rest.clean rest.handled
    (fun _ => ⟨alters.own, pairs.keeps.place, pairs.keeps.dropped,
      pairs.keeps.tended.fewer (Nat.le_succ _) fun found => found⟩)
    fun _ tends => tends
  have alike := pairs.alter rest.toTidy alters pairs.reads
  rw [Shelves.place_eq pairs.present] at alike
  have none : (cache.booking id key access ttl system.now).deadline = none := never
  rw [System.confirm, resolve, none]
  exact ⟨rfl, alike.sweep tidy, before, tidy.sweep⟩

theorem AtRest.confirm_eq (rest : system.AtRest label token before)
    (keeps : system.Keeps before id cache) {deadline : Int}
    (reached : ttl.after? system.now = some deadline)
    (fulfils : ∀ {middle : System V} {filled : Scheduler (Work V)} (deletion : TaskId),
      middle.schedulers = #[filled] → ∃ changed,
        Cache.Stores key ⟨value, ttl, deletion, cache.generation + 1, deadline⟩ cache changed ∧
        middle.fulfil (cache.booking id key access ttl system.now) cache.advance deletion deadline
          = (reply, middle.amend id changed (filled.relieve (cache.lease? key)))) :
    ∃ filled changed moved,
      before.submit? deadline (.deletion id key (cache.generation + 1))
        = some (before.roster.nextId, filled) ∧
      Cache.Stores key ⟨value, ttl, before.roster.nextId, cache.generation + 1, deadline⟩
        cache changed ∧
      Alters id changed system moved ∧
      moved.Hosts label (filled.relieve (cache.lease? key)) ∧
      moved.handles = system.handles ∧
      (system.booked cache (cache.booking id key access ttl system.now)).confirm
          (cache.booking id key access ttl system.now) = (reply, moved.sweep) := by
  obtain ⟨filled, accepted⟩ := rest.clean.accepts deadline
    (.deletion id key (cache.generation + 1))
  have place : cache.advance.scheduler = ⟨0⟩ := keeps.place
  have present : (system.booked cache (cache.booking id key access ttl system.now)).cache? id
      = some cache.advance := cache?_putCache_self keeps.found cache.advance
  have hosted : (system.booked cache (cache.booking id key access ttl system.now)).scheduler?
      cache.advance.scheduler = some before := by
    rw [place]
    exact rest.found
  have only : ((system.booked cache (cache.booking id key access ttl system.now)).putScheduler
      cache.advance.scheduler filled).schedulers = #[filled] := by
    rw [place]
    exact (rest.putScheduler filled).only
  have resolved : (system.booked cache (cache.booking id key access ttl system.now)).resolve
      (cache.booking id key access ttl system.now) = _ :=
    resolve_of_submit? reached present hosted accepted
  obtain ⟨changed, stores, fulfilled⟩ := fulfils before.roster.nextId only
  refine ⟨filled, changed, _, accepted, stores,
    alters_fulfilled (cache.booking id key access ttl system.now) rest.bookings keeps.found changed
      (filled.relieve (cache.lease? key)),
    ⟨rfl, rest.label, rest.calls⟩, rfl, ?_⟩
  rw [System.confirm, resolved, fulfilled]
  rfl

/-- An access whose deletion is accepted stores an entry. -/
theorem AtRest.fulfil (rest : system.AtRest label token before)
    (pairs : shelves.Pairs system before name shelf id cache) {deadline : Int}
    (reached : ttl.after? system.now = some deadline)
    (fulfils : ∀ {middle : System V} {filled : Scheduler (Work V)} (deletion : TaskId),
      middle.schedulers = #[filled] → ∃ changed,
        Cache.Stores key ⟨value, ttl, deletion, cache.generation + 1, deadline⟩ cache changed ∧
        middle.fulfil (cache.booking id key access ttl system.now) cache.advance deletion deadline
          = (reply, middle.amend id changed (filled.relieve (cache.lease? key)))) :
    Shelves.Meets label token (reply, shelves.place name (shelf.insert key ⟨value, ttl, deadline⟩))
      ((system.booked cache (cache.booking id key access ttl system.now)).confirm
        (cache.booking id key access ttl system.now)) := by
  obtain ⟨filled, changed, moved, accepted, stores, alters, hosts, handles, confirmed⟩ :=
    rest.confirm_eq pairs.keeps reached fulfils
  have sound := rest.clean.sound.submit accepted
  have harmless : (Work.deletion id key (cache.generation + 1) : Work V).IsHarmless token
      system.caches.size := (Array.getElem?_eq_some_iff.1 pairs.keeps.found).1
  have clean := rest.clean.submit harmless accepted
  have handled : moved.Handled filled := rest.handled.accept handles accepted
  have keeps : moved.Keeps (filled.relieve (cache.lease? key)) id changed := by
    refine ⟨alters.own, stores.scheduler.trans pairs.keeps.place,
      stores.dropped.trans pairs.keeps.dropped, ?_⟩
    rw [alters.now]
    exact pairs.keeps.tended.stores rest.free stores rfl rfl accepted sound
  have tidy := rest.alter alters hosts (clean.relieve _) (handled.relieve rfl _)
    (fun _ => keeps)
    fun different tends => tends.aside pairs.keeps.tended rest.free different accepted sound
  have alike : (shelves.place name (shelf.insert key ⟨value, ttl, deadline⟩)).Alike moved := by
    apply pairs.alter rest.toTidy alters
    intro other
    rw [Std.TreeMap.getElem?_insert, stores.lease?, pairs.reads]
    by_cases same : other = key
    · simp [same, Lease.record]
    · simp [same, Ne.symm same]
  rw [confirmed]
  exact ⟨rfl, alike.sweep tidy, _, tidy.sweep⟩

theorem AtRest.turnBack (rest : system.AtRest label token before)
    (pairs : shelves.Pairs system before name shelf id cache)
    (ends : system.book id cache key access = .error reply) :
    ∃ given, system.access? name key access = some given ∧
      Shelves.Meets label token (reply, shelves.place name shelf) given := by
  refine ⟨(reply, system), ?_, ?_⟩
  · rw [access?, pairs.cacheAt?]
    simp only [isAccessible_of_free rest.bookings, ends, if_true]
  · rw [Shelves.place_eq pairs.present]
    exact ⟨rfl, pairs.alike, before, rest.toTidy⟩

theorem AtRest.put (rest : system.AtRest label token before)
    (pairs : shelves.Pairs system before name shelf id cache)
    (fits : cache.ttl? key access = .ok (some ttl))
    (fulfils : ∀ {middle : System V} {filled : Scheduler (Work V)} (deletion : TaskId)
      (deadline : Int), middle.schedulers = #[filled] → ∃ changed,
        Cache.Stores key ⟨value, ttl, deletion, cache.generation + 1, deadline⟩ cache changed ∧
        middle.fulfil (cache.booking id key access ttl system.now) cache.advance deletion deadline
          = (reply, middle.amend id changed (filled.relieve (cache.lease? key)))) :
    ∃ given, system.access? name key access = some given ∧
      Shelves.Meets label token
        ((shelf.put shelves.now key value ttl reply).1,
          shelves.place name (shelf.put shelves.now key value ttl reply).2) given := by
  refine ⟨(system.booked cache (cache.booking id key access ttl system.now)).confirm
    (cache.booking id key access ttl system.now), ?_, ?_⟩
  · rw [access?, pairs.cacheAt?]
    simp only [isAccessible_of_free rest.bookings, book_eq rest.bookings fits, if_true]
  · rw [Shelf.put, ← pairs.alike.now]
    cases reached : ttl.after? system.now with
    | none =>
        rw [Shelves.place_eq pairs.present]
        exact rest.overflow pairs reached
    | some deadline => exact rest.fulfil pairs reached fun deletion => fulfils deletion deadline

theorem AtRest.read (rest : system.AtRest label token before)
    (pairs : shelves.Pairs system before name shelf id cache) :
    ∃ given, system.access? name key .read = some given ∧
      Shelves.Meets label token ((shelf.get shelves.now key).1,
        shelves.place name (shelf.get shelves.now key).2) given := by
  cases present : cache.lease? key with
  | none =>
      have absent : shelf[key]? = none := by
        rw [pairs.reads, present]
        rfl
      rw [Shelf.get, absent]
      apply rest.turnBack pairs
      rw [book, Cache.ttl?, present]
      rfl
  | some old =>
      have same : shelf[key]? = some old.record := by
        rw [pairs.reads, present]
        rfl
      rw [Shelf.get, same]
      have fits : cache.ttl? key (.read : Access V) = .ok (some old.ttl) := by
        rw [Cache.ttl?, present]
        rfl
      apply rest.put pairs fits
      intro middle filled deletion deadline only
      obtain ⟨changed, stores, extended⟩ := extend_eq only pairs.keeps.place
        (cache.booking id key .read old.ttl system.now) old deletion deadline
      refine ⟨changed, stores, ?_⟩
      have advanced : cache.advance.lease? key = some old := present
      have ends : middle.fulfil (cache.booking id key .read old.ttl system.now) cache.advance
          deletion deadline = (.found (some old.value), middle.extend
            (cache.booking id key .read old.ttl system.now) cache.advance old deletion deadline) := by
        simp only [System.fulfil, Cache.booking, advanced]
      rw [ends, extended, present]
      rfl

theorem AtRest.write (rest : system.AtRest label token before)
    (pairs : shelves.Pairs system before name shelf id cache)
    (fits : cache.ttl? key access = .ok (some ttl))
    (fulfils : ∀ {middle moved : System V} {deletion : TaskId} {deadline : Int},
      middle.replace (cache.booking id key access ttl system.now) cache.advance value deletion
          deadline = ((cache.lease? key).map Lease.value, moved) →
        middle.fulfil (cache.booking id key access ttl system.now) cache.advance deletion deadline
          = (reply, moved)) :
    ∃ given, system.access? name key access = some given ∧
      Shelves.Meets label token
        ((shelf.put shelves.now key value ttl reply).1,
          shelves.place name (shelf.put shelves.now key value ttl reply).2) given := by
  apply rest.put pairs fits
  intro middle filled deletion deadline only
  have replaced := replace_eq only pairs.keeps.place
    (cache.booking id key access ttl system.now) value deletion deadline
  exact ⟨_, cache.stores_store _ _, fulfils replaced⟩

theorem AtRest.meets_access (rest : system.AtRest label token before)
    (alike : shelves.Alike system) (name : Label) (key : String) (access : Access V) :
    ∃ given, system.answer? (.access name key access) = some given ∧
      Shelves.Meets label token
        (shelves.use name fun shelf => shelf.access shelves.now key access) given := by
  cases present : shelves.shelf? name with
  | none =>
      refine ⟨(.noCache, system), ?_, ?_⟩
      · rw [answer?, access?, alike.absent present]
      · rw [Shelves.use, present]
        exact ⟨rfl, alike, before, rest.toTidy⟩
  | some shelf =>
      obtain ⟨id, cache, pairs⟩ := alike.pairs rest.toTidy present
      rw [Shelves.use, present]
      dsimp only
      cases access with
      | read => exact rest.read pairs
      | add value ttl =>
          rw [Shelf.access, pairs.contains]
          cases found : cache.contains key with
          | true =>
              apply rest.turnBack pairs
              rw [book, Cache.ttl?, found]
              rfl
          | false =>
              have fits : cache.ttl? key (.add value ttl) = .ok (some ttl) := by
                rw [Cache.ttl?, found]
                rfl
              apply rest.write pairs fits
              intro middle moved deletion deadline replaced
              simp only [System.fulfil, Cache.booking] at replaced ⊢
              rw [replaced]
      | set value ttl =>
          rw [Shelf.access, pairs.value]
          apply rest.write pairs rfl
          intro middle moved deletion deadline replaced
          simp only [System.fulfil, Cache.booking] at replaced ⊢
          rw [replaced]

end System

end Agenda
