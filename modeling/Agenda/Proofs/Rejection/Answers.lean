import Agenda.Proofs.Rejection.Mirroring

/-!
# What mirror images answer

Every call has the same answer on a system and on its mirror image, and leaves them mirror images of
each other.
-/

namespace Agenda

universe u

variable {V : Type u} {guise : Guise V} {image system : System V}

theorem Guise.Suits.fresh (suits : guise.Suits system) {id : SchedulerId}
    {host : Scheduler (Work V)} (found : system.scheduler? id = some host) (label handle : Label)
    (script : Script V) :
    guise.work id host.roster.nextId (.task label handle script) = .task label handle script := by
  have same : guise.script id host.roster.nextId script = script := by
    by_contra different
    obtain ⟨_, again, known⟩ := suits.known different
    cases found.symm.trans again
    exact known (Roster.fate?_nextId _)
  rw [Guise.work, same]

namespace System.Mirrors

section Schedulers

theorem cancelToken (mirrors : Mirrors guise image system) (label : Label) :
    Mirrors guise (image.cancelToken label) (system.cancelToken label) := by
  refine { mirrors with
    scheduler? := fun id => ?_
    cancelledTokens := congrArg (List.cons label) mirrors.cancelledTokens }
  have seen := mirrors.scheduler? id
  simp only [System.scheduler?, System.cancelToken, Array.getElem?_map] at seen ⊢
  rw [seen, Option.map_map, Option.map_map]
  congr 1
  funext host
  rw [Function.comp_apply, Function.comp_apply, Scheduler.settings_recast]
  split <;> rfl

theorem openGate (mirrors : Mirrors guise image system) (gate : Label) :
    Mirrors guise (image.openGate gate) (system.openGate gate) :=
  { mirrors with openGates := congrArg (List.cons gate) mirrors.openGates }

theorem createScheduler (mirrors : Mirrors guise image system) (settings : Settings) :
    Agrees guise (image.createScheduler settings) (system.createScheduler settings) := by
  refine ⟨congrArg SchedulerId.mk mirrors.size_schedulers,
    { mirrors with scheduler? := fun id => ?_ }⟩
  have seen := mirrors.scheduler? id
  simp only [System.scheduler?, System.createScheduler, Array.getElem?_push] at seen ⊢
  rw [mirrors.size_schedulers, mirrors.isCancelled, seen]
  split
  · rw [Option.map_some, Scheduler.recast_start]
  · rfl

theorem submit? (mirrors : Mirrors guise image system) {id : SchedulerId}
    {host : Scheduler (Work V)} (found : system.scheduler? id = some host) (due : Int)
    (work : Work V) : image.submit? id due (guise.work id host.roster.nextId work) =
      (host.submit? due work).map fun (task, filled) =>
        (task, image.putScheduler id (filled.recast false (guise.work id))) := by
  rw [System.submit?, mirrors.scheduler?, found, Option.map_some, Option.bind_some,
    Scheduler.submit?_recast, Option.map_map]
  rfl

theorem cancelTask (mirrors : Mirrors guise image system) (id : SchedulerId) (task : TaskId) :
    Agrees guise (image.cancelTask id task) (system.cancelTask id task) := by
  unfold System.cancelTask
  rw [mirrors.scheduler?]
  cases system.scheduler? id with
  | none => exact ⟨rfl, mirrors⟩
  | some host =>
      dsimp only [Option.map_some]
      rw [Scheduler.cancel_recast]
      exact ⟨rfl, mirrors.putScheduler id _⟩

end Schedulers

section Caching

theorem createCache (mirrors : Mirrors guise image system) (suits : guise.Suits system)
    (scheduler : SchedulerId) :
    Agrees guise (image.createCache scheduler) (system.createCache scheduler) := by
  refine ⟨congrArg CacheId.mk mirrors.size_caches, { mirrors with found := ?_, absent := ?_ }⟩
  · intro id held found
    simp only [System.cache?, System.createCache, Array.getElem?_push] at found ⊢
    rw [mirrors.size_caches]
    split at found
    · rename_i new
      cases found
      have missing : system.cache? id = none := by
        rw [System.cache?, Array.getElem?_eq_none_iff]
        exact Nat.le_of_eq new.symm
      refine ⟨{ scheduler }, if_pos new, rfl, fun key => ?_, (suits.absent missing 1).symm, rfl, rfl⟩
      rw [show ({ scheduler } : Cache V).lease? key = none from Std.TreeMap.getElem?_emptyc]
      rfl
    · rename_i old
      rw [if_neg old]
      exact mirrors.found found
  · intro id missing
    rw [System.cache?, System.createCache, Array.getElem?_eq_none_iff, Array.size_push] at missing ⊢
    rwa [mirrors.size_caches]

theorem isUnlocked (mirrors : Mirrors guise image system) (id : CacheId) :
    image.isUnlocked id = system.isUnlocked id := by
  rw [System.isUnlocked, mirrors.bookings, List.any_map, System.isUnlocked]
  rfl

theorem isReadable (mirrors : Mirrors guise image system) (id : CacheId) :
    image.isReadable id = system.isReadable id := by
  rw [System.isReadable, mirrors.bookings, List.any_map, System.isReadable]
  rfl

theorem isAccessible (mirrors : Mirrors guise image system) (id : CacheId) (key : String)
    (access : Access V) :
    image.isAccessible id key access = system.isAccessible id key access := by
  cases access with
  | read =>
      rw [System.isAccessible, mirrors.isReadable, mirrors.bookings, List.any_map,
        System.isAccessible]
      rfl
  | add value ttl => exact mirrors.isUnlocked id
  | set value ttl => exact mirrors.isUnlocked id

/-- The first part of an access ends in the same way, or takes the same lock. -/
theorem book (mirrors : Mirrors guise image system) (suits : guise.Suits system) {id : CacheId}
    {twin cache : Cache V} (found : system.cache? id = some cache)
    (alike : twin.Mirrors (guise.number id) cache) (key : String) (access : Access V) :
    (∃ reply, image.book id twin key access = .error reply ∧
      system.book id cache key access = .error reply) ∨
    ∃ booking locked reflected, image.book id twin key access = .ok (guise.booking booking, reflected) ∧
      system.book id cache key access = .ok (booking, locked) ∧
      Mirrors guise reflected locked := by
  unfold System.book
  rw [alike.ttl?]
  cases cache.ttl? key access with
  | error error => exact .inl ⟨_, rfl, rfl⟩
  | ok ttl =>
      cases ttl with
      | none => exact .inl ⟨_, rfl, rfl⟩
      | some ttl =>
          have next : twin.advance.generation = guise.number id cache.advance.generation :=
            alike.generation
          have put := mirrors.putCache (alike.advance (suits.onward found _ (Nat.lt_succ_self _)))
          let booking : Booking V :=
            ⟨id, key, access, ttl, cache.advance.generation, ttl.after? system.now⟩
          refine .inr ⟨booking, _, { image.putCache id twin.advance with
            bookings := guise.booking booking :: image.bookings }, ?_, rfl, { put with
              bookings := congrArg (guise.booking booking :: ·) mirrors.bookings }⟩
          dsimp only
          rw [next, mirrors.now]
          rfl

theorem unlock (mirrors : Mirrors guise image system) (booking : Booking V) :
    Mirrors guise (image.unlock (guise.booking booking)) (system.unlock booking) := by
  refine { mirrors with bookings := ?_ }
  rw [System.unlock, mirrors.bookings, List.filter_map]
  refine congrArg (List.map guise.booking) (congrArg (List.filter · system.bookings) ?_)
  funext other
  by_cases own : other.cache = booking.cache
  · simp [Guise.booking, own, (guise.injective booking.cache).eq_iff]
  · simp [Guise.booking, own]

theorem extend (mirrors : Mirrors guise image system) (booking : Booking V) {twin cache : Cache V}
    (alike : twin.Mirrors (guise.number booking.cache) cache) (lease : Lease V) (deletion : TaskId)
    (deadline : Int) :
    Mirrors guise (image.extend (guise.booking booking) twin
        (lease.renumber (guise.number booking.cache)) deletion deadline)
      (system.extend booking cache lease deletion deadline) := by
  have cancelled := mirrors.cancelTask cache.scheduler lease.deletion
  have noted (inTime : Bool) :
      Cache.Mirrors (guise.number booking.cache)
        (if inTime then twin else twin.note (.outlived booking.key))
        (if inTime then cache else cache.note (.outlived booking.key)) := by
    cases inTime
    · exact alike.note _
    · exact alike
  unfold System.extend
  dsimp only
  rw [alike.scheduler, show (lease.renumber (guise.number booking.cache)).deletion = lease.deletion
    from rfl, cancelled.reply]
  exact cancelled.mirrors.putCache ((noted _).store booking.key
    { lease with deletion, deadline, generation := booking.generation })

theorem replace (mirrors : Mirrors guise image system) (booking : Booking V) {twin cache : Cache V}
    (alike : twin.Mirrors (guise.number booking.cache) cache) (value : V) (deletion : TaskId)
    (deadline : Int) :
    Agrees guise (image.replace (guise.booking booking) twin value deletion deadline)
      (system.replace booking cache value deletion deadline) := by
  have stored := mirrors.putCache (alike.store booking.key
    { value, deletion, deadline, ttl := booking.ttl, generation := booking.generation })
  unfold System.replace
  dsimp only
  rw [show (guise.booking booking).key = booking.key from rfl, alike.lease?]
  cases cache.lease? booking.key with
  | none => exact ⟨rfl, stored⟩
  | some old =>
      rw [alike.scheduler]
      exact ⟨rfl, (stored.cancelTask cache.scheduler old.deletion).mirrors⟩

theorem fulfil (mirrors : Mirrors guise image system) (booking : Booking V) {twin cache : Cache V}
    (alike : twin.Mirrors (guise.number booking.cache) cache) (deletion : TaskId) (deadline : Int) :
    Agrees guise (image.fulfil (guise.booking booking) twin deletion deadline)
      (system.fulfil booking cache deletion deadline) := by
  unfold System.fulfil
  rw [show (guise.booking booking).access = booking.access from rfl]
  cases booking.access with
  | read =>
      dsimp only
      rw [show (guise.booking booking).key = booking.key from rfl, alike.lease?]
      cases cache.lease? booking.key with
      | none => exact ⟨rfl, mirrors⟩
      | some lease => exact ⟨rfl, mirrors.extend booking alike lease deletion deadline⟩
  | add value ttl => exact ⟨rfl, (mirrors.replace booking alike value deletion deadline).mirrors⟩
  | set value ttl =>
      obtain ⟨reply, stored⟩ := mirrors.replace booking alike value deletion deadline
      exact ⟨congrArg Reply.found reply, stored⟩

theorem decline (mirrors : Mirrors guise image system) (booking : Booking V) {twin cache : Cache V}
    (alike : twin.Mirrors (guise.number booking.cache) cache) (error : SchedulerError) :
    Agrees guise (image.decline (guise.booking booking) twin error)
      (system.decline booking cache error) := by
  unfold System.decline
  rw [show (guise.booking booking).access = booking.access from rfl]
  cases booking.access with
  | read =>
      dsimp only
      rw [show (guise.booking booking).key = booking.key from rfl, alike.lease?, Option.map_map]
      exact ⟨rfl, mirrors.putCache (alike.note _)⟩
  | add value ttl => exact ⟨rfl, mirrors⟩
  | set value ttl => exact ⟨rfl, mirrors⟩

theorem resolve (mirrors : Mirrors guise image system) (booking : Booking V) :
    Agrees guise (image.resolve (guise.booking booking)) (system.resolve booking) := by
  unfold System.resolve
  rw [show (guise.booking booking).deadline = booking.deadline from rfl,
    show (guise.booking booking).cache = booking.cache from rfl]
  cases booking.deadline with
  | none => exact ⟨rfl, mirrors⟩
  | some deadline =>
      cases held : system.cache? booking.cache with
      | none =>
          rw [mirrors.absent held]
          exact ⟨rfl, mirrors⟩
      | some cache =>
          obtain ⟨twin, found, alike⟩ := mirrors.found held
          rw [found]
          dsimp only
          rw [alike.scheduler, mirrors.scheduler?]
          cases hosted : system.scheduler? cache.scheduler with
          | none => exact ⟨rfl, mirrors⟩
          | some host =>
              dsimp only [Option.map_some]
              have submitted := mirrors.submit? hosted deadline
                (.deletion booking.cache booking.key booking.generation)
              rw [Guise.work] at submitted
              rw [show (guise.booking booking).generation = guise.number booking.cache
                booking.generation from rfl, show (guise.booking booking).key = booking.key from rfl,
                submitted, submit?_of_found hosted]
              cases host.submit? deadline (.deletion booking.cache booking.key booking.generation) with
              | none => exact mirrors.decline booking alike host.refusal
              | some filled =>
                  exact (mirrors.putScheduler cache.scheduler filled.2).fulfil booking alike filled.1
                    deadline

theorem confirm (mirrors : Mirrors guise image system) (booking : Booking V) :
    Agrees guise (image.confirm (guise.booking booking)) (system.confirm booking) := by
  obtain ⟨reply, resolved⟩ := mirrors.resolve booking
  exact ⟨reply, (resolved.unlock booking).sweep⟩

theorem delete (mirrors : Mirrors guise image system) (id : CacheId) {twin cache : Cache V}
    (alike : twin.Mirrors (guise.number id) cache) (key : String) :
    Agrees guise (image.delete id twin key) (system.delete id cache key) := by
  unfold System.delete
  rw [alike.lease?]
  cases cache.lease? key with
  | none => exact ⟨rfl, mirrors⟩
  | some lease =>
      have cancelled := mirrors.cancelTask cache.scheduler lease.deletion
      dsimp only [Option.map_some]
      rw [alike.scheduler, show (lease.renumber (guise.number id)).deletion = lease.deletion from rfl,
        cancelled.reply]
      refine ⟨rfl, cancelled.mirrors.putCache ?_⟩
      split
      · exact alike.remove key
      · exact (alike.remove key).note _

theorem consult (mirrors : Mirrors guise image system) {number : Nat → Nat} {twin cache : Cache V}
    (alike : twin.Mirrors number cache) (query : CacheQuery) :
    image.consult twin query = system.consult cache query := by
  cases query with
  | contains key => exact congrArg Reply.flag (alike.contains key)
  | size => exact congrArg Reply.count alike.size
  | isEmpty => exact congrArg Reply.flag alike.isEmpty
  | keys => exact congrArg Reply.names alike.keys
  | debug =>
      simp only [System.consult, alike.scheduler, mirrors.scheduler?]
      cases system.scheduler? cache.scheduler with
      | none => rfl
      | some host =>
          exact congrArg Reply.text ((alike.debugText _).trans (by rw [Scheduler.debugText_recast]))
  | listing =>
      simp only [System.consult, alike.scheduler, mirrors.scheduler?]
      cases system.scheduler? cache.scheduler with
      | none => rfl
      | some host => simp only [Option.map_some, alike.headline, alike.keys, Scheduler.debugText_recast]

end Caching

section Answering

theorem submitTold (mirrors : Mirrors guise image system) (scheduler handle : Label) (due : Due)
    {script told : Script V}
    (fresh : ∀ {id host}, system.schedulerAt? scheduler = some (id, host) →
      guise.work id host.roster.nextId (.task scheduler handle script) =
        .task scheduler handle told) :
    Agrees guise (image.submit scheduler handle due told)
      (system.submit scheduler handle due script) := by
  unfold System.submit
  rw [mirrors.schedulerAt?]
  cases located : system.schedulerAt? scheduler with
  | none => exact ⟨rfl, mirrors⟩
  | some held =>
      obtain ⟨id, target⟩ := held
      dsimp only [Option.map_some]
      rw [mirrors.now]
      cases due.instant? system.now with
      | none => exact ⟨rfl, mirrors⟩
      | some instant =>
          have hosted := scheduler?_of_schedulerAt? located
          have submitted := mirrors.submit? hosted instant (.task scheduler handle script)
          rw [fresh located] at submitted
          dsimp only
          rw [submitted, submit?_of_found hosted]
          cases target.submit? instant (.task scheduler handle script) with
          | none => exact ⟨rfl, mirrors⟩
          | some filled =>
              refine ⟨rfl, { mirrors.putScheduler id filled.2 with handles := ?_ }⟩
              exact congrArg (Std.TreeMap.insert · handle ⟨id, filled.1⟩) mirrors.handles

theorem submit (mirrors : Mirrors guise image system) (suits : guise.Suits system)
    (scheduler handle : Label) (due : Due) (script : Script V) :
    Agrees guise (image.submit scheduler handle due script)
      (system.submit scheduler handle due script) :=
  mirrors.submitTold scheduler handle due fun located =>
    suits.fresh (scheduler?_of_schedulerAt? located) scheduler handle script

theorem cancel (mirrors : Mirrors guise image system) (scheduler handle : Label) :
    Agrees guise (image.cancel scheduler handle) (system.cancel scheduler handle) := by
  unfold System.cancel
  rw [mirrors.schedulerAt?, mirrors.handles]
  cases system.schedulerAt? scheduler with
  | none => exact ⟨rfl, mirrors⟩
  | some held =>
      obtain ⟨id, target⟩ := held
      cases system.handles[handle]? with
      | none => exact ⟨rfl, mirrors⟩
      | some held =>
          dsimp only [Option.map_some]
          split
          · obtain ⟨reply, cancelled⟩ := mirrors.cancelTask id held.id
            exact ⟨congrArg Reply.flag reply, cancelled⟩
          · exact ⟨rfl, mirrors.putScheduler id (target.disown held.id).2⟩

theorem fateOf (mirrors : Mirrors guise image system) (handle : Label) :
    image.fateOf handle = system.fateOf handle := by
  unfold System.fateOf
  rw [mirrors.handles]
  cases system.handles[handle]? with
  | none => rfl
  | some held =>
      dsimp only
      rw [mirrors.scheduler?]
      cases system.scheduler? held.scheduler <;> rfl

theorem inspect (mirrors : Mirrors guise image system) (scheduler : Label) (query : SchedulerQuery) :
    image.inspect scheduler query = system.inspect scheduler query := by
  unfold System.inspect
  rw [mirrors.schedulerAt?]
  cases system.schedulerAt? scheduler with
  | none => rfl
  | some found => cases query <;> simp

theorem labelScheduler (mirrors : Mirrors guise image system) (label : Label) (id : SchedulerId) :
    Mirrors guise (image.labelScheduler label id) (system.labelScheduler label id) := by
  refine sweep { mirrors with schedulerLabels := ?_ }
  exact congrArg (Std.TreeMap.insert · label id) mirrors.schedulerLabels

theorem labelNewCache (mirrors : Mirrors guise image system) (suits : guise.Suits system)
    (label : Label) (scheduler : SchedulerId) :
    Mirrors guise (image.labelNewCache label scheduler) (system.labelNewCache label scheduler) := by
  obtain ⟨same, created⟩ := mirrors.createCache suits scheduler
  unfold System.labelNewCache
  dsimp only
  rw [same]
  refine sweep { created with cacheLabels := ?_ }
  exact congrArg (Std.TreeMap.insert · label _) created.cacheLabels

theorem create (mirrors : Mirrors guise image system) (label : Label) (settings : Settings) :
    Agrees guise (image.create label settings) (system.create label settings) := by
  obtain ⟨same, created⟩ := mirrors.createScheduler settings
  unfold System.create
  dsimp only
  rw [same]
  exact ⟨rfl, created.labelScheduler label _⟩

theorem createCacheOn (mirrors : Mirrors guise image system) (suits : guise.Suits system)
    (label scheduler : Label) :
    Agrees guise (image.createCacheOn label scheduler) (system.createCacheOn label scheduler) := by
  unfold System.createCacheOn
  rw [mirrors.schedulerAt?]
  cases system.schedulerAt? scheduler with
  | none => exact ⟨rfl, mirrors⟩
  | some found => exact ⟨rfl, mirrors.labelNewCache suits label found.1⟩

theorem createCacheAlone (mirrors : Mirrors guise image system) (suits : guise.Suits system)
    (label : Label) (settings : Settings) :
    Agrees guise (image.createCacheAlone label settings)
      (system.createCacheAlone label settings) := by
  obtain ⟨same, created⟩ := mirrors.createScheduler settings
  have suited : guise.Suits (system.createScheduler settings).2 :=
    suits.evolves (Change.create system settings).evolves fun found => ⟨_, found, Nat.le_refl _⟩
  unfold System.createCacheAlone
  dsimp only
  rw [same]
  exact ⟨rfl, created.labelNewCache suited label _⟩

theorem schedulerOf (mirrors : Mirrors guise image system) (cache scheduler : Label) :
    Agrees guise (image.schedulerOf cache scheduler) (system.schedulerOf cache scheduler) := by
  unfold System.schedulerOf
  cases located : system.cacheAt? cache with
  | none =>
      rw [mirrors.cacheAt?_of_none located]
      exact ⟨rfl, mirrors⟩
  | some held =>
      obtain ⟨twin, found, alike⟩ := mirrors.cacheAt?_of_some located
      rw [found]
      dsimp only
      rw [alike.scheduler]
      exact ⟨rfl, mirrors.labelScheduler scheduler _⟩

theorem access? (mirrors : Mirrors guise image system) (suits : guise.Suits system) (label : Label)
    (key : String) (access : Access V) :
    Option.Rel (Agrees guise) (image.access? label key access)
      (system.access? label key access) := by
  unfold System.access?
  cases located : system.cacheAt? label with
  | none =>
      rw [mirrors.cacheAt?_of_none located]
      exact .some ⟨rfl, mirrors⟩
  | some held =>
      obtain ⟨id, cache⟩ := held
      obtain ⟨twin, found, alike⟩ := mirrors.cacheAt?_of_some located
      rw [found]
      dsimp only
      rw [mirrors.isAccessible]
      split
      · rcases mirrors.book suits (cache?_of_cacheAt? located) alike key access with
          ⟨reply, seen, own⟩ | ⟨booking, locked, reflected, seen, own, alike⟩
        · rw [seen, own]
          exact .some ⟨rfl, mirrors⟩
        · rw [seen, own]
          exact .some (alike.confirm booking)
      · exact .none

theorem delete? (mirrors : Mirrors guise image system) (label : Label) (key : String) :
    Option.Rel (Agrees guise) (image.delete? label key) (system.delete? label key) := by
  unfold System.delete?
  cases located : system.cacheAt? label with
  | none =>
      rw [mirrors.cacheAt?_of_none located]
      exact .some ⟨rfl, mirrors⟩
  | some held =>
      obtain ⟨id, cache⟩ := held
      obtain ⟨twin, found, alike⟩ := mirrors.cacheAt?_of_some located
      rw [found]
      dsimp only
      rw [mirrors.isUnlocked]
      split
      · exact .some (mirrors.delete id alike key)
      · exact .none

theorem consult? (mirrors : Mirrors guise image system) (label : Label) (query : CacheQuery) :
    image.consult? label query = system.consult? label query := by
  unfold System.consult?
  cases located : system.cacheAt? label with
  | none => rw [mirrors.cacheAt?_of_none located]
  | some held =>
      obtain ⟨id, cache⟩ := held
      obtain ⟨twin, found, alike⟩ := mirrors.cacheAt?_of_some located
      rw [found]
      dsimp only
      rw [mirrors.isReadable, mirrors.consult alike]

/-- A request waits on both systems, or it has the same answer. -/
theorem answer? (mirrors : Mirrors guise image system) (suits : guise.Suits system)
    (request : Request V) :
    Option.Rel (Agrees guise) (image.answer? request) (system.answer? request) := by
  cases request with
  | create label settings => exact .some (mirrors.create label settings)
  | inspect scheduler query => exact .some ⟨mirrors.inspect scheduler query, mirrors⟩
  | cancel scheduler handle => exact .some (mirrors.cancel scheduler handle)
  | fateOf handle => exact .some ⟨mirrors.fateOf handle, mirrors⟩
  | cancelToken token => exact .some ⟨rfl, mirrors.cancelToken token⟩
  | isCancelled token => exact .some ⟨congrArg Reply.flag (mirrors.isCancelled _), mirrors⟩
  | openGate gate => exact .some ⟨rfl, mirrors.openGate gate⟩
  | createCacheOn label scheduler => exact .some (mirrors.createCacheOn suits label scheduler)
  | createCacheAlone label settings =>
      exact .some (mirrors.createCacheAlone suits label settings)
  | schedulerOf cache scheduler => exact .some (mirrors.schedulerOf cache scheduler)
  | access label key access => exact mirrors.access? suits label key access
  | delete label key => exact mirrors.delete? label key
  | consult label query =>
      rw [System.answer?, mirrors.consult?, System.answer?]
      cases system.consult? label query with
      | none => exact .none
      | some reply => exact .some ⟨rfl, mirrors⟩

end Answering

end System.Mirrors

end Agenda
