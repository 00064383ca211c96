import Agenda.Proofs.System.Operation
import Agenda.Proofs.System.Owning

/-!
# What an operation may change

An operation changes the schedulers that it concerns and the caches that it touches, and leaves every
other one exactly as it is.  The only way in which it could reach further is that something loses its
last owner and is let go of; but whatever is let go of in an operation had its owner taken away in
the same operation.
-/

namespace Agenda

universe u

variable {V : Type u}

/-- The caches, schedulers and tokens that may change. -/
structure Scope where
  caches : CacheId → Prop
  schedulers : SchedulerId → Prop
  tokens : Label → Prop

def Operation.scope (system : System V) (operation : Operation V) : Scope where
  caches := operation.Touches system
  schedulers := operation.Concerns system
  tokens label := operation.demand? system = some (.request (.cancelToken label))

namespace System

def IsLabelled (system : System V) (id : SchedulerId) : Prop :=
  ∃ label : Label, system.schedulerLabels[label]? = some id

def IsShutting (system : System V) (id : SchedulerId) : Prop :=
  ∃ call ∈ system.calls, call.owner = true ∧ call.scheduler = id

def IsHeld (system : System V) (id : CacheId) : Prop :=
  (∃ label : Label, system.cacheLabels[label]? = some id) ∨
    ∃ booking ∈ system.bookings, booking.cache = id

/-- A cache that is held has been dropped: there is no such cache in a reachable system. -/
def IsStray (system : System V) (id : CacheId) : Prop :=
  system.IsHeld id ∧ ∃ cache, system.cache? id = some cache ∧ cache.dropped = true

theorem keepsScheduler_iff {system : System V} {id : SchedulerId} :
    system.keepsScheduler id = true ↔ system.IsLabelled id ∨
      (∃ place cache, system.cache? place = some cache ∧ cache.dropped = false ∧
        cache.scheduler = id) ∨ system.IsShutting id := by
  rw [keepsScheduler, Bool.or_eq_true, Bool.or_eq_true, List.contains_iff_mem, mem_values_iff,
    Array.any_eq_true, List.any_eq_true, or_assoc]
  refine or_congr Iff.rfl (or_congr ?_ ?_)
  · constructor
    · rintro ⟨index, inside, kept⟩
      simp only [Bool.and_eq_true, Bool.not_eq_true', decide_eq_true_eq] at kept
      exact ⟨⟨index⟩, _, Array.getElem?_eq_getElem inside, kept.1, kept.2⟩
    · rintro ⟨place, cache, found, kept, rfl⟩
      obtain ⟨inside, same⟩ := Array.getElem?_eq_some_iff.1 found
      refine ⟨place.index, inside, ?_⟩
      rw [same, kept]
      simp
  · simp only [IsShutting, Bool.and_eq_true, decide_eq_true_eq]

theorem keepsCache_iff {system : System V} {id : CacheId} :
    system.keepsCache id = true ↔ system.IsHeld id ∨
      ∃ place task key generation, system.hand? place = some (task, .deletion id key generation) := by
  rw [keepsCache, Bool.or_eq_true, Bool.or_eq_true, List.contains_iff_mem, mem_values_iff,
    List.any_eq_true, isDeleting_iff]
  simp only [decide_eq_true_eq, IsHeld]

/-- Only what is in the scope changes, and only what is in the scope loses an owner.  Nobody gets an
owner again who has none, and nobody has the stop signal without a cause. -/
structure Confined (scope : Scope) (before after : System V) : Prop where
  scheduler : ∀ {id host}, before.scheduler? id = some host → ¬ scope.schedulers id →
    after.scheduler? id = some host
  cache : ∀ {id cache}, before.cache? id = some cache → ¬ scope.caches id →
    after.cache? id = some cache
  labelled : ∀ {id}, before.IsLabelled id → ¬ scope.schedulers id → after.IsLabelled id
  shutting : ∀ {id}, before.IsShutting id → ¬ scope.schedulers id → after.IsShutting id
  keepsCache : ∀ {id}, before.keepsCache id = true → ¬ scope.caches id →
    after.keepsCache id = true
  /-- No scheduler disappears. -/
  known : ∀ {id host}, before.scheduler? id = some host → ∃ changed, after.scheduler? id = some changed
  kept : ∀ {id host}, before.scheduler? id = some host → after.keepsScheduler id = true →
    before.keepsScheduler id = true
  grounded : ∀ {id host}, after.scheduler? id = some host → host.halted = true →
    after.isCancelled host.settings.token = true ∨ after.keepsScheduler id = false ∨
      ∃ old, before.scheduler? id = some old ∧ old.settings = host.settings ∧ old.halted = true
  lasting : ∀ {label}, label ∈ before.cancelledTokens → label ∈ after.cancelledTokens
  tokens : ∀ {label}, label ∈ after.cancelledTokens →
    label ∈ before.cancelledTokens ∨ scope.tokens label
  strays : ∀ {id}, after.IsStray id → before.IsStray id

variable {scope : Scope} {system before middle after moved : System V} {id : SchedulerId}
  {host : Scheduler (Work V)} {place : CacheId} {cache : Cache V} {caller : Caller}

theorem isCancelled_of_lasting
    (lasting : ∀ {label}, label ∈ before.cancelledTokens → label ∈ after.cancelledTokens)
    {token : Token} (cancelled : before.isCancelled token = true) :
    after.isCancelled token = true := by
  obtain ⟨label, own, listed⟩ := isCancelled_iff.1 cancelled
  exact isCancelled_iff.2 ⟨label, own, lasting listed⟩

namespace Confined

theorem trans (first : Confined scope before middle) (second : Confined scope middle after) :
    Confined scope before after where
  scheduler found apart := second.scheduler (first.scheduler found apart) apart
  cache found apart := second.cache (first.cache found apart) apart
  labelled named apart := second.labelled (first.labelled named apart) apart
  shutting called apart := second.shutting (first.shutting called apart) apart
  keepsCache kept apart := second.keepsCache (first.keepsCache kept apart) apart
  known found := by
    obtain ⟨_, found⟩ := first.known found
    exact second.known found
  kept found kept := by
    obtain ⟨_, there⟩ := first.known found
    exact first.kept found (second.kept there kept)
  grounded {id host} found halted := by
    rcases second.grounded found halted with cancelled | alone | ⟨old, there, settings, already⟩
    · exact .inl cancelled
    · exact .inr (.inl alone)
    · rcases first.grounded there already with cancelled | alone | ⟨older, earlier, same, still⟩
      · rw [settings] at cancelled
        exact .inl (isCancelled_of_lasting second.lasting cancelled)
      · refine .inr (.inl ?_)
        rw [← Bool.not_eq_true] at alone ⊢
        exact fun kept => alone (second.kept there kept)
      · exact .inr (.inr ⟨older, earlier, same.trans settings, still⟩)
  lasting listed := second.lasting (first.lasting listed)
  tokens listed := by
    rcases second.tokens listed with earlier | own
    · exact first.tokens earlier
    · exact .inr own
  strays stray := first.strays (second.strays stray)

/-- What is let go of at the end of an operation has lost its owner in the operation. -/
theorem sweep (confined : Confined scope before system) (owned : before.Owned)
    (covers : ∀ {place cache}, before.cache? place = some cache → scope.caches place →
      scope.schedulers cache.scheduler) : Confined scope before system.sweep := by
  have labels : system.sweep.cacheLabels = system.cacheLabels := rfl
  have keepsCache (id : CacheId) : system.sweep.keepsCache id = system.keepsCache id :=
    keepsCache_congr labels rfl (Quiet.sweep system).hands id
  have caches (id : CacheId) : system.sweep.cache? id = (system.cache? id).map fun cache =>
      if system.keepsCache id then cache else cache.drop := cache?_sweepCaches system id
  have cache {id : CacheId} {cache : Cache V} (found : before.cache? id = some cache)
      (apart : ¬ scope.caches id) : system.sweep.cache? id = some cache := by
    rw [caches, confined.cache found apart, Option.map_some]
    cases kept : before.keepsCache id with
    | true => rw [confined.keepsCache kept apart, if_pos rfl]
    | false =>
        have gone := owned.dropped found kept
        split
        · rfl
        · exact congrArg some (congrArg (fun dropped => { cache with dropped }) gone.symm)
  have fewer {id : SchedulerId} (kept : system.sweep.keepsScheduler id = true) :
      system.keepsScheduler id = true := by
    rw [keepsScheduler_iff] at kept ⊢
    refine kept.imp_right (.imp_left ?_)
    rintro ⟨place, cache, found, used, own⟩
    rw [caches] at found
    obtain ⟨old, there, rfl⟩ := Option.map_eq_some_iff.1 found
    split at used
    · rename_i kept
      rw [if_pos kept] at own
      exact ⟨place, old, there, used, own⟩
    · cases used
  -- outside of the scope every owner is still there, so that only what had none is let go of
  have keeps {id : SchedulerId} (kept : before.keepsScheduler id = true)
      (apart : ¬ scope.schedulers id) : system.sweep.keepsScheduler id = true := by
    rw [keepsScheduler_iff] at kept ⊢
    rcases kept with named | ⟨place, old, found, used, own⟩ | called
    · exact .inl (confined.labelled named apart)
    · refine .inr (.inl ⟨place, old, cache found fun touched => ?_, used, own⟩)
      exact apart (own ▸ covers found touched)
    · exact .inr (.inr (confined.shutting called apart))
  refine ⟨fun {id host} found apart => ?_, cache, confined.labelled, confined.shutting, ?_, ?_, ?_,
    ?_, confined.lasting, confined.tokens, ?_⟩
  · rw [scheduler?_sweep (confined.scheduler found apart)]
    cases kept : before.keepsScheduler id with
    | true => rw [keeps kept apart, if_pos rfl]
    | false =>
        have gone := owned.halted found kept
        split
        · rfl
        · exact congrArg some (congrArg (fun halted => { host with halted }) gone.symm)
  · intro id kept apart
    rw [keepsCache]
    exact confined.keepsCache kept apart
  · intro id host found
    obtain ⟨_, there⟩ := confined.known found
    exact ⟨_, scheduler?_sweep there⟩
  · exact fun found kept => confined.kept found (fewer kept)
  · intro id host found halted
    cases kept : system.sweep.keepsScheduler id with
    | false => exact .inr (.inl rfl)
    | true =>
        cases there : system.scheduler? id with
        | none =>
            have absent : system.sweep.schedulers.size = system.schedulers.size := by
              simp [System.sweep, sweepSchedulers, sweepCaches]
            rw [scheduler?, Array.getElem?_eq_none_iff, ← absent] at there
            rw [scheduler?, Array.getElem?_eq_none_iff.2 there] at found
            cases found
        | some old =>
            rw [scheduler?_sweep there, kept, if_pos rfl] at found
            cases found
            rcases confined.grounded there halted with cancelled | alone | earlier
            · exact .inl cancelled
            · cases alone.symm.trans (fewer kept)
            · exact .inr (.inr earlier)
  · rintro id ⟨held, gone, found, dropped⟩
    have holds : system.IsHeld id := held
    rw [caches, keepsCache_iff.2 (.inl holds)] at found
    obtain ⟨old, there, rfl⟩ := Option.map_eq_some_iff.1 found
    exact confined.strays ⟨holds, old, there, dropped⟩

end Confined

section Parts

/-- Nothing changes for the schedulers, the caches and their owners. -/
theorem confined_of_eq (schedulers : after.schedulers = before.schedulers)
    (caches : after.caches = before.caches)
    (labels : after.schedulerLabels = before.schedulerLabels)
    (cacheLabels : after.cacheLabels = before.cacheLabels)
    (bookings : after.bookings = before.bookings) (calls : after.calls = before.calls)
    (tokens : after.cancelledTokens = before.cancelledTokens) : Confined scope before after where
  scheduler found _ := by rwa [scheduler?, schedulers]
  cache found _ := by rwa [cache?, caches]
  labelled named _ := by rwa [IsLabelled, labels]
  shutting called _ := by rwa [IsShutting, calls]
  keepsCache kept _ := (keepsCache_congr cacheLabels bookings (hand?_congr schedulers) _).trans kept
  known {id host} found := ⟨host, by rwa [scheduler?, schedulers]⟩
  kept _ kept := by rwa [keepsScheduler, labels, caches, calls] at kept
  grounded {id host} found halted := by
    rw [scheduler?, schedulers] at found
    exact .inr (.inr ⟨host, found, rfl, halted⟩)
  lasting listed := tokens ▸ listed
  tokens listed := .inl (tokens ▸ listed)
  strays {id} stray := by rwa [IsStray, IsHeld, cache?, cacheLabels, bookings, caches] at stray

/-- A scheduler in the scope goes on.  Its worker leaves no deletion, or one from a cache in the
scope. -/
theorem confined_put (found : system.scheduler? id = some host) (own : scope.schedulers id)
    (new : Scheduler (Work V)) (settings : new.settings = host.settings)
    (halted : new.halted = true → host.halted = true)
    (hands : ∀ {task place key generation},
      host.worker = .busy task (.deletion place key generation) →
        scope.caches place ∨ new.worker = host.worker) :
    Confined scope system (system.putScheduler id new) where
  scheduler {other third} seen apart := by
    have different : other ≠ id := by
      rintro rfl
      exact apart own
    rwa [scheduler?_putScheduler_of_ne system different]
  cache found _ := found
  labelled named _ := named
  shutting called _ := called
  keepsCache {target} kept apart := by
    rw [keepsCache_iff] at kept ⊢
    refine kept.imp_right ?_
    rintro ⟨place, task, key, generation, held⟩
    refine ⟨place, task, key, generation, ?_⟩
    by_cases same : place = id
    · subst same
      rw [hand?_of_found found] at held
      rw [hand?_putScheduler_self found]
      rcases hands (Worker.hand?_eq_some_iff.1 held) with touched | still
      · exact absurd touched apart
      · rw [still, held]
    · rw [hand?_putScheduler_of_ne system same, held]
  known {other third} seen := by
    by_cases same : other = id
    · subst same
      exact ⟨new, scheduler?_putScheduler_self found new⟩
    · exact ⟨third, (scheduler?_putScheduler_of_ne system same new).trans seen⟩
  kept _ kept := kept
  grounded {other third} seen stops := by
    by_cases same : other = id
    · subst same
      cases (scheduler?_putScheduler_self found new).symm.trans seen
      exact .inr (.inr ⟨host, found, settings.symm, halted stops⟩)
    · rw [scheduler?_putScheduler_of_ne system same] at seen
      exact .inr (.inr ⟨third, seen, rfl, stops⟩)
  lasting listed := listed
  tokens listed := .inl listed
  strays stray := stray

theorem confined_mark (found : system.scheduler? id = some host) (own : scope.schedulers id)
    (new : Scheduler (Work V)) (settings : new.settings = host.settings)
    (halted : new.halted = true → host.halted = true) (worker : new.worker = host.worker) :
    Confined scope system (system.putScheduler id new) :=
  confined_put found own new settings halted fun _ => .inr worker

theorem confined_putCache (found : system.cache? place = some cache) (own : scope.caches place)
    (new : Cache V) (scheduler : new.scheduler = cache.scheduler)
    (dropped : new.dropped = cache.dropped) : Confined scope system (system.putCache place new) := by
  have seen {other : CacheId} {third : Cache V}
      (there : (system.putCache place new).cache? other = some third) :
      ∃ old, system.cache? other = some old ∧ third.scheduler = old.scheduler ∧
        third.dropped = old.dropped := by
    by_cases same : other = place
    · subst same
      cases (cache?_putCache_self found new).symm.trans there
      exact ⟨cache, found, scheduler, dropped⟩
    · rw [cache?_putCache_of_ne system same] at there
      exact ⟨third, there, rfl, rfl⟩
  refine ⟨fun found _ => found, ?_, fun named _ => named, fun called _ => called,
    fun kept _ => kept, fun found => ⟨_, found⟩, ?_, ?_, id, .inl, ?_⟩
  · intro other third there apart
    have different : other ≠ place := by
      rintro rfl
      exact apart own
    rwa [cache?_putCache_of_ne system different]
  · intro target host _ kept
    rw [keepsScheduler_iff] at kept ⊢
    refine kept.imp_right (.imp_left ?_)
    rintro ⟨other, third, there, used, on⟩
    obtain ⟨old, earlier, hosted, gone⟩ := seen there
    exact ⟨other, old, earlier, gone.symm.trans used, hosted.symm.trans on⟩
  · intro target host there halted
    exact .inr (.inr ⟨host, there, rfl, halted⟩)
  · rintro target ⟨held, third, there, used⟩
    obtain ⟨old, earlier, _, gone⟩ := seen there
    exact ⟨held, old, earlier, gone.symm.trans used⟩

/-- Calls come in, go on and end.  Those in the scope may end, and no shutdown comes in of a
scheduler without owner. -/
theorem confined_recall {calls : List Call}
    (shutting : ∀ {id}, system.IsShutting id → ¬ scope.schedulers id →
      ∃ call ∈ calls, call.owner = true ∧ call.scheduler = id)
    (owners : ∀ call ∈ calls, call.owner = true → system.keepsScheduler call.scheduler = true) :
    Confined scope system { system with calls } where
  scheduler found _ := found
  cache found _ := found
  labelled named _ := named
  shutting := shutting
  keepsCache kept _ := kept
  known found := ⟨_, found⟩
  kept _ kept := by
    rw [keepsScheduler_iff] at kept
    rcases kept with named | stocked | ⟨call, listed, owner, rfl⟩
    · exact keepsScheduler_iff.2 (.inl named)
    · exact keepsScheduler_iff.2 (.inr (.inl stocked))
    · exact owners call listed owner
  grounded {id host} found halted := .inr (.inr ⟨host, found, rfl, halted⟩)
  lasting listed := listed
  tokens listed := .inl listed
  strays stray := stray

/-- Accesses take and let go of locks.  Those in the scope may let go, and none takes the lock of a
cache that is not held. -/
theorem confined_rebook {bookings : List (Booking V)}
    (holding : ∀ booking ∈ system.bookings, ¬ scope.caches booking.cache →
      ∃ other ∈ bookings, other.cache = booking.cache)
    (holders : ∀ booking ∈ bookings, system.IsHeld booking.cache) :
    Confined scope system { system with bookings } where
  scheduler found _ := found
  cache found _ := found
  labelled named _ := named
  shutting called _ := called
  keepsCache {place} kept apart := by
    rw [keepsCache_iff] at kept ⊢
    refine kept.imp_left fun held => held.imp_right ?_
    rintro ⟨booking, listed, rfl⟩
    exact holding booking listed apart
  known found := ⟨_, found⟩
  kept _ kept := kept
  grounded {id host} found halted := .inr (.inr ⟨host, found, rfl, halted⟩)
  lasting listed := listed
  tokens listed := .inl listed
  strays {place} stray := by
    obtain ⟨held, gone⟩ := stray
    refine ⟨?_, gone⟩
    rcases held with named | ⟨booking, listed, rfl⟩
    · exact .inl named
    · exact holders booking listed

/-- Cancelling a token halts the schedulers that were set up with it. -/
theorem scheduler?_cancelToken (system : System V) (label : Label) (id : SchedulerId) :
    (system.cancelToken label).scheduler? id = (system.scheduler? id).map fun host =>
      if host.settings.token = .named label then host.halt else host :=
  Array.getElem?_map

theorem confined_cancelToken (label : Label)
    (own : ∀ {id host}, system.scheduler? id = some host → host.settings.token = .named label →
      scope.schedulers id)
    (given : scope.tokens label) : Confined scope system (system.cancelToken label) where
  scheduler {id host} found apart := by
    rw [scheduler?_cancelToken, found, Option.map_some, if_neg]
    exact fun same => apart (own found same)
  cache found _ := found
  labelled named _ := named
  shutting called _ := called
  keepsCache {place} kept _ := by
    have labels : (system.cancelToken label).cacheLabels = system.cacheLabels := rfl
    rwa [keepsCache_congr labels rfl (Quiet.cancelToken system label).hands]
  known found := ⟨_, by rw [scheduler?_cancelToken, found, Option.map_some]⟩
  kept _ kept := kept
  grounded {id host} found halted := by
    rw [scheduler?_cancelToken] at found
    obtain ⟨old, there, rfl⟩ := Option.map_eq_some_iff.1 found
    by_cases same : old.settings.token = .named label
    · rw [if_pos same]
      exact .inl (isCancelled_iff.2 ⟨label, same, List.mem_cons_self⟩)
    · rw [if_neg same] at halted ⊢
      exact .inr (.inr ⟨old, there, rfl, halted⟩)
  lasting listed := List.mem_cons_of_mem _ listed
  tokens listed := by
    rcases List.mem_cons.1 listed with rfl | earlier
    · exact .inr given
    · exact .inl earlier
  strays stray := stray

/-- Only new schedulers come in, which have the stop signal if their token is cancelled. -/
structure Grows (before after : System V) : Prop where
  frame : ∃ schedulers, after = { before with schedulers }
  old : ∀ {id host}, before.scheduler? id = some host → after.scheduler? id = some host
  fresh : ∀ {id host}, before.scheduler? id = none → after.scheduler? id = some host →
    host.halted = true → before.isCancelled host.settings.token = true
  hands : ∀ id, after.hand? id = before.hand? id

theorem Grows.refl (system : System V) : Grows system system where
  frame := ⟨_, rfl⟩
  old found := found
  fresh absent found := by cases absent.symm.trans found
  hands _ := rfl

theorem grows_createScheduler (system : System V) (settings : Settings) :
    Grows system (system.createScheduler settings).2 where
  frame := ⟨_, rfl⟩
  old {id host} found := by
    obtain ⟨inside, _⟩ := Array.getElem?_eq_some_iff.1 found
    simp only [scheduler?, createScheduler, Array.getElem?_push] at *
    rw [if_neg (by omega)]
    exact found
  fresh {id host} absent found halted := by
    simp only [scheduler?, createScheduler, Array.getElem?_push] at *
    split at found
    · cases found
      exact halted
    · cases absent.symm.trans found
  hands := (Quiet.createScheduler system settings).hands

theorem getElem?_insert_label {value : Type u} (labels : Std.TreeMap Label value)
    (label other : Label) (new : value) :
    (labels.insert label new)[other]? = if other = label then some new else labels[other]? := by
  rw [Std.TreeMap.getElem?_insert]
  by_cases same : other = label
  · simp [same]
  · simp [same, Ne.symm same]

theorem getElem?_erase_label {value : Type u} (labels : Std.TreeMap Label value)
    (label other : Label) :
    (labels.erase label)[other]? = if other = label then none else labels[other]? := by
  rw [Std.TreeMap.getElem?_erase]
  by_cases same : other = label
  · simp [same]
  · simp [same, Ne.symm same]

/-- New schedulers and caches come in, and labels go over from one to another.  Whatever loses a
label is in the scope, and what gets a new owner is new or had an owner before. -/
theorem Grows.relabel {grown : System V} (grows : Grows before grown) (caches : Array (Cache V))
    (schedulerLabels : Std.TreeMap Label SchedulerId) (cacheLabels : Std.TreeMap Label CacheId)
    (stock : ∀ {place cache}, before.cache? place = some cache → caches[place.index]? = some cache)
    (labelled : ∀ {label : Label} {id}, before.schedulerLabels[label]? = some id →
      scope.schedulers id ∨ schedulerLabels[label]? = some id)
    (cacheLabelled : ∀ {label : Label} {place}, before.cacheLabels[label]? = some place →
      scope.caches place ∨ cacheLabels[label]? = some place)
    (owners : ∀ {label : Label} {id host}, schedulerLabels[label]? = some id →
      before.scheduler? id = some host → before.keepsScheduler id = true)
    (hosts : ∀ {place : CacheId} {cache host}, caches[place.index]? = some cache →
      cache.dropped = false → before.scheduler? cache.scheduler = some host →
      before.keepsScheduler cache.scheduler = true)
    (strays : ∀ {label : Label} {place : CacheId} {cache}, cacheLabels[label]? = some place →
      caches[place.index]? = some cache → cache.dropped = true → before.IsStray place)
    (known : ∀ {place : CacheId} {cache : Cache V}, before.cache? place = none →
      caches[place.index]? = some cache → cache.dropped = false) :
    Confined scope before { grown with caches, schedulerLabels, cacheLabels } := by
  obtain ⟨schedulers, rfl⟩ := grows.frame
  refine ⟨fun found _ => grows.old found, fun found _ => stock found, ?_, fun called _ => called,
    ?_, fun found => ⟨_, grows.old found⟩, ?_, ?_, id, .inl, ?_⟩
  · rintro id ⟨label, named⟩ apart
    exact ⟨label, (labelled named).resolve_left apart⟩
  · intro place kept apart
    rw [keepsCache_iff] at kept ⊢
    rcases kept with (⟨label, named⟩ | booked) | ⟨id, task, key, generation, held⟩
    · exact .inl (.inl ⟨label, (cacheLabelled named).resolve_left apart⟩)
    · exact .inl (.inr booked)
    · exact .inr ⟨id, task, key, generation, (grows.hands id).trans held⟩
  · intro id host found kept
    rw [keepsScheduler_iff] at kept
    rcases kept with ⟨label, named⟩ | ⟨place, cache, there, used, rfl⟩ | called
    · exact owners named found
    · exact hosts there used found
    · exact keepsScheduler_iff.2 (.inr (.inr called))
  · intro id host found halted
    cases earlier : before.scheduler? id with
    | none => exact .inl (grows.fresh earlier found halted)
    | some old =>
        cases (grows.old earlier).symm.trans found
        exact .inr (.inr ⟨host, rfl, rfl, halted⟩)
  · rintro place ⟨⟨label, named⟩ | booked, cache, there, gone⟩
    · exact strays named there gone
    · refine ⟨.inr booked, ?_⟩
      cases earlier : before.cache? place with
      | none => cases (known earlier there).symm.trans gone
      | some old =>
          cases (stock earlier).symm.trans there
          exact ⟨cache, rfl, gone⟩

end Parts

end System

end Agenda
