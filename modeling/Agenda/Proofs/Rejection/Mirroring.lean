import Agenda.Proofs.Scheduler.Recasting
import Agenda.Proofs.Deletion.Dating
import Agenda.Proofs.Scheduler.Completing
import Agenda.System.Answering

/-!
# Systems that cannot be told apart

Two systems mirror each other if they differ in what nobody sees: the numbers of the generations, the
scripts that tasks have still to do, and what became known before some point of time.
-/

namespace Agenda

universe u v

variable {V : Type u}

def Lease.renumber (number : Nat → Nat) (lease : Lease V) : Lease V :=
  { lease with generation := number lease.generation }

theorem map_eq_of_getElem? {α β : Type*} {γ : Type*} {items : Array α} {others : Array β}
    {first : α → γ} {second : β → γ}
    (same : ∀ index : Nat, items[index]?.map first = others[index]?.map second) :
    items.map first = others.map second := by
  apply Array.ext_getElem?
  intro index
  rw [Array.getElem?_map, Array.getElem?_map, same]

theorem any_eq_of_getElem? {α β : Type*} {items : Array α} {others : Array β}
    {first : α → Bool} {second : β → Bool}
    (same : ∀ index : Nat, items[index]?.map first = others[index]?.map second) :
    items.any first = others.any second := by
  have flags := congrArg (Array.any · id) (map_eq_of_getElem? same)
  rw [Array.any_map, Array.any_map] at flags
  exact flags

theorem rel_map {α β γ δ : Type*} {related : α → β → Prop} {kin : γ → δ → Prop}
    {first : α → γ} {second : β → δ} (maps : ∀ {a b}, related a b → kin (first a) (second b))
    {item : Option α} {other : Option β} (pair : Option.Rel related item other) :
    Option.Rel kin (item.map first) (other.map second) := by
  cases pair with
  | none => exact .none
  | some pair => exact .some (maps pair)

theorem eq_none_of_rel {α β : Type*} {related : α → β → Prop} {item : Option α}
    (pair : Option.Rel related item none) : item = none := by
  cases pair
  rfl

theorem exists_of_rel {α β : Type*} {related : α → β → Prop} {item : Option α} {other : β}
    (pair : Option.Rel related item (some other)) :
    ∃ found, item = some found ∧ related found other := by
  cases pair with
  | some pair => exact ⟨_, rfl, pair⟩

theorem exists_some_of_rel {α β : Type*} {related : α → β → Prop} {item : α} {other : Option β}
    (pair : Option.Rel related (some item) other) :
    ∃ found, other = some found ∧ related item found := by
  cases pair with
  | some pair => exact ⟨_, rfl, pair⟩

theorem rel_findSome? {α β γ : Type*} {related : β → γ → Prop} {first : α → Option β}
    {second : α → Option γ} (pairs : ∀ item, Option.Rel related (first item) (second item))
    (items : List α) : Option.Rel related (items.findSome? first) (items.findSome? second) := by
  induction items with
  | nil => exact .none
  | cons item items inductionHypothesis =>
      rw [List.findSome?_cons, List.findSome?_cons]
      have pair := pairs item
      cases found : second item with
      | none =>
          rw [found] at pair
          rw [eq_none_of_rel pair]
          exact inductionHypothesis
      | some other =>
          rw [found] at pair
          obtain ⟨one, seen, alike⟩ := exists_of_rel pair
          rw [seen]
          exact .some alike

/-- How a system differs from the one that it mirrors. -/
structure Guise (V : Type u) where
  /-- What a task has still to do. -/
  script : SchedulerId → TaskId → Script V → Script V
  /-- The number of a generation of a cache. -/
  number : CacheId → Nat → Nat
  injective : ∀ id, Function.Injective (number id)
  /-- What had become known, and what had in the other system. -/
  heard : List (Event V)
  kept : List (Event V)

namespace Guise

variable (guise : Guise V) {before after system : System V}

def work (id : SchedulerId) (task : TaskId) : Work V → Work V
  | .task label handle script => .task label handle (guise.script id task script)
  | .deletion cache key generation => .deletion cache key (guise.number cache generation)

def booking (booking : Booking V) : Booking V :=
  { booking with generation := guise.number booking.cache booking.generation }

structure Suits (system : System V) : Prop where
  known : ∀ {id task script}, guise.script id task script ≠ script →
    ∃ host, system.scheduler? id = some host ∧ host.roster.fate? task ≠ none
  absent : ∀ {id}, system.cache? id = none → ∀ generation, guise.number id generation = generation
  onward : ∀ {id cache}, system.cache? id = some cache → ∀ generation, cache.generation < generation →
    guise.number id (generation + 1) = guise.number id generation + 1

def Renumbers : Prop := ∀ id task, guise.script id task = fun script => script

variable {guise}

namespace Suits

theorem goOn (suits : guise.Suits before)
    (hosts : ∀ {id host}, before.scheduler? id = some host →
      ∃ changed, after.scheduler? id = some changed ∧ host.roster.count ≤ changed.roster.count)
    (caches : ∀ {id cache}, before.cache? id = some cache →
      ∃ changed, after.cache? id = some changed ∧ cache.generation ≤ changed.generation) :
    guise.Suits after := by
  constructor
  · intro id task script different
    obtain ⟨host, found, known⟩ := suits.known different
    obtain ⟨changed, again, more⟩ := hosts found
    exact ⟨changed, again, Roster.known_of_count_le more known⟩
  · intro id missing
    cases earlier : before.cache? id with
    | none => exact suits.absent earlier
    | some cache =>
        obtain ⟨changed, again, _⟩ := caches earlier
        cases missing.symm.trans again
  · intro id cache found generation later
    cases earlier : before.cache? id with
    | none => rw [suits.absent earlier, suits.absent earlier]
    | some old =>
        obtain ⟨changed, again, more⟩ := caches earlier
        cases found.symm.trans again
        exact suits.onward earlier generation (Nat.lt_of_le_of_lt more later)

theorem put (suits : guise.Suits system) {id : SchedulerId} {host changed : Scheduler (Work V)}
    (found : system.scheduler? id = some host) (more : host.roster.count ≤ changed.roster.count) :
    guise.Suits (system.putScheduler id changed) := by
  refine suits.goOn (fun {other old} earlier => ?_) fun found => ⟨_, found, Nat.le_refl _⟩
  by_cases own : other = id
  · subst own
    cases found.symm.trans earlier
    exact ⟨changed, System.scheduler?_putScheduler_self found changed, more⟩
  · exact ⟨old, (System.scheduler?_putScheduler_of_ne system own changed).trans earlier, Nat.le_refl _⟩

theorem evolves (suits : guise.Suits before) (evolves : System.Evolves before after)
    (caches : ∀ {id cache}, before.cache? id = some cache →
      ∃ changed, after.cache? id = some changed ∧ cache.generation ≤ changed.generation) :
    guise.Suits after := by
  refine suits.goOn (fun earlier => ?_) caches
  obtain ⟨_, changed, again, run⟩ := evolves.old earlier
  exact ⟨changed, again, run.count_le⟩

theorem change (suits : guise.Suits before) (numbered : before.Numbered)
    (change : System.Change before after) : guise.Suits after := by
  refine suits.evolves change.evolves fun found => ?_
  obtain ⟨changed, again, _, turn⟩ := change.turns found numbered.readsPresent
  exact ⟨changed, again, turn.generation_le⟩

/-- Time may pass. -/
theorem pass (suits : guise.Suits system) (later : Int) : guise.Suits { system with now := later } :=
  ⟨suits.known, suits.absent, suits.onward⟩

theorem leads (suits : guise.Suits before) (numbered : before.Numbered)
    (leads : System.Leads before after) : guise.Suits after :=
  (leads.keepsNumbered numbered (fun suits numbered change => suits.change numbered change)
    (fun suits => suits.pass _) suits).2

end Suits

end Guise

namespace Cache

/-- A cache is told from its mirror image by the numbers of its generations. -/
structure Mirrors (number : Nat → Nat) (image cache : Cache V) : Prop where
  scheduler : image.scheduler = cache.scheduler
  lease? : ∀ key, image.lease? key = (cache.lease? key).map (Lease.renumber number)
  /-- The next generation. -/
  generation : image.generation + 1 = number (cache.generation + 1)
  dropped : image.dropped = cache.dropped
  journal : image.journal = cache.journal

namespace Mirrors

variable {number : Nat → Nat} {image cache : Cache V}

theorem leases (mirrors : Mirrors number image cache) :
    image.leases.Equiv (cache.leases.map fun _ lease => lease.renumber number) := by
  apply Std.TreeMap.Equiv.of_forall_constGet?_eq
  intro key
  rw [Std.TreeMap.getElem?_map]
  exact mirrors.lease? key

theorem contains (mirrors : Mirrors number image cache) (key : String) :
    image.contains key = cache.contains key :=
  mirrors.leases.contains_eq.trans Std.TreeMap.contains_map

theorem size (mirrors : Mirrors number image cache) : image.size = cache.size :=
  mirrors.leases.size_eq.trans Std.TreeMap.size_map

theorem isEmpty (mirrors : Mirrors number image cache) : image.isEmpty = cache.isEmpty :=
  mirrors.leases.isEmpty_eq.trans Std.TreeMap.isEmpty_map

theorem keys (mirrors : Mirrors number image cache) : image.keys = cache.keys :=
  mirrors.leases.keys_eq.trans Std.TreeMap.keys_map

theorem debugText (mirrors : Mirrors number image cache) (scheduler : String) :
    image.debugText scheduler = cache.debugText scheduler := by
  rw [Cache.debugText, mirrors.size, Cache.debugText]

theorem headline (mirrors : Mirrors number image cache) : image.headline = cache.headline := by
  rw [Cache.headline, mirrors.size, Cache.headline]

theorem ttl? (mirrors : Mirrors number image cache) (key : String) (access : Access V) :
    image.ttl? key access = cache.ttl? key access := by
  unfold Cache.ttl?
  rw [mirrors.lease?, mirrors.contains, Option.map_map]
  rfl

theorem note (mirrors : Mirrors number image cache) (notice : CacheNotice) :
    Mirrors number (image.note notice) (cache.note notice) :=
  { mirrors with journal := congrArg (Array.push · notice) mirrors.journal }

theorem drop (mirrors : Mirrors number image cache) : Mirrors number image.drop cache.drop :=
  { mirrors with dropped := rfl }

theorem advance (mirrors : Mirrors number image cache)
    (onward : number (cache.generation + 2) = number (cache.generation + 1) + 1) :
    Mirrors number image.advance cache.advance :=
  { mirrors with generation := (congrArg (· + 1) mirrors.generation).trans onward.symm }

theorem store (mirrors : Mirrors number image cache) (key : String) (lease : Lease V) :
    Mirrors number (image.store key (lease.renumber number)) (cache.store key lease) := by
  refine { mirrors with lease? := fun other => ?_ }
  rw [lease?_store, lease?_store, mirrors.lease?]
  split <;> rfl

theorem remove (mirrors : Mirrors number image cache) (key : String) :
    Mirrors number (image.remove key) (cache.remove key) := by
  refine { mirrors with lease? := fun other => ?_ }
  rw [lease?_remove, lease?_remove, mirrors.lease?]
  split <;> rfl

/-- What is outdated in one cache is outdated in the other. -/
theorem expire (mirrors : Mirrors number image cache) (injective : Function.Injective number)
    (key : String) (generation : Nat) :
    Mirrors number (image.expire key (number generation)) (cache.expire key generation) := by
  have current (lease : Lease V) : decide ((lease.renumber number).generation = number generation) =
      decide (lease.generation = generation) :=
    decide_eq_decide.2 injective.eq_iff
  unfold Cache.expire
  simp only [mirrors.lease?, Option.any_map, current]
  split
  · exact (mirrors.remove key).note _
  · exact mirrors

end Mirrors

end Cache

namespace System

theorem scheduler?_putScheduler (system : System V) (id other : SchedulerId)
    (host : Scheduler (Work V)) : (system.putScheduler id host).scheduler? other =
      if other = id then (system.scheduler? id).map fun _ => host else system.scheduler? other := by
  by_cases own : other = id
  · subst own
    rw [if_pos rfl]
    cases found : system.scheduler? other with
    | none =>
        rw [Option.map_none, scheduler?, Array.getElem?_eq_none_iff]
        rw [scheduler?, Array.getElem?_eq_none_iff] at found
        exact Nat.le_trans (Nat.le_of_eq Array.size_setIfInBounds) found
    | some old => exact scheduler?_putScheduler_self found host
  · rw [if_neg own, scheduler?_putScheduler_of_ne system own]

/-- A system is told from its mirror image by the guise only. -/
structure Mirrors (guise : Guise V) (image system : System V) : Prop where
  now : image.now = system.now
  scheduler? : ∀ id, image.scheduler? id =
    (system.scheduler? id).map (Scheduler.recast false (guise.work id))
  found : ∀ {id cache}, system.cache? id = some cache →
    ∃ twin, image.cache? id = some twin ∧ twin.Mirrors (guise.number id) cache
  absent : ∀ {id}, system.cache? id = none → image.cache? id = none
  schedulerLabels : image.schedulerLabels = system.schedulerLabels
  cacheLabels : image.cacheLabels = system.cacheLabels
  handles : image.handles = system.handles
  cancelledTokens : image.cancelledTokens = system.cancelledTokens
  openGates : image.openGates = system.openGates
  bookings : image.bookings = system.bookings.map guise.booking
  calls : image.calls = system.calls
  events : ∃ news, image.events.toList = guise.heard ++ news ∧
    system.events.toList = guise.kept ++ news
  returned : image.returned = system.returned

/-- The same is answered, and the systems are left alike. -/
structure Agrees {α : Type v} (guise : Guise V) (image answer : α × System V) : Prop where
  reply : image.1 = answer.1
  mirrors : Mirrors guise image.2 answer.2

namespace Mirrors

variable {guise : Guise V} {image system : System V}

section Parts

theorem size_schedulers (mirrors : Mirrors guise image system) :
    image.schedulers.size = system.schedulers.size := by
  have ends (index : Nat) : image.schedulers.size ≤ index ↔ system.schedulers.size ≤ index := by
    rw [← Array.getElem?_eq_none_iff, ← Array.getElem?_eq_none_iff]
    exact (congrArg (· = none) (mirrors.scheduler? ⟨index⟩)).to_iff.trans Option.map_eq_none_iff
  exact Nat.le_antisymm ((ends _).2 (Nat.le_refl _)) ((ends _).1 (Nat.le_refl _))

theorem size_caches (mirrors : Mirrors guise image system) :
    image.caches.size = system.caches.size := by
  have ends (index : Nat) : image.caches.size ≤ index ↔ system.caches.size ≤ index := by
    rw [← Array.getElem?_eq_none_iff, ← Array.getElem?_eq_none_iff]
    constructor
    · intro none
      cases held : system.cache? ⟨index⟩ with
      | none => exact held
      | some cache =>
          obtain ⟨twin, found, _⟩ := mirrors.found held
          cases found.symm.trans none
    · exact fun none => mirrors.absent none
  exact Nat.le_antisymm ((ends _).2 (Nat.le_refl _)) ((ends _).1 (Nat.le_refl _))

theorem schedulerAt? (mirrors : Mirrors guise image system) (label : Label) :
    image.schedulerAt? label = (system.schedulerAt? label).map fun (id, host) =>
      (id, host.recast false (guise.work id)) := by
  unfold System.schedulerAt?
  rw [mirrors.schedulerLabels]
  cases system.schedulerLabels[label]? with
  | none => rfl
  | some id =>
      rw [Option.bind_some, Option.bind_some, mirrors.scheduler?]
      cases system.scheduler? id <;> rfl

theorem cacheAt?_of_some (mirrors : Mirrors guise image system) {label : Label} {id : CacheId}
    {cache : Cache V} (located : system.cacheAt? label = some (id, cache)) :
    ∃ twin, image.cacheAt? label = some (id, twin) ∧ twin.Mirrors (guise.number id) cache := by
  obtain ⟨own, labelled, held⟩ := Option.bind_eq_some_iff.1 located
  obtain ⟨_, held, same⟩ := Option.map_eq_some_iff.1 held
  cases same
  obtain ⟨twin, found, alike⟩ := mirrors.found held
  refine ⟨twin, ?_, alike⟩
  rw [System.cacheAt?, mirrors.cacheLabels, labelled, Option.bind_some, found]
  rfl

theorem cacheAt?_of_none (mirrors : Mirrors guise image system) {label : Label}
    (missing : system.cacheAt? label = none) : image.cacheAt? label = none := by
  unfold System.cacheAt? at missing ⊢
  rw [mirrors.cacheLabels]
  cases labelled : system.cacheLabels[label]? with
  | none => rfl
  | some id =>
      rw [labelled, Option.bind_some, Option.map_eq_none_iff] at missing
      rw [Option.bind_some, mirrors.absent missing]
      rfl

theorem isCancelled (mirrors : Mirrors guise image system) (token : Token) :
    image.isCancelled token = system.isCancelled token := by
  cases token with
  | own => rfl
  | named label => exact congrArg (List.contains · label) mirrors.cancelledTokens

theorem putScheduler (mirrors : Mirrors guise image system) (id : SchedulerId)
    (host : Scheduler (Work V)) :
    Mirrors guise (image.putScheduler id (host.recast false (guise.work id)))
      (system.putScheduler id host) := by
  refine { mirrors with scheduler? := fun other => ?_ }
  rw [scheduler?_putScheduler, scheduler?_putScheduler, mirrors.scheduler?, mirrors.scheduler?]
  split
  · rename_i own
    rw [own, Option.map_map, Option.map_map]
    rfl
  · rfl

theorem putCache (mirrors : Mirrors guise image system) {id : CacheId} {twin cache : Cache V}
    (alike : twin.Mirrors (guise.number id) cache) :
    Mirrors guise (image.putCache id twin) (system.putCache id cache) := by
  refine { mirrors with found := ?_, absent := ?_ }
  · intro other held found
    by_cases own : other = id
    · subst own
      cases earlier : system.cache? other with
      | none => cases (cache?_putCache_of_none earlier cache).symm.trans found
      | some old =>
          cases (cache?_putCache_self earlier cache).symm.trans found
          obtain ⟨_, there, _⟩ := mirrors.found earlier
          exact ⟨twin, cache?_putCache_self there twin, alike⟩
    · rw [cache?_putCache_of_ne system own] at found
      rw [cache?_putCache_of_ne image own]
      exact mirrors.found found
  · intro other none
    rw [System.cache?, System.putCache, Array.getElem?_eq_none_iff, Array.size_setIfInBounds]
      at none ⊢
    rwa [mirrors.size_caches]

theorem report (mirrors : Mirrors guise image system) (event : Event V) :
    Mirrors guise (image.report event) (system.report event) := by
  refine { mirrors with events := ?_ }
  obtain ⟨news, heard, kept⟩ := mirrors.events
  refine ⟨news ++ [event], ?_, ?_⟩
  · rw [System.report, Array.toList_push, heard, List.append_assoc]
  · rw [System.report, Array.toList_push, kept, List.append_assoc]

end Parts

section Ownership

theorem map_cache? (mirrors : Mirrors guise image system) {α : Type v} (shown : Cache V → α)
    (same : ∀ {number} {twin cache : Cache V}, twin.Mirrors number cache → shown twin = shown cache)
    (index : Nat) : image.caches[index]?.map shown = system.caches[index]?.map shown := by
  cases held : system.cache? ⟨index⟩ with
  | none =>
      rw [show system.caches[index]? = none from held,
        show image.caches[index]? = none from mirrors.absent held]
  | some cache =>
      obtain ⟨twin, found, alike⟩ := mirrors.found held
      rw [show system.caches[index]? = some cache from held,
        show image.caches[index]? = some twin from found, Option.map_some, Option.map_some, same alike]

theorem isDeleting (mirrors : Mirrors guise image system) (id : CacheId) :
    image.isDeleting id = system.isDeleting id := by
  apply any_eq_of_getElem?
  intro index
  rw [show image.schedulers[index]? = _ from mirrors.scheduler? ⟨index⟩, System.scheduler?,
    Option.map_map]
  congr 1
  funext host
  rw [Function.comp_apply, Scheduler.worker_recast]
  cases host.worker with
  | busy task work => cases work <;> rfl
  | _ => rfl

theorem keepsCache (mirrors : Mirrors guise image system) (id : CacheId) :
    image.keepsCache id = system.keepsCache id := by
  rw [System.keepsCache, mirrors.isDeleting, mirrors.cacheLabels, mirrors.bookings, List.any_map,
    System.keepsCache]
  rfl

theorem keepsScheduler (mirrors : Mirrors guise image system) (id : SchedulerId) :
    image.keepsScheduler id = system.keepsScheduler id := by
  have caches := any_eq_of_getElem? (mirrors.map_cache? (fun cache =>
    !cache.dropped && cache.scheduler = id) fun alike => by rw [alike.dropped, alike.scheduler])
  rw [System.keepsScheduler, caches, mirrors.schedulerLabels, mirrors.calls, System.keepsScheduler]

theorem sweepCaches (mirrors : Mirrors guise image system) :
    Mirrors guise image.sweepCaches system.sweepCaches := by
  refine { mirrors with found := ?_, absent := ?_ }
  · intro id held found
    rw [cache?_sweepCaches] at found ⊢
    obtain ⟨cache, earlier, rfl⟩ := Option.map_eq_some_iff.1 found
    obtain ⟨twin, there, alike⟩ := mirrors.found earlier
    rw [there, mirrors.keepsCache]
    refine ⟨_, rfl, ?_⟩
    split
    · exact alike
    · exact alike.drop
  · intro id missing
    rw [cache?_sweepCaches, Option.map_eq_none_iff] at missing ⊢
    exact mirrors.absent missing

theorem sweepSchedulers (mirrors : Mirrors guise image system) :
    Mirrors guise image.sweepSchedulers system.sweepSchedulers := by
  refine { mirrors with scheduler? := fun id => ?_ }
  rw [scheduler?_sweepSchedulers, scheduler?_sweepSchedulers, mirrors.scheduler?,
    mirrors.keepsScheduler, Option.map_map, Option.map_map]
  congr 1
  funext host
  exact (apply_ite (Scheduler.recast false (guise.work id)) _ host host.halt).symm

theorem sweep (mirrors : Mirrors guise image system) : Mirrors guise image.sweep system.sweep :=
  mirrors.sweepCaches.sweepSchedulers

end Ownership

end Mirrors

end System

end Agenda
