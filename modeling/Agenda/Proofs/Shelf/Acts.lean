import Agenda.Proofs.Shelf.Accesses

/-!
# Acts on caches

Entries are taken out, questions answered and caches created as on shelves.  What is harmless makes
no difference to any entry.
-/

namespace Agenda

universe u

variable {V : Type u}

def Shelf.Question.query : Shelf.Question → CacheQuery
  | .contains key => .contains key
  | .size => .size
  | .isEmpty => .isEmpty
  | .keys => .keys

namespace Shelves.Pairs

variable {shelves : Shelves V} {system : System V} {scheduler : Scheduler (Work V)} {name : Label}
  {shelf : Shelf V} {id : CacheId} {cache : Cache V}

theorem equiv (pairs : shelves.Pairs system scheduler name shelf id cache) :
    Std.TreeMap.Equiv shelf (cache.leases.map fun _ lease => lease.record) := by
  apply Std.TreeMap.Equiv.of_forall_constGet?_eq
  intro key
  have mapped : (cache.leases.map fun _ lease => lease.record)[key]?
      = (cache.lease? key).map Lease.record := Std.TreeMap.getElem?_map
  exact (pairs.reads key).trans mapped.symm

theorem answer (pairs : shelves.Pairs system scheduler name shelf id cache)
    (question : Shelf.Question) : system.consult cache question.query = shelf.answer question := by
  have keys := pairs.equiv
  cases question with
  | contains key => exact congrArg Reply.flag (pairs.contains key).symm
  | size => exact congrArg Reply.count (keys.size_eq.trans Std.TreeMap.size_map).symm
  | isEmpty => exact congrArg Reply.flag (keys.isEmpty_eq.trans Std.TreeMap.isEmpty_map).symm
  | keys => exact congrArg Reply.names (keys.keys_eq.trans Std.TreeMap.keys_map).symm

end Shelves.Pairs

namespace System

variable {shelves : Shelves V} {system moved : System V} {label : Label} {token : Token}
  {before after : Scheduler (Work V)} {shelf : Shelf V} {id : CacheId} {cache : Cache V}

theorem AtRest.meets_ask (rest : system.AtRest label token before) (alike : shelves.Alike system)
    (name : Label) (question : Shelf.Question) :
    ∃ given, system.answer? (.consult name question.query) = some given ∧
      Shelves.Meets label token (shelves.use name fun shelf => (shelf.answer question, shelf))
        given := by
  cases present : shelves.shelf? name with
  | none =>
      refine ⟨(.noCache, system), ?_, ?_⟩
      · rw [answer?, consult?, alike.absent present]
        rfl
      · rw [Shelves.use, present]
        exact ⟨rfl, alike, before, rest.toTidy⟩
  | some shelf =>
      obtain ⟨id, cache, pairs⟩ := alike.pairs rest.toTidy present
      have readable : system.isReadable id = true := by simp [isReadable, rest.bookings]
      refine ⟨(shelf.answer question, system), ?_, ?_⟩
      · rw [answer?, consult?, pairs.cacheAt?]
        simp only [readable, if_true, Option.map_some, pairs.answer]
      · rw [Shelves.use, present]
        dsimp only
        rw [Shelves.place_eq present]
        exact ⟨rfl, alike, before, rest.toTidy⟩

theorem AtRest.takeOut (rest : system.AtRest label token before) {name : Label}
    (pairs : shelves.Pairs system before name shelf id cache) (key : String) :
    Shelves.Meets label token ((shelf.delete key).1, shelves.place name (shelf.delete key).2)
      (system.delete id cache key) := by
  have erased {changed : Cache V} (leases : ∀ other, changed.lease? other
      = if other = key then none else cache.lease? other) (other : String) :
      (shelf.erase key)[other]? = (changed.lease? other).map Lease.record := by
    rw [Std.TreeMap.getElem?_erase, leases, pairs.reads]
    by_cases same : other = key
    · simp [same]
    · simp [same, Ne.symm same]
  rw [Shelf.delete, pairs.value]
  cases present : cache.lease? key with
  | none =>
      have same : system.delete id cache key = (.found none, system) := by
        simp only [System.delete, present]
      have alike := pairs.alter rest.toTidy (Alters.refl pairs.keeps.found) (erased ?_)
      · rw [same]
        exact ⟨rfl, alike, before, rest.toTidy⟩
      · intro other
        split
        · rename_i own
          rw [own, present]
        · rfl
  | some old =>
      obtain ⟨changed, loses, deleted⟩ := delete_eq rest.only pairs.keeps.place id present
      obtain ⟨held, _⟩ := pairs.keeps.tended.held rest.free present
      have alters := alters_amend pairs.keeps.found changed (before.cancel old.deletion).2
      have keeps : (system.amend id changed (before.cancel old.deletion).2).Keeps
          (before.cancel old.deletion).2 id changed :=
        ⟨alters.own, loses.scheduler.trans pairs.keeps.place,
          loses.dropped.trans pairs.keeps.dropped,
          pairs.keeps.tended.loses rest.free rest.clean.sound loses present⟩
      have tidy := rest.alter alters (rest.amend id changed _) (rest.clean.cancel old.deletion)
        (rest.handled.cancel rfl old.deletion) (fun _ => keeps)
        fun different tends => tends.release rest.clean.sound held fun same => absurd same different
      rw [deleted]
      exact ⟨rfl, pairs.alter rest.toTidy alters (erased loses.lease?), _, tidy⟩

theorem AtRest.meets_delete (rest : system.AtRest label token before)
    (alike : shelves.Alike system) (name : Label) (key : String) :
    ∃ given, system.answer? (.delete name key) = some given ∧
      Shelves.Meets label token (shelves.use name fun shelf => shelf.delete key) given := by
  cases present : shelves.shelf? name with
  | none =>
      refine ⟨(.noCache, system), ?_, ?_⟩
      · rw [answer?, delete?, alike.absent present]
      · rw [Shelves.use, present]
        exact ⟨rfl, alike, before, rest.toTidy⟩
  | some shelf =>
      obtain ⟨id, cache, pairs⟩ := alike.pairs rest.toTidy present
      have unlocked : system.isUnlocked id = true := by simp [isUnlocked, rest.bookings]
      refine ⟨system.delete id cache key, ?_, ?_⟩
      · rw [answer?, delete?, pairs.cacheAt?]
        simp only [unlocked, if_true]
      · rw [Shelves.use, present]
        exact rest.takeOut pairs key

def withCache (system : System V) (name : Label) : System V :=
  { system with
    caches := system.caches.push { scheduler := ⟨0⟩ }
    cacheLabels := system.cacheLabels.insert name ⟨system.caches.size⟩ }

theorem cacheLabels_withCache (system : System V) (name other : Label) :
    (system.withCache name).cacheLabels[other]?
      = if other = name then some ⟨system.caches.size⟩ else system.cacheLabels[other]? := by
  rw [withCache, Std.TreeMap.getElem?_insert]
  by_cases same : other = name
  · simp [same]
  · simp [same, Ne.symm same]

theorem cache?_withCache_self (system : System V) (name : Label) :
    (system.withCache name).cache? ⟨system.caches.size⟩ = some { scheduler := ⟨0⟩ } :=
  Array.getElem?_push_size

theorem cache?_withCache_of_found (name : Label) (found : system.cache? id = some cache) :
    (system.withCache name).cache? id = some cache := by
  obtain ⟨inside, _⟩ := Array.getElem?_eq_some_iff.1 found
  have old : (system.withCache name).cache? id = some system.caches[id.index] :=
    Array.getElem?_push_lt inside
  rw [old, ← found, cache?, Array.getElem?_eq_getElem inside]

/-- A new cache is tended, since nothing is to be deleted from it. -/
theorem tends_new (id : CacheId) (bears : before.Bears (Work.IsHarmless token id.index))
    (now : Int) : before.Tends now id { scheduler := ⟨0⟩ } := by
  refine ⟨?_, ?_, ?_⟩
  · intro key lease found
    cases Std.TreeMap.getElem?_emptyc.symm.trans found
  · intro due task key generation held
    exact absurd (bears.queued _ held) (Nat.lt_irrefl _)
  · intro task key generation busy
    exact absurd (bears.busy busy) (Nat.lt_irrefl _)

theorem Tidy.inside (tidy : system.Tidy label token before) {name : Label}
    (labelled : system.cacheLabels[name]? = some id) : id.index < system.caches.size := by
  obtain ⟨_, keeps⟩ := tidy.kept labelled
  exact (Array.getElem?_eq_some_iff.1 keeps.found).1

theorem Tidy.withCache (tidy : system.Tidy label token before) (name : Label) :
    (system.withCache name).Tidy label token before := by
  refine ⟨⟨tidy.only, tidy.label, tidy.calls⟩, tidy.bookings, ?_, tidy.handled, ?_, ?_⟩
  · have size : (system.withCache name).caches.size = system.caches.size + 1 := Array.size_push ..
    rw [size]
    exact tidy.clean.grow (Nat.le_succ _)
  · intro other id labelled
    rw [cacheLabels_withCache] at labelled
    split at labelled
    · cases labelled
      exact ⟨_, cache?_withCache_self system name, rfl, rfl,
        tends_new ⟨system.caches.size⟩ tidy.clean.bears _⟩
    · obtain ⟨found, keeps⟩ := tidy.kept labelled
      exact ⟨found, cache?_withCache_of_found name keeps.found, keeps.place, keeps.dropped,
        keeps.tended⟩
  · intro first second id labelled same
    rw [cacheLabels_withCache] at labelled same
    split at labelled
    · rename_i own
      cases labelled
      split at same
      · rename_i other
        exact own.trans other.symm
      · exact absurd (tidy.inside same) (Nat.lt_irrefl _)
    · split at same
      · cases same
        exact absurd (tidy.inside labelled) (Nat.lt_irrefl _)
      · exact tidy.apart labelled same

theorem Tidy.record?_withCache (tidy : system.Tidy label token before) (name other : Label)
    (key : String) : (system.withCache name).record? other key
      = if other = name then none else system.record? other key := by
  have labels := cacheLabels_withCache system name other
  split
  · rename_i same
    rw [if_pos same] at labels
    rw [record?_of_label labels (cache?_withCache_self system name)]
    exact congrArg (Option.map Lease.record) Std.TreeMap.getElem?_emptyc
  · rename_i different
    rw [if_neg different] at labels
    cases labelled : system.cacheLabels[other]? with
    | none =>
        rw [labelled] at labels
        rw [record?_of_none labels, record?_of_none labelled]
    | some id =>
        obtain ⟨found, keeps⟩ := tidy.kept labelled
        rw [labelled] at labels
        rw [record?_of_label labels (cache?_withCache_of_found name keeps.found),
          record?_of_label labelled keeps.found]

theorem AtRest.meets_create (rest : system.AtRest label token before)
    (alike : shelves.Alike system) (name : Label) :
    ∃ given, system.answer? (.createCacheOn name label) = some given ∧
      Shelves.Meets label token (.ok, shelves.place name ∅) given := by
  have created : system.createCacheOn name label = (.ok, (system.withCache name).sweep) := by
    rw [createCacheOn, rest.schedulerAt?]
    rfl
  have tidy := rest.withCache name
  have same : (shelves.place name ∅).Alike (system.withCache name) := by
    refine ⟨alike.now, ?_, ?_⟩
    · intro other
      rw [cacheLabels_withCache, Shelves.shelf?_place]
      split
      · rfl
      · exact alike.known other
    · intro other key
      rw [rest.record?_withCache, Shelves.shelf?_place]
      split
      · exact Std.TreeMap.getElem?_emptyc.symm
      · exact alike.records other key
  refine ⟨(.ok, (system.withCache name).sweep), ?_, rfl, same.sweep tidy, before, tidy.sweep⟩
  rw [answer?, created]

theorem Tidy.perform (tidy : system.Tidy label token before) {deed : Session.Deed V}
    (harmless : deed.IsHarmless token) :
    Undisturbed label token system (Session.perform system deed).2 := by
  cases deed with
  | submit target handle due script => exact tidy.submit target handle due harmless
  | request asked =>
      have mild : asked.IsHarmless token := harmless
      have answered := isSome_answer? system mild
      obtain ⟨⟨reply, moved⟩, answered⟩ := Option.isSome_iff_exists.1 answered
      rw [Session.perform, answered]
      exact tidy.answer harmless answered
  | part parting helper => exact harmless.elim

end System

end Agenda
