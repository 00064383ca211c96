import Agenda.Proofs.Shelf.Settling

/-!
# Caches and their shelves

A system and some shelves are alike if every cache that has a label has the entries of the shelf
under that label.
-/

namespace Agenda

universe u

variable {V : Type u}

namespace Shelves

/-- Every cache has the entries of the shelf with its label. -/
structure Alike (shelves : Shelves V) (system : System V) : Prop where
  now : system.now = shelves.now
  known : ∀ cache : Label, system.cacheLabels[cache]?.isSome = (shelves.shelf? cache).isSome
  records : ∀ (cache : Label) (key : String),
    system.record? cache key = (shelves.shelf? cache).bind fun shelf => shelf[key]?

/-- A reply of a system, and what it is like afterwards, are those of the shelves. -/
structure Meets (label : Label) (token : Token) (expected : Reply V × Shelves V)
    (given : Reply V × System V) : Prop where
  reply : given.1 = expected.1
  alike : expected.2.Alike given.2
  tidy : ∃ scheduler, given.2.Tidy label token scheduler

structure Pairs (shelves : Shelves V) (system : System V) (scheduler : Scheduler (Work V))
    (name : Label) (shelf : Shelf V) (id : CacheId) (cache : Cache V) : Prop where
  alike : shelves.Alike system
  present : shelves.shelf? name = some shelf
  labelled : system.cacheLabels[name]? = some id
  keeps : system.Keeps scheduler id cache
  reads : ∀ key : String, shelf[key]? = (cache.lease? key).map Lease.record

variable {shelves : Shelves V} {system moved : System V} {label name : Label} {token : Token}
  {scheduler : Scheduler (Work V)} {shelf : Shelf V} {id : CacheId} {cache changed : Cache V}

theorem place_eq (present : shelves.shelf? name = some shelf) :
    shelves.place name shelf = shelves := by
  rw [place, Function.update_eq_self_iff.2 present.symm]

namespace Alike

theorem absent (alike : shelves.Alike system) (absent : shelves.shelf? name = none) :
    system.cacheAt? name = none := by
  have known := alike.known name
  rw [absent, Option.isSome_none, Option.isSome_eq_false_iff, Option.isNone_iff_eq_none] at known
  rw [System.cacheAt?, known]
  rfl

theorem pairs (alike : shelves.Alike system) (tidy : system.Tidy label token scheduler)
    (present : shelves.shelf? name = some shelf) :
    ∃ id cache, shelves.Pairs system scheduler name shelf id cache := by
  have known := alike.known name
  rw [present, Option.isSome_some, Option.isSome_iff_exists] at known
  obtain ⟨id, labelled⟩ := known
  obtain ⟨cache, keeps⟩ := tidy.kept labelled
  refine ⟨id, cache, alike, present, labelled, keeps, ?_⟩
  intro key
  have same := alike.records name key
  rw [present, System.record?_of_label labelled keeps.found] at same
  exact same.symm

theorem spare (alike : shelves.Alike system) (spares : System.Spares system moved) :
    shelves.Alike moved := by
  refine ⟨spares.now.trans alike.now, ?_, ?_⟩
  · intro name
    rw [spares.cacheLabels]
    exact alike.known name
  · intro name key
    rw [spares.record?]
    exact alike.records name key

theorem tick (alike : shelves.Alike system) (span : Int) :
    Alike { shelves with now := shelves.now + span } { system with now := system.now + span } :=
  ⟨congrArg (· + span) alike.now, alike.known, alike.records⟩

theorem sweep (alike : shelves.Alike system) (tidy : system.Tidy label token scheduler) :
    shelves.Alike system.sweep := by
  rw [tidy.sweep_eq]
  refine ⟨alike.now, alike.known, ?_⟩
  intro name key
  rw [System.record?_sweepCaches]
  exact alike.records name key

end Alike

namespace Pairs

theorem cacheAt? (pairs : shelves.Pairs system scheduler name shelf id cache) :
    system.cacheAt? name = some (id, cache) := by
  rw [System.cacheAt?, pairs.labelled, Option.bind_some, pairs.keeps.found]
  rfl

theorem contains (pairs : shelves.Pairs system scheduler name shelf id cache) (key : String) :
    shelf.contains key = cache.contains key := by
  rw [Cache.contains, Std.TreeMap.contains_eq_isSome_getElem?,
    Std.TreeMap.contains_eq_isSome_getElem?, pairs.reads, Option.isSome_map]
  rfl

theorem value (pairs : shelves.Pairs system scheduler name shelf id cache) (key : String) :
    shelf[key]?.map Record.value = (cache.lease? key).map Lease.value := by
  rw [pairs.reads, Option.map_map]
  rfl

theorem alter (pairs : shelves.Pairs system scheduler name shelf id cache)
    (tidy : system.Tidy label token scheduler) (alters : System.Alters id changed system moved)
    {after : Shelf V}
    (reads : ∀ key : String, after[key]? = (changed.lease? key).map Lease.record) :
    (shelves.place name after).Alike moved := by
  refine ⟨alters.now.trans pairs.alike.now, ?_, ?_⟩
  · intro other
    rw [alters.cacheLabels, shelf?_place]
    split
    · rename_i same
      rw [same, pairs.labelled]
      rfl
    · exact pairs.alike.known other
  · intro other key
    rw [shelf?_place]
    split
    · rename_i same
      rw [same, alters.record?_self pairs.labelled, Option.bind_some, reads]
    · rename_i different
      have others : system.cacheLabels[other]? ≠ some id := fun own =>
        different (tidy.apart own pairs.labelled)
      rw [alters.record?_of_ne others]
      exact pairs.alike.records other key

end Pairs

end Shelves

end Agenda
