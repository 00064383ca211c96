import Agenda.System.Ownership

/-!
# What is kept

A scheduler and a cache that have a label are kept, and what is kept stays as it is.
-/

namespace Agenda.System

universe u

variable {V : Type u} {system : System V}

theorem values_eq {value : Type u} (map : Std.TreeMap Label value) :
    map.values = map.toList.map Prod.snd := by
  have folded : map.values = map.foldr (fun _ value values => value :: values) [] := rfl
  rw [folded, Std.TreeMap.foldr_eq_foldr_toList]
  induction map.toList with
  | nil => rfl
  | cons pair pairs inductionHypothesis =>
      rw [List.foldr_cons, inductionHypothesis]
      rfl

theorem mem_values_iff {value : Type u} {map : Std.TreeMap Label value} {found : value} :
    found ∈ map.values ↔ ∃ label : Label, map[label]? = some found := by
  rw [values_eq, List.mem_map]
  constructor
  · rintro ⟨⟨label, _⟩, listed, rfl⟩
    exact ⟨label, Std.TreeMap.mem_toList_iff_getElem?_eq_some.1 listed⟩
  · rintro ⟨label, found⟩
    exact ⟨(label, _), Std.TreeMap.mem_toList_iff_getElem?_eq_some.2 found, rfl⟩

theorem keepsScheduler_of_label {label : Label} {id : SchedulerId}
    (labelled : system.schedulerLabels[label]? = some id) : system.keepsScheduler id = true := by
  have listed : system.schedulerLabels.values.contains id = true :=
    List.contains_iff_mem.2 (mem_values_iff.2 ⟨label, labelled⟩)
  rw [keepsScheduler, listed]
  rfl

theorem keepsCache_of_label {label : Label} {id : CacheId}
    (labelled : system.cacheLabels[label]? = some id) : system.keepsCache id = true := by
  have listed : system.cacheLabels.values.contains id = true :=
    List.contains_iff_mem.2 (mem_values_iff.2 ⟨label, labelled⟩)
  rw [keepsCache, listed]
  rfl

theorem cache?_sweepCaches (system : System V) (id : CacheId) :
    system.sweepCaches.cache? id = (system.cache? id).map fun cache =>
      if system.keepsCache id then cache else cache.drop :=
  Array.getElem?_mapIdx

theorem cache?_sweepCaches_of_label {cache : Label} {id : CacheId}
    (labelled : system.cacheLabels[cache]? = some id) :
    system.sweepCaches.cache? id = system.cache? id := by
  rw [cache?_sweepCaches, keepsCache_of_label labelled]
  simp

theorem scheduler?_sweepSchedulers (system : System V) (id : SchedulerId) :
    system.sweepSchedulers.scheduler? id = (system.scheduler? id).map fun host =>
      if system.keepsScheduler id then host else host.halt :=
  Array.getElem?_mapIdx

/-- Only schedulers that nobody refers to any more are halted. -/
theorem scheduler?_sweep {id : SchedulerId} {host : Scheduler (Work V)}
    (found : system.scheduler? id = some host) : system.sweep.scheduler? id =
      some (if system.sweep.keepsScheduler id then host else host.halt) := by
  have present : system.sweepCaches.scheduler? id = some host := found
  rw [sweep, scheduler?_sweepSchedulers, present, Option.map_some]
  rfl

/-- What nobody refers to any more is halted. -/
theorem halted_of_sweep {id : SchedulerId} {host : Scheduler (Work V)}
    (found : system.sweep.scheduler? id = some host)
    (alone : system.sweep.keepsScheduler id = false) : host.halted = true := by
  cases earlier : system.scheduler? id with
  | none =>
      have absent : system.sweep.scheduler? id = none := by
        rw [scheduler?, Array.getElem?_eq_none_iff] at earlier ⊢
        simpa [sweep, sweepSchedulers, sweepCaches] using earlier
      cases absent.symm.trans found
  | some old =>
      rw [scheduler?_sweep earlier, alone] at found
      cases found
      rfl

/-- If the only scheduler has a label, letting go of schedulers changes nothing. -/
theorem sweepSchedulers_of_label {label : Label} {scheduler : Scheduler (Work V)}
    (only : system.schedulers = #[scheduler])
    (labelled : system.schedulerLabels[label]? = some ⟨0⟩) : system.sweepSchedulers = system := by
  have kept : system.schedulers.mapIdx (fun index scheduler =>
      if system.keepsScheduler ⟨index⟩ then scheduler else scheduler.halt) = system.schedulers := by
    rw [only]
    apply Array.ext
    · simp
    · intro index inside _
      obtain rfl : index = 0 := by simpa using inside
      simp [keepsScheduler_of_label labelled]
  rw [sweepSchedulers, kept]

end Agenda.System
