import Agenda.Proofs.Deletion.Linking
import Agenda.Proofs.Deletion.Dating

/-!
# Deletions and the generations that were handed out

A deletion is queued for a generation that its cache has handed out, and generations are never taken
back.  So no deletion that is queued or in progress is ahead of its cache.
-/

namespace Agenda.System

universe u

variable {V : Type u} {before after system : System V}

/-- The work is no deletion for a generation that is still to come. -/
def Counts (system : System V) (work : Work V) : Prop :=
  ∀ id key generation, work = .deletion id key generation → generation ≤ system.handedOut id

structure Counted (system : System V) : Prop where
  bears : ∀ {id host}, system.scheduler? id = some host → host.Bears system.Counts

theorem counts_of_task {work : Work V} (none : work.cache? = none) : system.Counts work := by
  rintro id key generation rfl
  cases none

namespace Counted

theorem goOn (counted : before.Counted) (later : ∀ id, before.handedOut id ≤ after.handedOut id)
    (hosts : ∀ {id host}, after.scheduler? id = some host →
      before.scheduler? id = some host ∨ host.Bears before.Counts) : after.Counted := by
  refine ⟨fun {id host} found => ?_⟩
  have bears : host.Bears before.Counts := by
    rcases hosts found with same | bears
    · exact counted.bears same
    · exact bears
  exact bears.imp fun counts target key generation own =>
    Nat.le_trans (counts target key generation own) (later target)

theorem put (counted : before.Counted) (later : ∀ id, before.handedOut id ≤ after.handedOut id)
    {id : SchedulerId} {new : Scheduler (Work V)} (bears : new.Bears before.Counts)
    (schedulers : after.schedulers = before.schedulers.setIfInBounds id.index new) :
    after.Counted := by
  refine counted.goOn later fun {other host} found => ?_
  have seen : (before.putScheduler id new).scheduler? other = some host := by
    rw [scheduler?, schedulers] at found
    exact found
  by_cases own : other = id
  · subst own
    cases earlier : before.scheduler? other with
    | none =>
        obtain ⟨inside, _⟩ := Array.getElem?_eq_some_iff.1 seen
        rw [scheduler?, Array.getElem?_eq_none_iff] at earlier
        rw [System.putScheduler, Array.size_setIfInBounds] at inside
        exact absurd inside (Nat.not_lt.2 earlier)
    | some old =>
        cases (scheduler?_putScheduler_self earlier new).symm.trans seen
        exact .inr bears
  · rw [scheduler?_putScheduler_of_ne before own] at seen
    exact .inl seen

theorem change (counted : before.Counted) (linked : before.Linked) (change : Change before after) :
    after.Counted := by
  have later := linked.numbered.handedOut_le change
  have same (schedulers : after.schedulers = before.schedulers) : after.Counted := by
    refine counted.goOn later fun found => .inl ?_
    rw [scheduler?, schedulers] at found
    exact found
  cases change with
  | aside aside => exact same aside.schedulers
  | @halt schedulers change halts changed =>
      refine counted.goOn later fun {id host} found => ?_
      rw [changed] at found
      obtain ⟨old, earlier, rfl⟩ := Option.map_eq_some_iff.1 found
      rcases halts id old with kept | halted
      · rw [kept]
        exact .inl earlier
      · rw [halted]
        have bears := counted.bears earlier
        exact .inr ⟨bears.queued, bears.busy⟩
  | create settings =>
      refine counted.goOn later fun {id host} found => ?_
      simp only [scheduler?, createScheduler, Array.getElem?_push] at found
      split at found
      · cases found
        refine .inr ⟨fun entry listed => ?_, fun busy => ?_⟩
        · cases listed
        · cases busy
      · exact .inl found
  | put found affair =>
      refine counted.put later ((affair.passes linked found).bears (counted.bears found) ?_) rfl
      exact fun other => counts_of_task (not_not.1 other)
  | book _ _ booked =>
      obtain ⟨_, _, _, rfl⟩ := eq_of_book booked
      exact same rfl
  | @confirm booking held =>
      obtain ⟨cache, found⟩ := linked.numbered.known booking held
      have listed := mem_holders_iff.2 ⟨held, rfl⟩
      have numbered := linked.numbered.caches found
      have confirms := confirms_resolve found (numbered.reads booking listed)
      generalize before.resolve booking = result at confirms later same
      cases confirms with
      | declined _ _ => exact same rfl
      | @fulfilled host filled task deadline value stored reached hosted accepted _ _ =>
          have fits : before.Counts (.deletion booking.cache booking.key booking.generation) := by
            intro id key generation own
            cases own
            rw [handedOut_of_found found]
            exact (numbered.booked booking listed).2
          have bears : (filled.relieve (cache.lease? booking.key)).Bears before.Counts := by
            have filledBears := (counted.bears hosted).submit fits accepted
            cases cache.lease? booking.key with
            | none => exact filledBears
            | some old => exact filledBears.cancel old.deletion
          exact counted.put later bears rfl
  | @delete id cache key found unlocked =>
      cases present : cache.lease? key with
      | none =>
          rw [delete_of_none present]
          exact counted
      | some old =>
          obtain ⟨host, hosted, _⟩ := linked.links found
          obtain ⟨removed, _, deleted⟩ := delete_eq_loses before id present
          rw [cancelTask_of_found hosted] at deleted
          rw [deleted] at later ⊢
          exact counted.put later ((counted.bears hosted).cancel old.deletion) rfl
  | expire hosted busy found kept unlocked =>
      exact counted.put later (counted.bears hosted).finish rfl
  | _ => exact same rfl

end Counted

theorem Reachable.counted (reachable : Reachable system) : system.Counted := by
  refine (reachable.keeps (motive := fun system => system.Linked ∧ system.Counted)
    (fun kept change => ⟨kept.1.change change, kept.2.change kept.1 change⟩)
    (fun kept order => ⟨kept.1.of_eq order rfl rfl rfl rfl, ⟨kept.2.bears⟩⟩) ⟨.start, ?_⟩).2
  exact ⟨fun found => by simp [scheduler?] at found⟩

end Agenda.System
