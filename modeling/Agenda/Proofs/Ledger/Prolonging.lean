import Mathlib
import Agenda.Proofs.Ledger.Awaiting
import Agenda.Proofs.System.Tracing

/-!
# A read never shortens the life of an entry

As long as an entry is neither taken out nor overwritten, its deadline only grows, in whatever order
it is read and whether or not a later deletion is accepted.  At any moment the one deletion that can
still remove it is due at the latest deadline that the entry has had.
-/

namespace Agenda

universe u

variable {V : Type u}

/-- The operation leaves the entry under a key where it is, and puts no other one in its place. -/
def Operation.retains (system : System V) (place : CacheId) (key : String)
    (operation : Operation V) : Bool :=
  !operation.ousts system place key && !operation.overwrites system place key

namespace System

variable {system first last after : System V} {operation : Operation V} {place : CacheId}
  {key : String} {lease old : Lease V} {record : List (System V × Operation V)}

def moments (record : List (System V × Operation V)) (last : System V) : List (System V) :=
  record.map Prod.fst ++ [last]

/-- The deadlines that the entry under a key has had in a run, in order. -/
def deadlines (place : CacheId) (key : String) (record : List (System V × Operation V))
    (last : System V) : List Int :=
  (moments record last).filterMap fun moment => (moment.lease? place key).map Lease.deadline

theorem moments_step (record : List (System V × Operation V)) (last after : System V)
    (operation : Operation V) :
    moments (record ++ [(last, operation)]) after = moments record last ++ [after] := by
  simp [moments]

theorem deadlines_step (record : List (System V × Operation V)) (last : System V)
    (operation : Operation V) (stored : after.lease? place key = some lease) :
    deadlines place key (record ++ [(last, operation)]) after =
      deadlines place key record last ++ [lease.deadline] := by
  rw [deadlines, moments_step, List.filterMap_append]
  simp [deadlines, stored]

theorem mem_deadlines_iff {deadline : Int} : deadline ∈ deadlines place key record last ↔
    ∃ moment ∈ moments record last, ∃ lease, moment.lease? place key = some lease ∧
      lease.deadline = deadline := by
  simp only [deadlines, List.mem_filterMap, Option.map_eq_some_iff]

/-- The second entry is the first one, or comes from it by reads that do not shorten its life. -/
structure Lasts (old lease : Lease V) : Prop where
  value : lease.value = old.value
  ttl : lease.ttl = old.ttl
  deadline : old.deadline ≤ lease.deadline

theorem Lasts.refl (lease : Lease V) : Lasts lease lease := ⟨rfl, rfl, Int.le_refl _⟩

theorem Lasts.trans {first second third : Lease V} (earlier : Lasts first second)
    (later : Lasts second third) : Lasts first third :=
  ⟨later.value.trans earlier.value, later.ttl.trans earlier.ttl,
    Int.le_trans earlier.deadline later.deadline⟩

/-- What an operation retains does not end earlier than before. -/
theorem Does.lasts (does : system.Does operation after) (reachable : Reachable system)
    (stored : system.lease? place key = some old)
    (retains : operation.retains system place key = true) :
    ∃ lease, after.lease? place key = some lease ∧ Lasts old lease := by
  simp only [Operation.retains, Bool.and_eq_true, Bool.not_eq_true'] at retains
  cases does.fares reachable place key with
  | spared _ _ same => exact ⟨old, same.trans stored, .refl old⟩
  | inserted _ _ absent _ => cases absent.symm.trans stored
  | overwritten _ _ overwrites _ _ => cases overwrites.symm.trans retains.2
  | @renewed earlier lease _ _ present stores value ttl later =>
      cases stored.symm.trans present
      exact ⟨lease, stores.stored, value, ttl, later⟩
  | ousted _ ousts _ _ => cases ousts.symm.trans retains.1

/-- In a run that retains an entry its deadlines do not decrease. -/
theorem Course.lasts (course : Course first record last) (reachable : Reachable first)
    (stored : first.lease? place key = some old)
    (retained : ∀ entry ∈ record, entry.2.retains entry.1 place key = true) :
    ∃ current, last.lease? place key = some current ∧ Lasts old current ∧
      (∀ moment ∈ moments record last, ∃ lease, moment.lease? place key = some lease ∧
        Lasts old lease ∧ Lasts lease current) ∧
      (deadlines place key record last).Pairwise (· ≤ ·) := by
  induction course with
  | rest =>
      refine ⟨old, stored, .refl old, fun moment listed => ?_, ?_⟩
      · rw [List.mem_singleton.1 listed]
        exact ⟨old, stored, .refl old, .refl old⟩
      · simp [deadlines, moments, stored]
  | @step record last after operation course does inductionHypothesis =>
      obtain ⟨current, present, lasts, stays, ordered⟩ := inductionHypothesis fun entry listed =>
        retained entry (List.mem_append_left _ listed)
      obtain ⟨next, renewed, onward⟩ := does.lasts (reachable.leads course.leads) present
        (retained (last, operation) (List.mem_append_right _ List.mem_cons_self))
      refine ⟨next, renewed, lasts.trans onward, fun moment listed => ?_, ?_⟩
      · rw [moments_step] at listed
        rcases List.mem_append.1 listed with earlier | now
        · obtain ⟨lease, seen, begun, ends⟩ := stays moment earlier
          exact ⟨lease, seen, begun, ends.trans onward⟩
        · rw [List.mem_singleton.1 now]
          exact ⟨next, renewed, lasts.trans onward, .refl next⟩
      · rw [deadlines_step record last operation renewed]
        refine List.pairwise_append.2 ⟨ordered, List.pairwise_singleton _ _, ?_⟩
        intro deadline listed later own
        obtain ⟨moment, passed, lease, seen, rfl⟩ := mem_deadlines_iff.1 listed
        obtain ⟨_, again, _, ends⟩ := stays moment passed
        cases seen.symm.trans again
        rw [List.mem_singleton.1 own]
        exact Int.le_trans ends.deadline onward.deadline

structure Endures (record : List (System V × Operation V)) (last : System V) (place : CacheId)
    (key : String) (lease current : Lease V) : Prop where
  stored : last.lease? place key = some current
  /-- At every moment of the run the entry is there, with the same value and time to live. -/
  stays : ∀ moment ∈ moments record last, ∃ other, moment.lease? place key = some other ∧
    Lasts lease other ∧ Lasts other current
  /-- The deadlines that the entry has had do not decrease. -/
  ordered : (deadlines place key record last).Pairwise (· ≤ ·)
  latest : (deadlines place key record last).max? = some current.deadline
  /-- The deadline counts from the clock that the last successful access has read. -/
  dated : last.Dated place key current
  /-- One deletion can still remove the entry, and it is due at the latest deadline. -/
  expects : ∀ {cache host}, last.cache? place = some cache → cache.dropped = false →
    last.scheduler? cache.scheduler = some host → host.halted = false →
      Expects last place cache host key current

/-- In every run that neither takes an entry out nor overwrites it the deadlines of the entry do not
decrease, and its deletion is due at the latest of them. -/
theorem Course.endures (course : Course first record last) (reachable : Reachable first)
    (stored : first.lease? place key = some lease)
    (retained : ∀ entry ∈ record, entry.2.retains entry.1 place key = true) :
    ∃ current, Endures record last place key lease current := by
  have reached := reachable.leads course.leads
  obtain ⟨current, present, _, stays, ordered⟩ := course.lasts reachable stored retained
  obtain ⟨cache, found, seen⟩ := Option.bind_eq_some_iff.1 present
  refine ⟨current, present, stays, ordered, ?_, reached.dated found seen, ?_⟩
  · rw [List.max?_eq_some_iff]
    refine ⟨mem_deadlines_iff.2 ⟨last, ?_, current, present, rfl⟩, fun deadline listed => ?_⟩
    · exact List.mem_append_right _ List.mem_cons_self
    · obtain ⟨moment, passed, other, there, rfl⟩ := mem_deadlines_iff.1 listed
      obtain ⟨_, again, _, ends⟩ := stays moment passed
      cases there.symm.trans again
      exact ends.deadline
  · intro store host again kept hosted running
    cases found.symm.trans again
    exact reached.expects found kept hosted running seen

/-- A task reads the entry at 4, and stops the scheduler.  A further read comes at 5 and is refused at
16, when the deletion for 14 has begun and waits for the lock. -/
theorem endures_of_refused_read :
    ∃ (first last : System Nat) (record : List (System Nat × Operation Nat)) (cache : Cache Nat)
      (host : Scheduler (Work Nat)) (lease current : Lease Nat), Reachable first ∧
        first.lease? ⟨0⟩ "key" = some lease ∧ Course first record last ∧
        (∀ entry ∈ record, entry.2.retains entry.1 ⟨0⟩ "key" = true) ∧ lease.deadline = 10 ∧
        current.deadline = 14 ∧ last.now = 16 ∧ host.stopped = true ∧ host.worker.isBusy = true ∧
        Endures record last ⟨0⟩ "key" lease current ∧ Expects last ⟨0⟩ cache host "key" current := by
  have runs : (trace? ({} : System Nat) [.deed (.request (.create "main" {})),
      .deed (.request (.createCacheOn "store" "main")),
      .deed (.request (.access "store" "key" (.add 7 (.span 10))))]).any (fun early =>
        (early.2.lease? ⟨0⟩ "key").any fun lease => decide (lease.deadline = 10) &&
          (trace? early.2 [.deed (.submit "main" "reader" (.at 4)
              (.request (.access "store" "key" .read) (.part (.shutdown "main") .done))),
            .worker ⟨0⟩, .worker ⟨0⟩, .pass 4, .worker ⟨0⟩, .worker ⟨0⟩, .worker ⟨0⟩, .worker ⟨0⟩, .worker ⟨0⟩,
            .worker ⟨0⟩, .pass 5, .book "store" "key" .read, .pass 16, .worker ⟨0⟩, .worker ⟨0⟩,
            .confirm ⟨⟨0⟩, "key", .read, .span 10, 3, some 15⟩]).any fun late =>
              late.1.all (fun entry => entry.2.retains entry.1 ⟨0⟩ "key") &&
                (late.2.cache? ⟨0⟩).any fun cache => (cache.lease? "key").any fun current =>
                  (late.2.scheduler? cache.scheduler).any fun host =>
                    decide (cache.dropped = false ∧ host.halted = false ∧ current.deadline = 14 ∧
                      late.2.now = 16 ∧ host.stopped = true ∧ host.worker.isBusy = true)) = true := by
    decide +kernel
  obtain ⟨⟨_, first⟩, filled, runs⟩ := (Option.any_eq_true _ _).1 runs
  obtain ⟨lease, stored, runs⟩ := (Option.any_eq_true _ _).1 runs
  rw [Bool.and_eq_true, decide_eq_true_eq] at runs
  obtain ⟨⟨record, last⟩, reads, shown⟩ := (Option.any_eq_true _ _).1 runs.2
  rw [Bool.and_eq_true, List.all_eq_true] at shown
  obtain ⟨retained, shown⟩ := shown
  obtain ⟨cache, found, shown⟩ := (Option.any_eq_true _ _).1 shown
  obtain ⟨current, present, shown⟩ := (Option.any_eq_true _ _).1 shown
  obtain ⟨host, hosted, shown⟩ := (Option.any_eq_true _ _).1 shown
  obtain ⟨kept, running, late, now, facts⟩ := of_decide_eq_true shown
  have reachable : Reachable first := Reachable.start.leads (Course.of_trace? filled).leads
  have course : Course first record last := .of_trace? reads
  obtain ⟨other, endures⟩ := Course.endures course reachable stored retained
  cases endures.stored.symm.trans ((lease?_of_found found "key").trans present)
  exact ⟨first, last, record, cache, host, lease, current, reachable, stored, course, retained,
    runs.1, late, now, facts.1, facts.2, endures, endures.expects found kept hosted running⟩

end System

end Agenda
