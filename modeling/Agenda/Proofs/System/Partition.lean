import Agenda.Proofs.Scheduler.Closing
import Agenda.Proofs.Scheduler.Departures
import Agenda.Proofs.System.Leading
import Agenda.Proofs.System.Parking
import Mathlib.Data.List.Nodup

/-!
# Where the tasks of a scheduler are

Every task that a scheduler of a reachable system has accepted is in the queue or has left it, in
one way and once.  When the worker has exited, no task is left over.
-/

namespace Agenda

universe u

namespace Roster

def ids (roster : Roster) : List TaskId := (List.range roster.count).map fun index => ⟨index + 1⟩

theorem nodup_ids (roster : Roster) : roster.ids.Nodup := by
  refine List.nodup_range.map ?_
  intro first second same
  simpa using same

theorem mem_ids_iff {roster : Roster} {id : TaskId} :
    id ∈ roster.ids ↔ roster.fate? id ≠ none := by
  rw [ne_eq, fate?_eq_none_iff, ids, List.mem_map]
  constructor
  · rintro ⟨index, inside, rfl⟩
    have inside := List.mem_range.1 inside
    simp only
    omega
  · intro inside
    refine ⟨id.number - 1, List.mem_range.2 (by omega), ?_⟩
    obtain ⟨number⟩ := id
    simp only [TaskId.mk.injEq] at inside ⊢
    omega

end Roster

namespace Scheduler

variable {ω : Type u} {scheduler : Scheduler ω}

/-- Every accepted task is in one place. -/
structure Partitioned (scheduler : Scheduler ω) : Prop where
  distinct : scheduler.waiting.Nodup
  /-- A pending task is queued, and no more than once. -/
  pending : ∀ {id}, scheduler.roster.fate? id = some .pending → scheduler.waiting.count id = 1
  fired : ∀ {id}, scheduler.roster.fate? id = some .fired → id ∉ scheduler.waiting
  queued : ∀ entry ∈ scheduler.queue.toList, scheduler.roster.fate? entry.id = some .pending ∨
    scheduler.roster.fate? entry.id = some .cancelled
  /-- An accepted task is queued, has begun, was discarded or was abandoned, and no two of these. -/
  once : ∀ id, scheduler.waiting.count id + (scheduler.left .run).count id
    + (scheduler.left .discarded).count id + (scheduler.left .abandoned).count id
      = if (scheduler.roster.fate? id).isSome then 1 else 0
  /-- A task that began has fired, and one that left otherwise was cancelled. -/
  fates : ∀ {way id}, id ∈ scheduler.left way → scheduler.roster.fate? id = some way.fate
  /-- Only the stop signal makes the worker abandon tasks. -/
  abandoned : scheduler.left .abandoned ≠ [] → scheduler.halted = true
  size : scheduler.size + (scheduler.left .run).length + (scheduler.left .discarded).length
    + (scheduler.left .abandoned).length = scheduler.roster.count

theorem Accounts.size (accounts : scheduler.Accounts) :
    scheduler.size + (scheduler.left .run).length + (scheduler.left .discarded).length
      + (scheduler.left .abandoned).length = scheduler.roster.count := by
  have all : (scheduler.waiting ++ scheduler.left .run ++ scheduler.left .discarded
      ++ scheduler.left .abandoned).Perm scheduler.roster.ids := by
    rw [List.perm_iff_count]
    intro id
    have once := accounts.once id
    rw [places] at once
    rw [List.count_append, List.count_append, List.count_append, once,
      scheduler.roster.nodup_ids.count]
    cases known : scheduler.roster.fate? id with
    | none => rw [if_neg (by simp [Roster.mem_ids_iff, known])]; rfl
    | some fate => rw [if_pos (by simp [Roster.mem_ids_iff, known])]; rfl
  simpa [Roster.ids, Nat.add_assoc] using all.length_eq

theorem Accounts.toPartitioned (accounts : scheduler.Accounts) (sound : scheduler.Sound) :
    scheduler.Partitioned where
  distinct := sound.stored.distinct
  pending {id} pending := by
    obtain ⟨entry, held, same⟩ := sound.stored.queued id pending
    have listed : id ∈ scheduler.waiting := List.mem_map.2 ⟨entry, held, same⟩
    exact List.count_eq_one_of_mem sound.stored.distinct listed
  fired {id} fired listed := by
    obtain ⟨entry, held, rfl⟩ := List.mem_map.1 listed
    rcases sound.stored.waiting entry held with pending | cancelled
    · rw [fired] at pending
      cases pending
    · rw [fired] at cancelled
      cases cancelled
  queued := sound.stored.waiting
  once id := by
    rw [← places, accounts.once]
    cases scheduler.roster.fate? id <;> rfl
  fates := accounts.fates
  abandoned := accounts.halted
  size := accounts.size

theorem IsOver.closed (past : scheduler.IsOver) : scheduler.Closed :=
  ⟨past.stopped, past.queue, by rw [past.worker]; rfl⟩

end Scheduler

namespace System

variable {V : Type u} {system : System V} {id : SchedulerId} {scheduler : Scheduler (Work V)}

theorem Reachable.accounts (reachable : Reachable system)
    (found : system.scheduler? id = some scheduler) : scheduler.Accounts := by
  obtain ⟨now, settings, halted, record, run⟩ := reachable.run found
  exact run.accounts (Scheduler.sound_start settings halted)
    (Scheduler.accounts_start settings halted)

/-- Whatever a system leads to, nothing happens to the tasks of a closed scheduler. -/
theorem Leads.staysClosed {later : System V} (leads : Leads system later)
    (found : system.scheduler? id = some scheduler) (sound : scheduler.Sound)
    (closed : scheduler.Closed) :
    ∃ changed, later.scheduler? id = some changed ∧ Scheduler.StaysClosed scheduler changed := by
  obtain ⟨record, changed, seen, run⟩ := leads.evolves.old found
  exact ⟨changed, seen, run.staysClosed sound closed⟩

/-- In every reachable system each accepted task of a scheduler is in one place, and no task is
left over when the worker has exited. -/
theorem Reachable.partitioned (reachable : Reachable system)
    (found : system.scheduler? id = some scheduler) :
    scheduler.Partitioned ∧
      (scheduler.worker = .exited → ∀ {later : System V}, Leads system later →
        ∃ changed, later.scheduler? id = some changed ∧ changed.worker = .exited ∧
          changed.queue.toList = [] ∧ ∀ task, changed.roster.fate? task ≠ some .pending) := by
  have sound := reachable.sound found
  refine ⟨(reachable.accounts found).toPartitioned sound, ?_⟩
  intro exited later leads
  obtain ⟨vacant, stopped⟩ := sound.exited exited
  have past : scheduler.IsOver := ⟨exited, Scheduler.toList_eq_nil_iff.2 vacant, stopped⟩
  obtain ⟨changed, seen, still⟩ := leads.staysClosed found sound past.closed
  have later := (reachable.leads leads).sound seen
  exact ⟨changed, seen, still.exited exited, still.closed.queue, still.closed.resolved later⟩

theorem partitioned_after_abandonment :
    ∃ (system : System Nat) (scheduler : Scheduler (Work Nat)),
      Reachable system ∧ system.scheduler? ⟨0⟩ = some scheduler ∧ scheduler.worker = .exited ∧
        scheduler.left .run = [⟨1⟩] ∧ scheduler.left .discarded = [⟨2⟩] ∧
        scheduler.left .abandoned = [⟨3⟩] ∧ scheduler.Partitioned ∧
        ∀ {later : System Nat}, Leads system later →
          ∃ changed, later.scheduler? ⟨0⟩ = some changed ∧ changed.worker = .exited ∧
            changed.queue.toList = [] ∧ ∀ task, changed.roster.fate? task ≠ some .pending := by
  have empty : Reachable ({} : System Nat) := .start
  have created := empty.step (.deed _ (.request (.create "main" { token := .named "stop" })))
  have first := created.step (.deed _ (.submit "main" "first" (.at 0) .done))
  have second := first.step (.deed _ (.submit "main" "second" (.at 50) .done))
  have third := second.step (.deed _ (.submit "main" "third" (.at 60) .done))
  have cancelled := third.step (.deed _ (.request (.cancel "main" "second")))
  generalize given : (Session.perform (Session.perform (Session.perform (Session.perform
    (Session.perform ({} : System Nat)
      (.request (.create "main" { token := .named "stop" }))).2
      (.submit "main" "first" (.at 0) .done)).2 (.submit "main" "second" (.at 50) .done)).2
      (.submit "main" "third" (.at 60) .done)).2 (.request (.cancel "main" "second"))).2 = start
    at cancelled
  have ends : (((((start.moveWorker? ⟨0⟩).bind (·.moveWorker? ⟨0⟩)).bind
      (·.moveWorker? ⟨0⟩)).bind (·.moveWorker? ⟨0⟩)).bind fun system =>
        ((Session.perform system (.request (.cancelToken "stop"))).2.moveWorker? ⟨0⟩).bind
          (·.moveWorker? ⟨0⟩)).any (fun system =>
        (system.scheduler? ⟨0⟩).any fun scheduler => scheduler.worker.isExited &&
          (scheduler.left .run == [⟨1⟩] && scheduler.left .discarded == [⟨2⟩] &&
            scheduler.left .abandoned == [⟨3⟩])) = true := by
    rw [← given]
    cbv
  obtain ⟨system, moves, shown⟩ := (Option.any_eq_true _ _).1 ends
  simp only [Option.bind_eq_some_iff] at moves
  obtain ⟨running, ⟨asleep, ⟨begun, ⟨up, starts, begins⟩, finishes⟩, sleeps⟩, woken, wakes,
    abandons⟩ := moves
  obtain ⟨scheduler, found, shown⟩ := (Option.any_eq_true _ _).1 shown
  simp only [Bool.and_eq_true, beq_iff_eq] at shown
  obtain ⟨exits, ⟨run, discarded⟩, abandoned⟩ := shown
  have asleep := (((cancelled.step (.worker starts)).step (.worker begins)).step
    (.worker finishes)).step (.worker sleeps)
  have reachable : Reachable system :=
    ((asleep.step (.deed _ _)).step (.worker wakes)).step (.worker abandons)
  have exited : scheduler.worker = .exited := Worker.isExited_iff.1 exits
  obtain ⟨partitioned, final⟩ := Reachable.partitioned reachable found
  exact ⟨system, scheduler, reachable, found, exited, run, discarded, abandoned, partitioned,
    final exited⟩

end System

end Agenda
