import Mathlib
import Agenda.Proofs.Scheduler.Soundness

/-!
# What the worker concludes on

A worker that looks for its next step takes cancelled heads off the queue, due or not, until the
head is alive, and then it parks or begins.  This holds of any queue in the order of a heap, wherever
the cancelled entries lie in it.
-/

namespace Agenda.Scheduler

universe u

variable {ω : Type u} {now : Int} {before after : Scheduler ω} {head : Entry ω} {rest : TaskQueue ω}
  {discarded : List (Entry ω)}

/-- The live entry at which a choice stops when it has discarded all that lay before it, and only
that. -/
structure Foremost (before after : Scheduler ω) (discarded : List (Entry ω)) (head : Entry ω) :
    Prop where
  live : before.roster.fate? head.id = some .pending
  /-- Whatever is due before it is off the queue, whether or not it was due already. -/
  cleared : ∀ entry ∈ before.queue.toList, entry.due < head.due → entry ∈ discarded
  passed : ∀ entry ∈ discarded, entry.due ≤ head.due
  least : ∀ entry ∈ after.queue.toList, head.due ≤ entry.due

/-- How a choice at the time `now` ends, after it has discarded these entries. -/
inductive Concludes (now : Int) (before after : Scheduler ω) (discarded : List (Entry ω)) : Prop where
  | asleep {head : Entry ω} :
      after.worker = .asleep head.due → now < head.due → Foremost before after discarded head →
      after.queue.peek? = some head →
      before.queue.toList.Perm (discarded ++ after.queue.toList) → after.roster = before.roster →
      Concludes now before after discarded
  | busy {head : Entry ω} :
      after.worker = .busy head.id head.work → head.due ≤ now →
      Foremost before after discarded head →
      before.queue.toList.Perm (discarded ++ head :: after.queue.toList) →
      after.roster = before.roster.resolve head.id .fired → Concludes now before after discarded
  | idle :
      after.worker = .idle → before.stopped = false → before.queue.toList.Perm discarded →
      after.queue.toList = [] → after.roster = before.roster → Concludes now before after discarded
  | exited :
      after.worker = .exited → before.stopped = true → before.queue.toList.Perm discarded →
      after.queue.toList = [] → after.roster = before.roster → Concludes now before after discarded

structure Clears (now : Int) (before after : Scheduler ω) (discarded : List (Entry ω)) : Prop where
  concludes : Concludes now before after discarded
  ordered : after.queue.IsOrdered
  cancelled : ∀ entry ∈ discarded, before.roster.fate? entry.id = some .cancelled
  told : ∃ last, after.journal.toList =
    before.journal.toList ++ discarded.map (fun entry => .discarded entry.id) ++ last ∧
      ∀ id, .discarded id ∉ last

/-- What comes of a choice at the time `now` that has discarded these entries. -/
structure Selects (now : Int) (before after : Scheduler ω) (discarded : List (Entry ω)) : Prop
    extends Clears now before after discarded where
  /-- What is alive stays queued unless it begins. -/
  kept : ∀ entry ∈ before.queue.toList, before.roster.fate? entry.id = some .pending →
    entry ∈ after.queue.toList ∨ after.worker = .busy entry.id entry.work
  /-- What begins has fired, and is queued no more. -/
  begun : ∀ {id work}, after.worker = .busy id work → after.isRunning = true ∧
    after.roster.fate? id = some .fired ∧
    (∀ other, other ≠ id → after.roster.fate? other = before.roster.fate? other) ∧
    ((before.queue.toList.map Entry.id).Nodup → ∀ entry ∈ after.queue.toList, entry.id ≠ id)
  /-- A worker with nothing to wait for has found nothing alive. -/
  vacant : after.worker = .idle ∨ after.worker = .exited →
    (∀ entry ∈ before.queue.toList, before.roster.fate? entry.id = some .cancelled) ∧
      after.queue.toList = [] ∧ (after.worker = .exited ↔ before.stopped = true)

theorem foremost_of_pop? (ordered : before.queue.IsOrdered)
    (popped : before.queue.pop? = some (head, rest))
    (live : before.roster.fate? head.id = some .pending)
    (queue : after.queue.toList ⊆ before.queue.toList) : Foremost before after [] head := by
  refine ⟨live, fun entry held earlier => ?_, nofun, fun entry left => ?_⟩
  · exact absurd (TaskQueue.due_le_of_pop? ordered popped held) (Int.not_le.2 earlier)
  · exact TaskQueue.due_le_of_pop? ordered popped (queue left)

/-- The foremost entry of what is left when the head was discarded is the foremost entry. -/
theorem Foremost.discard {reached : Entry ω} (ordered : before.queue.IsOrdered)
    (popped : before.queue.pop? = some (head, rest)) (held : reached ∈ rest.toList)
    (foremost : Foremost (before.discard head.id rest) after discarded reached) :
    Foremost before after (head :: discarded) reached := by
  obtain ⟨live, cleared, passed, least⟩ := foremost
  rw [roster_discard] at live
  rw [queue_discard] at cleared
  refine ⟨live, fun entry there earlier => ?_, fun entry listed => ?_, least⟩
  · rcases (Heap.mem_iff_of_pop? popped).1 there with rfl | left
    · exact List.mem_cons_self
    · exact List.mem_cons_of_mem head (cleared entry left earlier)
  · rcases List.mem_cons.1 listed with rfl | listed
    · exact TaskQueue.due_le_of_pop? ordered popped ((Heap.mem_iff_of_pop? popped).2 (.inr held))
    · exact passed entry listed

theorem Concludes.discard (ordered : before.queue.IsOrdered)
    (popped : before.queue.pop? = some (head, rest))
    (concludes : Concludes now (before.discard head.id rest) after discarded) :
    Concludes now before after (head :: discarded) := by
  have taken := Heap.toList_pop?_perm popped
  cases concludes with
  | @asleep reached worker early foremost seen account roster =>
      rw [queue_discard] at account
      have left : reached ∈ after.queue.toList :=
        (Heap.toList_tail_perm seen).mem_iff.2 List.mem_cons_self
      have held := account.mem_iff.2 (List.mem_append_right discarded left)
      exact .asleep worker early (foremost.discard ordered popped held) seen
        (taken.trans (account.cons head)) (roster.trans (roster_discard ..))
  | @busy reached worker due foremost account roster =>
      rw [queue_discard] at account
      have held := account.mem_iff.2 (List.mem_append_right discarded List.mem_cons_self)
      rw [roster_discard] at roster
      exact .busy worker due (foremost.discard ordered popped held)
        (taken.trans (account.cons head)) roster
  | idle worker stopped account vacant roster =>
      rw [queue_discard] at account
      rw [stopped_discard] at stopped
      exact .idle worker stopped (taken.trans (account.cons head)) vacant
        (roster.trans (roster_discard ..))
  | exited worker stopped account vacant roster =>
      rw [queue_discard] at account
      rw [stopped_discard] at stopped
      exact .exited worker stopped (taken.trans (account.cons head)) vacant
        (roster.trans (roster_discard ..))

theorem journal_discard (scheduler : Scheduler ω) (id : TaskId) (rest : TaskQueue ω) :
    (scheduler.discard id rest).journal = scheduler.journal.push (.discarded id) := by
  unfold discard signalDrained
  split <;> rfl

theorem Concludes.clears (concludes : Concludes now before after []) (ordered : after.queue.IsOrdered)
    (told : after.journal = before.journal ∨ ∃ notice,
      after.journal = before.journal.push notice ∧ ∀ id, notice ≠ .discarded id) :
    Clears now before after [] := by
  refine ⟨concludes, ordered, nofun, ?_⟩
  rcases told with same | ⟨notice, noted, other⟩
  · exact ⟨[], by simp [same], nofun⟩
  · refine ⟨[notice], by simp [noted], fun id listed => ?_⟩
    exact other id (List.mem_singleton.1 listed).symm

theorem Chooses.exists_clears (chosen : Chooses now before after)
    (ordered : before.queue.IsOrdered)
    (unfired : ∀ entry ∈ before.queue.toList, before.roster.fate? entry.id = some .pending ∨
      before.roster.fate? entry.id = some .cancelled) :
    ∃ discarded, Clears now before after discarded := by
  have empty {queue : TaskQueue ω} (vacant : queue.pop? = none) : queue.toList = [] :=
    List.eq_nil_of_length_eq_zero (Heap.pop?_eq_none_iff.1 vacant)
  induction chosen with
  | exit vacant stopped =>
      refine ⟨[], Concludes.clears ?_ ordered (.inr ⟨_, rfl, nofun⟩)⟩
      exact .exited rfl stopped (.of_eq (empty vacant)) (empty vacant) rfl
  | idle vacant stopped =>
      refine ⟨[], Concludes.clears ?_ ordered (.inl rfl)⟩
      exact .idle rfl stopped (.of_eq (empty vacant)) (empty vacant) rfl
  | sleep popped pending early =>
      refine ⟨[], Concludes.clears ?_ ordered (.inl rfl)⟩
      exact .asleep rfl early (foremost_of_pop? ordered popped pending (List.Subset.refl _))
        (Heap.pop?_eq_some_iff.1 popped).1 (.refl _) rfl
  | @begin scheduler head rest popped pending due =>
      have fewer : rest.toList ⊆ scheduler.queue.toList :=
        fun entry left => Stored.mem_of_pop? popped left
      have left := TaskQueue.isOrdered_of_pop? ordered popped
      refine ⟨[], Concludes.clears ?_ left (.inr ⟨_, rfl, nofun⟩)⟩
      exact .busy rfl due (foremost_of_pop? ordered popped pending fewer)
        (Heap.toList_pop?_perm popped) rfl
  | @discard scheduler last head rest popped resolved _ inductionHypothesis =>
      have left : (scheduler.discard head.id rest).queue.IsOrdered := by
        rw [queue_discard]
        exact TaskQueue.isOrdered_of_pop? ordered popped
      have still : ∀ entry ∈ (scheduler.discard head.id rest).queue.toList,
          (scheduler.discard head.id rest).roster.fate? entry.id = some .pending ∨
            (scheduler.discard head.id rest).roster.fate? entry.id = some .cancelled := by
        rw [queue_discard, roster_discard]
        exact fun entry held => unfired entry (Stored.mem_of_pop? popped held)
      obtain ⟨discarded, concludes, later, cancelled, last, told, none⟩ :=
        inductionHypothesis left still
      refine ⟨head :: discarded, concludes.discard ordered popped, later, fun entry listed => ?_, last,
        ?_, none⟩
      · rcases List.mem_cons.1 listed with rfl | listed
        · exact (unfired entry (Stored.head_mem popped)).resolve_left resolved
        · exact (roster_discard ..) ▸ cancelled entry listed
      · rw [told, journal_discard, Array.toList_push]
        simp

theorem Clears.kept (clears : Clears now before after discarded) {entry : Entry ω}
    (held : entry ∈ before.queue.toList) (live : before.roster.fate? entry.id = some .pending) :
    entry ∈ after.queue.toList ∨ after.worker = .busy entry.id entry.work := by
  have spared : entry ∉ discarded := by
    intro listed
    cases live.symm.trans (clears.cancelled entry listed)
  cases clears.concludes with
  | asleep _ _ _ _ account _ =>
      exact .inl ((List.mem_append.1 (account.mem_iff.1 held)).resolve_left spared)
  | busy worker _ _ account _ =>
      rcases List.mem_append.1 (account.mem_iff.1 held) with listed | left
      · exact absurd listed spared
      · rcases List.mem_cons.1 left with rfl | left
        · exact .inr worker
        · exact .inl left
  | idle _ _ account _ _ => exact absurd (account.mem_iff.1 held) spared
  | exited _ _ account _ _ => exact absurd (account.mem_iff.1 held) spared

theorem Clears.begun (clears : Clears now before after discarded) {id : TaskId} {work : ω}
    (busy : after.worker = .busy id work) : after.isRunning = true ∧
      after.roster.fate? id = some .fired ∧
      (∀ other, other ≠ id → after.roster.fate? other = before.roster.fate? other) ∧
      ((before.queue.toList.map Entry.id).Nodup → ∀ entry ∈ after.queue.toList, entry.id ≠ id) := by
  cases clears.concludes with
  | asleep worker => cases worker.symm.trans busy
  | idle worker => cases worker.symm.trans busy
  | exited worker => cases worker.symm.trans busy
  | @busy head worker _ foremost account roster =>
      cases worker.symm.trans busy
      refine ⟨by rw [isRunning, worker]; rfl, ?_, fun other different => ?_, fun distinct => ?_⟩
      · rw [roster]
        exact Roster.fate?_resolve_self foremost.live _
      · rw [roster]
        exact Roster.fate?_resolve_of_ne _ different _
      · rw [(account.map Entry.id).nodup_iff, List.map_append, List.nodup_append,
          List.map_cons, List.nodup_cons] at distinct
        exact fun entry left same => distinct.2.1.1 (List.mem_map.2 ⟨entry, left, same⟩)

theorem Clears.vacant (clears : Clears now before after discarded)
    (ended : after.worker = .idle ∨ after.worker = .exited) :
    (∀ entry ∈ before.queue.toList, before.roster.fate? entry.id = some .cancelled) ∧
      after.queue.toList = [] ∧ (after.worker = .exited ↔ before.stopped = true) := by
  cases clears.concludes with
  | asleep worker => simp [worker] at ended
  | busy worker => simp [worker] at ended
  | idle worker stopped account empty =>
      refine ⟨fun entry held => clears.cancelled entry (account.mem_iff.1 held), empty, ?_⟩
      simp [worker, stopped]
  | exited worker stopped account empty =>
      refine ⟨fun entry held => clears.cancelled entry (account.mem_iff.1 held), empty, ?_⟩
      simp [worker, stopped]

/-- Whatever the queue and the flag are, the choice ends, and its end is told by what is alive. -/
theorem exists_selects_choose (scheduler : Scheduler ω) (now : Int)
    (ordered : scheduler.queue.IsOrdered)
    (unfired : ∀ entry ∈ scheduler.queue.toList, scheduler.roster.fate? entry.id = some .pending ∨
      scheduler.roster.fate? entry.id = some .cancelled) :
    ∃ discarded, Selects now scheduler (scheduler.choose now) discarded := by
  obtain ⟨discarded, clears⟩ := (chooses_choose scheduler now).exists_clears ordered unfired
  exact ⟨discarded, clears, fun _ held live => clears.kept held live, clears.begun, clears.vacant⟩

/-- Of three cancelled entries the worker discards the one that lies before a live entry, though none
of them is due, and it goes to sleep on that one. -/
theorem selects_choose_of_cancelled_head :
    ∃ (scheduler : Scheduler Unit) (discarded : List (Entry Unit)),
      scheduler.queue.IsOrdered ∧ scheduler.queue.toList.map Entry.due = [10, 20, 20, 30] ∧
        Selects 5 scheduler (scheduler.choose 5) discarded ∧
        (scheduler.choose 5).worker = .asleep 20 ∧ discarded.map Entry.due = [10] := by
  let scheduler : Scheduler Unit :=
    { settings := {}
      queue := ⟨#[⟨10, ⟨1⟩, ()⟩, ⟨20, ⟨2⟩, ()⟩, ⟨20, ⟨3⟩, ()⟩, ⟨30, ⟨4⟩, ()⟩]⟩
      roster := ⟨#[.cancelled, .pending, .cancelled, .cancelled]⟩ }
  have ordered : scheduler.queue.IsOrdered := by
    intro index inside above inner
    have bound : index < 4 := inside
    obtain rfl | rfl | rfl : index = 1 ∨ index = 2 ∨ index = 3 := by omega
    all_goals rfl
  have asleep : (scheduler.choose 5).worker = .asleep 20 := by cbv
  have left : (scheduler.choose 5).queue.toList.map Entry.due = [20, 30, 20] := by decide +kernel
  obtain ⟨discarded, selects⟩ := exists_selects_choose scheduler 5 ordered (by decide +kernel)
  refine ⟨scheduler, discarded, ordered, rfl, selects, asleep, ?_⟩
  cases selects.concludes with
  | asleep _ _ _ _ account _ =>
      have dues := account.map Entry.due
      rw [List.map_append, left] at dues
      have first : [10].Perm (discarded.map Entry.due) :=
        (List.perm_append_right_iff [20, 30, 20]).1 (List.Perm.trans (by decide) dues)
      exact (List.singleton_perm.1 first).symm
  | busy worker => cases asleep.symm.trans worker
  | idle worker => cases asleep.symm.trans worker
  | exited worker => cases asleep.symm.trans worker

end Agenda.Scheduler
