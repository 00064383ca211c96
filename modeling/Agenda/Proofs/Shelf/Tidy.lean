import Agenda.Proofs.Shelf.Tending
import Agenda.Proofs.System.Hosting
import Agenda.Proofs.System.Keeping

/-!
# Systems that keep caches on one scheduler

A system is tidy if its scheduler goes on running, has harmless tasks only, and tends every cache
that has a label.  This does not depend on what else the system is made of.
-/

namespace Agenda

universe u

variable {V : Type u}

namespace Scheduler

/-- A scheduler that goes on running, and whose tasks are harmless. -/
structure Clean (token : Token) (caches : Nat) (scheduler : Scheduler (Work V)) : Prop where
  sound : scheduler.Sound
  running : scheduler.isStopped = false
  own : scheduler.settings.token = token
  bears : scheduler.Bears (Work.IsHarmless token caches)

namespace Clean

variable {token : Token} {caches : Nat} {before after : Scheduler (Work V)} {now : Int}

theorem halted (clean : before.Clean token caches) : before.halted = false :=
  (Bool.or_eq_false_iff.1 clean.running).1

theorem goOn (clean : before.Clean token caches) (continues : Continues before after)
    (sound : after.Sound) (bears : after.Bears (Work.IsHarmless token caches)) :
    after.Clean token caches := by
  obtain ⟨halted, stopped⟩ := Bool.or_eq_false_iff.1 clean.running
  have same := continues.halted
  rw [halted] at same
  refine ⟨sound, ?_, by rw [continues.settings, clean.own], bears⟩
  rw [isStopped, same, Bool.false_or, ← Bool.not_eq_true]
  intro past
  rcases continues.stopped past with already | halted
  · rw [stopped] at already
    cases already
  · rw [same] at halted
    cases halted

theorem look (clean : before.Clean token caches) (looking : before.worker = .looking) (now : Int) :
    (before.look now).Clean token caches :=
  clean.goOn (continues_look before now) (clean.sound.look looking now)
    (clean.bears.look looking now)

theorem wake (clean : before.Clean token caches) (wakes : Wakes before after) :
    after.Clean token caches :=
  clean.goOn wakes.continues (clean.sound.wake wakes) (clean.bears.wake wakes)

theorem finish (clean : before.Clean token caches) : before.finish.Clean token caches :=
  clean.goOn (continues_finish before) clean.sound.finish clean.bears.finish

theorem note (clean : before.Clean token caches) (notice : Notice) :
    (before.note notice).Clean token caches :=
  ⟨clean.sound.note notice, clean.running, clean.own, ⟨clean.bears.queued, clean.bears.busy⟩⟩

theorem fail (clean : before.Clean token caches) (task : TaskId) (message : String) :
    (before.fail task message).Clean token caches := by
  unfold Scheduler.fail
  dsimp only
  split
  · exact (clean.note _).note _
  · exact clean.note _

theorem proceed (clean : before.Clean token caches) {task : TaskId} {work rest : Work V}
    (busy : before.worker = .busy task work) (harmless : rest.IsHarmless token caches) :
    (before.proceed task rest).Clean token caches := by
  refine ⟨clean.sound.proceed busy rest, clean.running, clean.own, clean.bears.queued, ?_⟩
  intro id work running
  cases running
  exact harmless

theorem submit (clean : before.Clean token caches) {due : Int} {work : Work V}
    (harmless : work.IsHarmless token caches) {id : TaskId}
    (accepted : before.submit? due work = some (id, after)) : after.Clean token caches := by
  have sound := clean.sound.submit accepted
  have bears := clean.bears.submit harmless accepted
  obtain ⟨_, _, ready, interrupt, journal, rfl⟩ := eq_of_submit? accepted
  exact ⟨sound, clean.running, clean.own, bears⟩

theorem cancel (clean : before.Clean token caches) (id : TaskId) :
    (before.cancel id).2.Clean token caches := by
  refine ⟨clean.sound.cancel id, ?_, ?_, clean.bears.cancel id⟩
  · rw [isStopped, halted_cancel, stopped_cancel]
    exact clean.running
  · rw [settings_cancel]
    exact clean.own

theorem grow (clean : before.Clean token caches) {more : Nat} (order : caches ≤ more) :
    before.Clean token more := by
  have harmless {work : Work V} (fits : work.IsHarmless token caches) :
      work.IsHarmless token more := by
    cases work with
    | task own handle script => exact fits
    | deletion cache key generation => exact Nat.lt_of_lt_of_le fits order
  exact ⟨clean.sound, clean.running, clean.own, clean.bears.imp harmless⟩

theorem accepts (clean : before.Clean token caches) (due : Int) (work : Work V) :
    ∃ after, before.submit? due work = some (before.roster.nextId, after) := by
  rw [submit?, clean.running]
  exact ⟨_, rfl⟩

end Clean

end Scheduler

def Lease.record (lease : Lease V) : Record V := ⟨lease.value, lease.ttl, lease.deadline⟩

namespace System

/-- The tasks that callers keep hold of are not deletions. -/
def Handled (system : System V) (scheduler : Scheduler (Work V)) : Prop :=
  ∀ (handle : Label) (held : Handle), system.handles[handle]? = some held →
    scheduler.roster.fate? held.id ≠ none ∧
      ∀ entry ∈ scheduler.queue.toList, entry.id = held.id → entry.work.cache? = none

structure Keeps (system : System V) (scheduler : Scheduler (Work V)) (id : CacheId)
    (cache : Cache V) : Prop where
  found : system.cache? id = some cache
  place : cache.scheduler = ⟨0⟩
  dropped : cache.dropped = false
  tended : scheduler.Tends system.now id cache

/-- A system with one scheduler, which goes on running and tends all caches that have a label. -/
structure Tidy (label : Label) (token : Token) (system : System V)
    (scheduler : Scheduler (Work V)) : Prop extends Hosts label system scheduler where
  bookings : system.bookings = []
  clean : scheduler.Clean token system.caches.size
  handled : system.Handled scheduler
  kept : ∀ {cache : Label} {id : CacheId}, system.cacheLabels[cache]? = some id →
    ∃ found, system.Keeps scheduler id found
  apart : ∀ {first second : Label} {id : CacheId}, system.cacheLabels[first]? = some id →
    system.cacheLabels[second]? = some id → first = second

structure Spares (before after : System V) : Prop where
  now : after.now = before.now
  caches : after.caches = before.caches
  cacheLabels : after.cacheLabels = before.cacheLabels
  bookings : after.bookings = before.bookings

structure Alters (id : CacheId) (changed : Cache V) (before after : System V) : Prop where
  now : after.now = before.now
  cacheLabels : after.cacheLabels = before.cacheLabels
  bookings : after.bookings = before.bookings
  size : after.caches.size = before.caches.size
  own : after.cache? id = some changed
  others : ∀ {other}, other ≠ id → after.cache? other = before.cache? other

def record? (system : System V) (cache : Label) (key : String) : Option (Record V) :=
  (system.cacheAt? cache).bind fun found => (found.2.lease? key).map Lease.record

def live? (system : System V) (cache : Label) (key : String) : Option (Record V) :=
  (system.record? cache key).filter fun record => system.now < record.deadline

variable {label : Label} {token : Token} {system moved : System V}
  {before after : Scheduler (Work V)}

theorem record?_of_label {cache : Label} {id : CacheId} {found : Cache V}
    (labelled : system.cacheLabels[cache]? = some id) (present : system.cache? id = some found)
    (key : String) : system.record? cache key = (found.lease? key).map Lease.record := by
  rw [record?, cacheAt?, labelled, Option.bind_some, present]
  rfl

theorem record?_of_none {cache : Label} (absent : system.cacheLabels[cache]? = none)
    (key : String) : system.record? cache key = none := by
  rw [record?, cacheAt?, absent]
  rfl

theorem Spares.refl (system : System V) : Spares system system := ⟨rfl, rfl, rfl, rfl⟩

theorem spares_putScheduler (system : System V) (id : SchedulerId)
    (scheduler : Scheduler (Work V)) : Spares system (system.putScheduler id scheduler) :=
  ⟨rfl, rfl, rfl, rfl⟩

theorem Spares.trans {middle : System V} (first : Spares system middle)
    (second : Spares middle moved) : Spares system moved :=
  ⟨second.now.trans first.now, second.caches.trans first.caches,
    second.cacheLabels.trans first.cacheLabels, second.bookings.trans first.bookings⟩

theorem Spares.record? (spares : Spares system moved) (cache : Label) (key : String) :
    moved.record? cache key = system.record? cache key := by
  simp only [System.record?, cacheAt?, cache?, spares.caches, spares.cacheLabels]

theorem Spares.live? (spares : Spares system moved) (cache : Label) (key : String) :
    moved.live? cache key = system.live? cache key := by
  rw [System.live?, System.live?, spares.record?, spares.now]

theorem Alters.refl {id : CacheId} {cache : Cache V} (found : system.cache? id = some cache) :
    Alters id cache system system := ⟨rfl, rfl, rfl, rfl, found, fun _ => rfl⟩

theorem Alters.record?_self {id : CacheId} {changed : Cache V} (alters : Alters id changed system moved)
    {cache : Label} (labelled : system.cacheLabels[cache]? = some id) (key : String) :
    moved.record? cache key = (changed.lease? key).map Lease.record := by
  rw [← alters.cacheLabels] at labelled
  exact record?_of_label labelled alters.own key

theorem Alters.record?_of_ne {id : CacheId} {changed : Cache V}
    (alters : Alters id changed system moved) {cache : Label}
    (other : system.cacheLabels[cache]? ≠ some id) (key : String) :
    moved.record? cache key = system.record? cache key := by
  rw [System.record?, System.record?, cacheAt?, cacheAt?, alters.cacheLabels]
  cases labelled : system.cacheLabels[cache]? with
  | none => rfl
  | some found =>
      have different : found ≠ id := by
        intro same
        rw [labelled, same] at other
        exact other rfl
      rw [Option.bind_some, Option.bind_some, alters.others different]

theorem Handled.goOn (handled : system.Handled before) (handles : moved.handles = system.handles)
    (continues : Scheduler.Continues before after) : moved.Handled after := by
  intro handle held found
  rw [handles] at found
  obtain ⟨known, tasks⟩ := handled handle held found
  refine ⟨?_, fun entry queued => tasks entry (continues.queue queued)⟩
  rw [ne_eq, Roster.fate?_eq_none_iff] at known ⊢
  rw [continues.count]
  exact known

theorem Handled.accept (handled : system.Handled before) (handles : moved.handles = system.handles)
    {due : Int} {work : Work V} {task : TaskId}
    (accepted : before.submit? due work = some (task, after)) : moved.Handled after := by
  obtain ⟨_, _, ready, interrupt, journal, rfl⟩ := Scheduler.eq_of_submit? accepted
  intro handle held found
  rw [handles] at found
  obtain ⟨known, tasks⟩ := handled handle held found
  obtain ⟨fate, known⟩ := Option.ne_none_iff_exists'.1 known
  have old := Roster.ne_nextId_of_some known
  refine ⟨?_, ?_⟩
  · exact ne_of_eq_of_ne (Roster.fate?_accept_of_some known) nofun
  · intro entry queued same
    rcases Heap.mem_insert_iff.1 queued with new | earlier
    · rw [new] at same
      exact absurd same.symm old
    · exact tasks entry earlier same

theorem Handled.insert (handled : system.Handled after) (sound : before.Sound) {due : Int}
    {work : Work V} {task : TaskId} (accepted : before.submit? due work = some (task, after))
    (own : work.cache? = none) {handle : Label} {id : SchedulerId}
    (handles : moved.handles = system.handles.insert handle ⟨id, task⟩) : moved.Handled after := by
  intro other held found
  rw [handles, Std.TreeMap.getElem?_insert] at found
  split at found
  · cases found
    obtain ⟨_, rfl, ready, interrupt, journal, rfl⟩ := Scheduler.eq_of_submit? accepted
    refine ⟨?_, ?_⟩
    · exact ne_of_eq_of_ne ((Roster.fate?_accept ..).trans (if_pos rfl)) nofun
    · intro entry queued same
      rcases Heap.mem_insert_iff.1 queued with new | earlier
      · rw [new]
        exact own
      · exact absurd same (sound.stored.fresh earlier)
  · exact handled other held found

theorem Handled.cancel (handled : system.Handled before) (handles : moved.handles = system.handles)
    (id : TaskId) : moved.Handled (before.cancel id).2 := by
  intro handle held found
  rw [handles] at found
  obtain ⟨known, tasks⟩ := handled handle held found
  rw [Scheduler.roster_cancel, Scheduler.queue_cancel]
  refine ⟨?_, tasks⟩
  rw [ne_eq, Roster.fate?_eq_none_iff] at known ⊢
  rw [Roster.count_resolve]
  exact known

/-- A system stays tidy, and no call or move has touched the caches. -/
structure Undisturbed (label : Label) (token : Token) (system moved : System V) : Prop where
  spares : Spares system moved
  tidy : ∃ scheduler, moved.Tidy label token scheduler

/-- A change that spares the caches keeps a system tidy if the scheduler stays clean and tends the
caches. -/
theorem Tidy.spare (tidy : system.Tidy label token before) (spares : Spares system moved)
    (hosts : moved.Hosts label after) (clean : after.Clean token system.caches.size)
    (handled : moved.Handled after)
    (tends : ∀ {cache : Label} {id : CacheId} {found : Cache V},
      system.cacheLabels[cache]? = some id → before.Tends system.now id found →
        after.Tends system.now id found) : Undisturbed label token system moved := by
  refine ⟨spares, after, hosts, spares.bookings.trans tidy.bookings, ?_, handled, ?_, ?_⟩
  · rw [spares.caches]
    exact clean
  · intro cache id labelled
    rw [spares.cacheLabels] at labelled
    obtain ⟨found, kept⟩ := tidy.kept labelled
    refine ⟨found, ?_, kept.place, kept.dropped, ?_⟩
    · rw [cache?, spares.caches]
      exact kept.found
    · rw [spares.now]
      exact tends labelled kept.tended
  · rw [spares.cacheLabels]
    exact tidy.apart

/-- A change of one cache keeps a system tidy if the scheduler stays clean and tends the caches. -/
theorem Tidy.alter (tidy : system.Tidy label token before) {id : CacheId} {changed : Cache V}
    (alters : Alters id changed system moved) (hosts : moved.Hosts label after)
    (clean : after.Clean token system.caches.size) (handled : moved.Handled after)
    (own : ∀ {cache : Label}, system.cacheLabels[cache]? = some id →
      moved.Keeps after id changed)
    (others : ∀ {other : CacheId} {found : Cache V}, other ≠ id →
      before.Tends system.now other found → after.Tends system.now other found) :
    moved.Tidy label token after := by
  refine ⟨hosts, alters.bookings.trans tidy.bookings, ?_, handled, ?_, ?_⟩
  · rw [alters.size]
    exact clean
  · intro cache other labelled
    rw [alters.cacheLabels] at labelled
    by_cases same : other = id
    · subst same
      exact ⟨changed, own labelled⟩
    · obtain ⟨found, kept⟩ := tidy.kept labelled
      refine ⟨found, (alters.others same).trans kept.found, kept.place, kept.dropped, ?_⟩
      rw [alters.now]
      exact others same kept.tended
  · rw [alters.cacheLabels]
    exact tidy.apart

theorem Tidy.tick (tidy : system.Tidy label token before) {span : Int} (forth : 0 ≤ span) :
    Tidy label token { system with now := system.now + span } before := by
  refine ⟨⟨tidy.only, tidy.label, tidy.calls⟩, tidy.bookings, tidy.clean, tidy.handled, ?_,
    tidy.apart⟩
  intro cache id labelled
  obtain ⟨found, keeps⟩ := tidy.kept labelled
  exact ⟨found, keeps.found, keeps.place, keeps.dropped,
    keeps.tended.later (Int.le_add_of_nonneg_right forth)⟩

end System

end Agenda
