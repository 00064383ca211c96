import Agenda.Proofs.Deletion.Correspondence
import Agenda.Proofs.Deletion.Upholding
import Agenda.Proofs.Scheduler.Waiting
import Agenda.Proofs.System.Independence
import Agenda.Proofs.System.Stopping

/-!
# Separate caches

Caches that share a scheduler, keys and generations have nothing to do with each other.  A cache that
is dropped stays as it is: its queued deletions keep neither the cache nor the scheduler, and those
that still run do so in vain.
-/

namespace Agenda

universe u

variable {V : Type u}

/-- The label that a cache loses in a call: it is given up, or goes over to a new cache. -/
def Demand.displaced? : Demand V → Option Label
  | .request (.createCacheOn cache _) => some cache
  | .request (.createCacheAlone cache _) => some cache
  | .part (.releaseCache cache) => some cache
  | _ => none

/-- Where one task begins, no other one has got another fate. -/
theorem Scheduler.Effect.fate?_of_began {ω : Type u} {now time : Int} {before after : Scheduler ω}
    {occurred : List Occurrence} {task further : TaskId} (effect : Effect now before after occurred)
    (began : occurred = [.began task time]) (different : further ≠ task) :
    after.roster.fate? further = before.roster.fate? further := by
  cases effect with
  | began _ _ _ roster =>
      cases began
      rw [roster, Roster.fate?_resolve_of_ne _ different]
  | @abandoned ids => cases ids <;> cases began
  | _ => cases began

namespace Operation

variable {system : System V} {operation : Operation V}

theorem Touches.unique {place target : CacheId} (first : operation.Touches system place)
    (second : operation.Touches system target) : target = place := by
  have busy {id : SchedulerId} {task : TaskId} {place : CacheId} {key : String} {generation : Nat}
      {demand : Demand V} (held : system.hand? id = some (task, .deletion place key generation))
      (demanded : (Operation.worker id).demand? system = some demand) : False := by
    obtain ⟨script, scripted, _⟩ := Option.bind_eq_some_iff.1 demanded
    obtain ⟨_, _, _, _, other⟩ := System.script?_eq_some_iff.1 scripted
    cases held.symm.trans other
  cases first with
  | demand demanded called named =>
      cases second with
      | demand again calls names =>
          cases demanded.symm.trans again
          cases called.symm.trans calls
          exact Option.some.inj (names.symm.trans named)
      | book _ => cases demanded
      | confirm _ => cases demanded
      | deletion held => exact (busy held demanded).elim
  | book named =>
      cases second with
      | demand demanded => cases demanded
      | book names => exact Option.some.inj (names.symm.trans named)
  | confirm =>
      cases second with
      | demand demanded => cases demanded
      | confirm => rfl
  | deletion held =>
      cases second with
      | demand demanded => exact (busy held demanded).elim
      | deletion again =>
          cases held.symm.trans again
          rfl

end Operation

namespace System

variable {system after later : System V} {operation : Operation V} {id other : SchedulerId}
  {place : CacheId} {cache : Cache V} {host : Scheduler (Work V)} {task : TaskId} {key : String}
  {generation : Nat}

/-- A deletion from a dropped cache is over at once. -/
theorem moveWorker?_of_dropped (found : system.scheduler? id = some host)
    (busy : host.worker = .busy task (.deletion place key generation))
    (present : system.cache? place = some cache) (dropped : cache.dropped = true) :
    system.moveWorker? id = some (system.putScheduler id host.finish) := by
  rw [moveWorker?, found, Option.bind_some, busy]
  simp only [moveDeletion?, present, dropped, if_true]
  rfl

theorem Reachable.still (reachable : Reachable system) (found : system.cache? place = some cache)
    (dropped : cache.dropped = true) (does : system.Does operation after) :
    after.cache? place = some cache := by
  by_cases touches : operation.Touches system place
  · have held (held : system.IsHeld place) : after.cache? place = some cache :=
      absurd ⟨held, cache, found, dropped⟩ (reachable.tame place)
    cases touches with
    | demand _ _ named => exact held (.inl ⟨_, named⟩)
    | book named => exact held (.inl ⟨_, named⟩)
    | confirm booking =>
        cases does with
        | confirm listed => exact held (.inr ⟨booking, listed, rfl⟩)
    | deletion hand =>
        cases does with
        | worker move =>
            obtain ⟨host, hosted, busy⟩ := Option.bind_eq_some_iff.1 hand
            rw [moveWorker?_of_dropped hosted (Worker.hand?_eq_some_iff.1 busy) found dropped] at move
            cases move
            exact found
  · exact (reachable.confined does).cache found touches

theorem Leads.still (leads : Leads system later) (reachable : Reachable system)
    (found : system.cache? place = some cache) (dropped : cache.dropped = true) :
    later.cache? place = some cache := by
  induction leads with
  | refl => exact found
  | tail earlier step inductionHypothesis =>
      obtain ⟨operation, does⟩ := step.exists_does
      exact (reachable.leads earlier).still inductionHypothesis dropped does

/-- A deletion of a dropped cache waits until it begins at its time, unless the stop signal comes
before. -/
theorem Leads.fares (leads : Leads system later) (reachable : Reachable system)
    (found : system.cache? place = some cache) (dropped : cache.dropped = true)
    (hosted : system.scheduler? cache.scheduler = some host) {entry : Entry (Work V)}
    (queued : entry ∈ host.queue.toList) (own : entry.work = .deletion place key generation)
    (pending : host.roster.fate? entry.id = some .pending) :
    ∃ last record, later.scheduler? cache.scheduler = some last ∧
      Run ⟨system.now, host⟩ record ⟨later.now, last⟩ ∧ (last.halted = false →
        entry ∈ last.queue.toList ∧ last.roster.fate? entry.id = some .pending ∨
          ∃ time, .began entry.id time ∈ record ∧ entry.due ≤ time) := by
  obtain ⟨record, last, again, run⟩ := leads.evolves.old hosted
  refine ⟨last, record, again, run, fun running => ?_⟩
  obtain ⟨_, same, links⟩ := reachable.linked.links found
  cases hosted.symm.trans same
  obtain ⟨lease, stored, rfl⟩ := links.pending queued own pending
  cases run.fares (reachable.linked.sound hosted) queued pending with
  | waits held waiting => exact .inl ⟨held, waiting⟩
  | began began due _ => exact .inr ⟨_, began, due⟩
  | cancelled cancelled =>
      have still := leads.still reachable found dropped
      have halted := (reachable.leads leads).upheld.halted still stored again cancelled
      cases halted.symm.trans running

theorem scheduler?_sweep_of_kept (found : system.scheduler? id = some host)
    (kept : system.sweep.keepsScheduler id = true) : system.sweep.scheduler? id = some host := by
  rw [scheduler?_sweep found, kept, if_pos rfl]

/-- Who leaves a scheduler waits for it only if nobody keeps it. -/
theorem scheduler?_leave {caller : Caller}
    (kept : (system.leave caller id).keepsScheduler other = true) :
    system.keepsScheduler other = true ∧
      (system.leave caller id).scheduler? other = system.scheduler? other := by
  have returns (kept : (system.returnTo caller).keepsScheduler other = true) :
      system.keepsScheduler other = true ∧
        (system.returnTo caller).scheduler? other = system.scheduler? other :=
    ⟨(keepsScheduler_returnTo ..).symm.trans kept, scheduler?_returnTo ..⟩
  unfold leave awaitExit at kept ⊢
  split at kept
  · rename_i stays
    rw [if_pos stays]
    exact returns kept
  · rename_i leaves
    rw [if_neg leaves]
    rw [Bool.not_eq_true, Bool.or_eq_false_iff] at leaves
    split at kept
    · exact returns kept
    · rename_i host left
      dsimp only at kept ⊢
      split at kept
      · rename_i joined
        rw [if_pos joined]
        exact returns kept
      · rename_i alone
        rw [if_neg alone]
        have earlier : system.keepsScheduler other = true := by
          rw [keepsScheduler_iff] at kept ⊢
          refine kept.imp_right (.imp_right ?_)
          rintro ⟨call, listed, owner, own⟩
          rcases List.mem_append.1 listed with earlier | last
          · exact ⟨call, earlier, owner, own⟩
          · rw [List.mem_singleton.1 last] at owner
            cases owner
        have different : other ≠ id := by
          rintro rfl
          cases leaves.1.symm.trans earlier
        exact ⟨earlier, scheduler?_putScheduler_of_ne system different _⟩

theorem scheduler?_releaseCache {caller : Caller} {label : Label}
    (found : system.scheduler? other = some host)
    (kept : (system.releaseCache caller label place id).keepsScheduler other = true) :
    (system.releaseCache caller label place id).scheduler? other = some host := by
  unfold releaseCache at kept ⊢
  have present : ({ system with cacheLabels := system.cacheLabels.erase label } : System V).scheduler?
      other = some host := found
  generalize { system with cacheLabels := system.cacheLabels.erase label } = erased at kept present ⊢
  dsimp only at kept ⊢
  split at kept
  · rename_i held
    rw [if_pos held, scheduler?_returnTo]
    exact scheduler?_sweep_of_kept present ((keepsScheduler_returnTo ..).symm.trans kept)
  · rename_i dropped
    rw [if_neg dropped]
    obtain ⟨stays, same⟩ := scheduler?_leave kept
    rw [same]
    exact scheduler?_sweep_of_kept present stays

theorem scheduler?_labelNewCache {label : Label} (found : system.scheduler? other = some host)
    (kept : (system.labelNewCache label id).keepsScheduler other = true) :
    (system.labelNewCache label id).scheduler? other = some host := by
  unfold labelNewCache at kept ⊢
  exact scheduler?_sweep_of_kept found kept

theorem scheduler?_of_displaced {request : Request V} {reply : Reply V}
    (displaced : (Demand.request request).displaced? ≠ none)
    (answer : system.answer? request = some (reply, after))
    (found : system.scheduler? id = some host) (kept : after.keepsScheduler id = true) :
    after.scheduler? id = some host := by
  cases request with
  | createCacheOn label target =>
      obtain rfl := snd_eq_of_some answer
      unfold createCacheOn at kept ⊢
      split at kept
      · exact found
      · exact scheduler?_labelNewCache found kept
  | createCacheAlone label settings =>
      obtain rfl := snd_eq_of_some answer
      exact scheduler?_labelNewCache ((grows_createScheduler system settings).old found) kept
  | _ => exact absurd rfl displaced

/-- When a cache loses its label, nothing changes in the schedulers that are kept. -/
theorem Does.released {demand : Demand V} (does : system.Does operation after)
    (demanded : operation.demand? system = some demand) (displaced : demand.displaced? ≠ none)
    (found : system.scheduler? id = some host) (kept : after.keepsScheduler id = true) :
    ∃ worker, worker.task? = host.worker.task? ∧ after.scheduler? id = some { host with worker } := by
  cases demand with
  | submit => exact absurd rfl displaced
  | part parting =>
      obtain ⟨asked, puts, begun⟩ := does.exists_puts demanded
      obtain ⟨worker, same, seen⟩ := puts.scheduler found
      refine ⟨worker, same, ?_⟩
      rcases begun with ⟨_, rfl⟩ | ⟨caller, begun⟩
      · exact seen
      · cases parting with
        | releaseCache label =>
            simp only [part?] at begun
            split at begun <;> cases begun
            exact scheduler?_releaseCache seen kept
        | _ => exact absurd rfl displaced
  | request request =>
      rcases does.replies demanded with ⟨reply, replies⟩ | ⟨_, _, rfl⟩
      · obtain ⟨asked, answered, puts, answer, _, rfl⟩ := replies.exists_puts
        obtain ⟨worker, same, seen⟩ := puts.scheduler found
        have stays : answered.keepsScheduler id = true := kept
        have again := scheduler?_of_displaced displaced answer seen stays
        exact ⟨worker, same, again⟩
      · exact ⟨host.worker, rfl, found⟩

/-- A deletion ends with a change in its own scheduler only, and there only in the worker. -/
theorem Does.finishes (does : system.Does (.worker id) after)
    (held : system.hand? id = some (task, .deletion place key generation))
    (found : system.scheduler? other = some host) (kept : after.keepsScheduler other = true) :
    after.scheduler? other = some (if other = id then host.finish else host) := by
  have finishes {system : System V} {third : Scheduler (Work V)}
      (own : system.scheduler? id = some third) (found : system.scheduler? other = some host) :
      (system.finishTask id third).scheduler? other =
        some (if other = id then host.finish else host) := by
    by_cases same : other = id
    · subst same
      cases own.symm.trans found
      rw [if_pos rfl]
      exact scheduler?_putScheduler_self own _
    · rw [if_neg same]
      exact (scheduler?_putScheduler_of_ne system same _).trans found
  cases does with
  | worker move =>
      obtain ⟨third, own, taken⟩ := Option.bind_eq_some_iff.1 move
      have busy := Worker.hand?_eq_some_iff.1 ((hand?_of_found own).symm.trans held)
      simp only [busy, moveDeletion?] at taken
      split at taken
      · cases taken
        exact finishes own found
      · split at taken
        · cases taken
          exact finishes own found
        · split at taken <;> cases taken
          refine scheduler?_sweep_of_kept (finishes ?_ ?_) kept
          · exact own
          · exact found

theorem fate?_look_of_busy {scheduler : Scheduler (Work V)} {now : Int} {work : Work V}
    (looking : scheduler.worker = .looking)
    (busy : (scheduler.look now).worker = .busy task work) {further : TaskId}
    (different : further ≠ task) :
    (scheduler.look now).roster.fate? further = scheduler.roster.fate? further := by
  unfold Scheduler.look at busy ⊢
  split at busy
  · cases busy
  · rename_i running
    rw [if_neg running]
    have effect := (Scheduler.chooses_choose scheduler now).effect looking
    rw [busy] at effect
    exact effect.fate?_of_began rfl different

/-- From the stop signal on nothing begins, and what is queued is cancelled. -/
theorem Leads.abandons (leads : Leads system later) (reachable : Reachable system)
    (found : system.scheduler? id = some host) (halted : host.halted = true) :
    ∃ last record, later.scheduler? id = some last ∧
      Run ⟨system.now, host⟩ record ⟨later.now, last⟩ ∧ Halted later id host last record ∧
        (later.IsSettled → last.worker.isBusy = false →
          Abandoned system later id host last record) := by
  obtain ⟨record, last, seen, run⟩ := leads.evolves.old found
  have sound := reachable.sound found
  have after := reachable.leads leads
  have stopping := halted_of_run run sound halted seen
  refine ⟨last, record, seen, run, stopping, fun settled free => ?_⟩
  refine stopping.abandoned (run.halts halted) sound (after.sound seen) seen settled free ?_
  exact fun drained => leads.informs.released (after.attended.shutdowns_eq_nil settled drained)

/-- What caches have to do with each other, on one scheduler or on several, and what is left of a
cache that is dropped. -/
structure Secluded (system : System V) : Prop where
  /-- An operation is about one cache at most. -/
  unique : ∀ {operation : Operation V} {place other}, operation.Touches system place →
    operation.Touches system other → other = place
  /-- A call on another cache, or a deletion from it, changes nothing. -/
  apart : ∀ {operation after place cache}, system.Does operation after →
    system.cache? place = some cache → ¬ operation.Touches system place →
      after.cache? place = some cache
  /-- Nor does any number of them. -/
  course : ∀ {record later place cache}, Course system record later →
    system.cache? place = some cache → (∀ entry ∈ record, ¬ entry.2.Touches entry.1 place) →
      later.cache? place = some cache
  /-- Whatever is queued, a cache is dropped that has no label, whose lock nobody holds, and from
  which nobody is about to delete. -/
  unheld : ∀ {place cache}, system.cache? place = some cache → ¬ system.IsHeld place →
    (∀ id task key generation, system.hand? id ≠ some (task, .deletion place key generation)) →
      cache.dropped = true
  /-- Whatever is queued, a scheduler has the stop signal that has no label, no cache in use, and no
  shutdown under way. -/
  unowned : ∀ {id host}, system.scheduler? id = some host → ¬ system.IsLabelled id →
    (∀ {place cache}, system.cache? place = some cache → cache.scheduler = id →
      cache.dropped = true) → ¬ system.IsShutting id → host.halted = true
  /-- When the last owner of a scheduler is dropped the stop signal is there at once, and what is
  queued is cancelled as soon as the worker gets to it. -/
  last : ∀ {operation after place cache gone}, system.Does operation after →
    system.cache? place = some cache → cache.dropped = false → after.cache? place = some gone →
    gone.dropped = true → after.keepsScheduler cache.scheduler = false →
      ∃ host, after.scheduler? cache.scheduler = some host ∧ host.halted = true ∧
        ∀ {later}, Leads after later → ∃ last record,
          later.scheduler? cache.scheduler = some last ∧
          Run ⟨after.now, host⟩ record ⟨later.now, last⟩ ∧
          Halted later cache.scheduler host last record ∧
          (later.IsSettled → last.worker.isBusy = false →
            Abandoned after later cache.scheduler host last record)
  /-- A scheduler that has another owner does not notice that a cache loses its label, -/
  released : ∀ {operation after demand id host}, system.Does operation after →
    operation.demand? system = some demand → demand.displaced? ≠ none →
    system.scheduler? id = some host → after.keepsScheduler id = true →
      ∃ worker, worker.task? = host.worker.task? ∧
        after.scheduler? id = some { host with worker }
  /-- or that the last access to it ends, -/
  confirmed : ∀ {booking id host}, (system.resolve booking).2.scheduler? id = some host →
    (system.confirm booking).2.keepsScheduler id = true →
      (system.confirm booking).2.scheduler? id = some host
  /-- or the last deletion from it. -/
  finishes : ∀ {id after task place key generation other host}, system.Does (.worker id) after →
    system.hand? id = some (task, .deletion place key generation) →
    system.scheduler? other = some host → after.keepsScheduler other = true →
      after.scheduler? other = some (if other = id then host.finish else host)
  /-- A cache that was dropped does not change any more, whatever its deletions do. -/
  still : ∀ {later place cache}, Leads system later → system.cache? place = some cache →
    cache.dropped = true → later.cache? place = some cache
  /-- A deletion that is pending then stays queued with its due time, and is counted, until it
  begins at that time or later, unless the stop signal comes before. -/
  stays : ∀ {later place cache host entry key generation}, Leads system later →
    system.cache? place = some cache → cache.dropped = true →
    system.scheduler? cache.scheduler = some host → entry ∈ host.queue.toList →
    entry.work = .deletion place key generation →
    host.roster.fate? entry.id = some .pending → ∃ last record,
      later.scheduler? cache.scheduler = some last ∧
      Run ⟨system.now, host⟩ record ⟨later.now, last⟩ ∧ (last.halted = false →
        (entry ∈ last.queue.toList ∧ last.roster.fate? entry.id = some .pending ∧
          last.waiting.count entry.id = 1 ∧ last.waiting.length = last.size) ∨
        ∃ time, .began entry.id time ∈ record ∧ entry.due ≤ time)
  /-- A deletion begins without a change for any cache or any other task, -/
  begins : ∀ {id host task place key generation}, system.scheduler? id = some host →
    host.worker = .looking →
    (host.look system.now).worker = .busy task (.deletion place key generation) →
      system.moveWorker? id = some (system.putScheduler id (host.look system.now)) ∧
        ∀ other, other ≠ task →
          (host.look system.now).roster.fate? other = host.roster.fate? other
  /-- and if the cache was dropped, it ends so, without waiting for anything. -/
  vain : ∀ {id host task place key generation cache}, system.scheduler? id = some host →
    host.worker = .busy task (.deletion place key generation) →
    system.cache? place = some cache → cache.dropped = true →
      system.moveWorker? id = some (system.putScheduler id host.finish) ∧
        host.finish.queue = host.queue ∧ host.finish.roster = host.roster

theorem Reachable.secluded (reachable : Reachable system) : system.Secluded where
  unique := Operation.Touches.unique
  apart does found apart := (reachable.confined does).cache found apart
  course {_ _ place cache} course found apart :=
    course.keeps (motive := fun system => system.cache? place = some cache) reachable apart
      (fun reached does apart seen => (reached.confined does).cache seen apart) found
  unheld {place cache} found free idle := by
    refine reachable.owned.dropped found ?_
    rw [← Bool.not_eq_true, keepsCache_iff]
    rintro (held | ⟨id, task, key, generation, hand⟩)
    · exact free held
    · exact idle id task key generation hand
  unowned {id host} found unlabelled unstocked uncalled := by
    refine reachable.owned.halted found ?_
    rw [← Bool.not_eq_true, keepsScheduler_iff]
    rintro (named | ⟨place, cache, present, used, own⟩ | called)
    · exact unlabelled named
    · cases (unstocked present own).symm.trans used
    · exact uncalled called
  last {operation after place cache gone} does found _ _ _ orphan := by
    have following := reachable.step does.step
    obtain ⟨_, placed, _⟩ := reachable.linked.links found
    obtain ⟨host, again⟩ := (reachable.confined does).known placed
    have halted := following.owned.halted again orphan
    exact ⟨host, again, halted, fun leads => leads.abandons following again halted⟩
  released := Does.released
  confirmed found kept := scheduler?_sweep_of_kept found kept
  finishes := Does.finishes
  still leads found dropped := leads.still reachable found dropped
  stays leads found dropped hosted queued own pending := by
    obtain ⟨last, record, seen, run, fares⟩ :=
      leads.fares reachable found dropped hosted queued own pending
    refine ⟨last, record, seen, run, fun running => (fares running).imp_left ?_⟩
    rintro ⟨held, waiting⟩
    have sound := (reachable.leads leads).sound seen
    have once : last.waiting.count _ = 1 :=
      List.count_eq_one_of_mem sound.stored.distinct (List.mem_map_of_mem held)
    exact ⟨held, waiting, once, last.length_waiting⟩
  begins {id host task place key generation} found looking busy := by
    refine ⟨?_, fun other different => fate?_look_of_busy looking busy different⟩
    rw [moveWorker?, found, Option.bind_some, looking]
    simp only [moveLooking, busy]
  vain found busy present dropped :=
    ⟨moveWorker?_of_dropped found busy present dropped, Scheduler.queue_signalDrained _,
      Scheduler.roster_signalDrained _⟩

/-- Two caches on one scheduler have an entry under the same key and of the same generation.  One of
them is given up, and its deletion is still queued. -/
theorem secluded_of_shared_key :
    ∃ (system : System Nat) (first second : Cache Nat) (host : Scheduler (Work Nat))
        (one two : Lease Nat) (entry : Entry (Work Nat)) (generation : Nat),
      Reachable system ∧ system.Secluded ∧ system.cache? ⟨0⟩ = some first ∧
        system.cache? ⟨1⟩ = some second ∧ first.dropped = true ∧ second.dropped = false ∧
        second.scheduler = first.scheduler ∧ system.scheduler? first.scheduler = some host ∧
        host.halted = false ∧ first.lease? "key" = some one ∧ second.lease? "key" = some two ∧
        one.generation = two.generation ∧ entry ∈ host.queue.toList ∧
        entry.work = .deletion ⟨0⟩ "key" generation ∧
        host.roster.fate? entry.id = some .pending := by
  have empty : Reachable ({} : System Nat) := .start
  have created := empty.step (.deed _ (.request (.create "main" {})))
  have one := created.step (.deed _ (.request (.createCacheOn "first" "main")))
  have two := one.step (.deed _ (.request (.createCacheOn "second" "main")))
  have added := two.step (.deed _ (.request (.access "first" "key" (.add 7 (.span 50)))))
  have both := added.step (.deed _ (.request (.access "second" "key" (.add 8 (.span 50)))))
  have reachable := both.step (.deed _ (.part (.releaseCache "first") "helper"))
  generalize given : (Session.perform (Session.perform (Session.perform (Session.perform
    (Session.perform (Session.perform ({} : System Nat) (.request (.create "main" {}))).2
      (.request (.createCacheOn "first" "main"))).2
      (.request (.createCacheOn "second" "main"))).2
      (.request (.access "first" "key" (.add 7 (.span 50))))).2
      (.request (.access "second" "key" (.add 8 (.span 50))))).2
      (.part (.releaseCache "first") "helper")).2 = system at reachable
  have course : (system.cache? ⟨0⟩).any (fun first => (system.cache? ⟨1⟩).any fun second =>
      first.dropped && !second.dropped && second.scheduler == first.scheduler &&
      (system.scheduler? first.scheduler).any fun host => !host.halted &&
      (first.lease? "key").any fun one => (second.lease? "key").any fun two =>
      one.generation == two.generation && host.queue.toList.any fun entry =>
      entry.work.deletes ⟨0⟩ "key" && host.roster.isPending entry.id) = true := by
    rw [← given]
    decide +kernel
  obtain ⟨first, here, course⟩ := (Option.any_eq_true _ _).1 course
  obtain ⟨second, there, course⟩ := (Option.any_eq_true _ _).1 course
  simp only [Bool.and_eq_true, Bool.not_eq_true', beq_iff_eq] at course
  obtain ⟨⟨⟨dropped, used⟩, shared⟩, course⟩ := course
  obtain ⟨host, hosted, course⟩ := (Option.any_eq_true _ _).1 course
  simp only [Bool.and_eq_true, Bool.not_eq_true'] at course
  obtain ⟨running, course⟩ := course
  obtain ⟨one, stored, course⟩ := (Option.any_eq_true _ _).1 course
  obtain ⟨two, also, course⟩ := (Option.any_eq_true _ _).1 course
  simp only [Bool.and_eq_true, beq_iff_eq, List.any_eq_true] at course
  obtain ⟨alike, entry, queued, deletes, pending⟩ := course
  obtain ⟨generation, work⟩ := Work.deletes_iff.1 deletes
  exact ⟨system, first, second, host, one, two, entry, generation, reachable,
    Reachable.secluded reachable, here, there, dropped, used, shared, hosted, running, stored, also,
    alike, queued, work, Roster.isPending_iff.1 pending⟩

end System

end Agenda
