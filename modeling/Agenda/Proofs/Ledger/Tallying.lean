import Agenda.Proofs.Deletion.Accessing

/-!
# What an operation does to an entry

An entry comes in by an add or by a set of an absent key, and it goes by a delete or by its deletion.
What is done in an operation shows from the answer that is given in it, or from the deletion that the
worker has in its hands.  A key that comes in was absent before, and one that goes was present.
-/

namespace Agenda

universe u

variable {V : Type u}

namespace Access

def adds : Access V → Reply V → Bool
  | .add _ _, .ok => true
  | _, _ => false

def introduces : Access V → Reply V → Bool
  | .set _ _, .found none => true
  | _, _ => false

def overwrites : Access V → Reply V → Bool
  | .set _ _, .found (some _) => true
  | _, _ => false

/-- An addition with this answer has stored its value, or has found that somebody was there first. -/
def contends : Access V → Reply V → Bool
  | .add _ _, .ok => true
  | .add _ _, .failed (.duplicateKey _) => true
  | _, _ => false

end Access

namespace Operation

def answers (system : System V) (place : CacheId) (key : String)
    (kind : Access V → Reply V → Bool) (operation : Operation V) : Bool :=
  match operation.access? system, operation.reply? system with
  | some (store, name, access), some reply => (store = place && name = key) && kind access reply
  | _, _ => false

def adds (system : System V) (place : CacheId) (key : String) : Operation V → Bool :=
  answers system place key Access.adds

def introduces (system : System V) (place : CacheId) (key : String) : Operation V → Bool :=
  answers system place key Access.introduces

def overwrites (system : System V) (place : CacheId) (key : String) : Operation V → Bool :=
  answers system place key Access.overwrites

/-- An add of the key to the cache is answered by `ok`, or because the key is present. -/
def contends (system : System V) (place : CacheId) (key : String) : Operation V → Bool :=
  answers system place key Access.contends

def deletes (system : System V) (place : CacheId) (key : String) (operation : Operation V) : Bool :=
  match operation.delete? system, operation.reply? system with
  | some (store, name), some (.found (some _)) => store = place && name = key
  | _, _ => false

/-- The worker carries out a deletion of the key from the cache, and the key is gone. -/
def expires (system : System V) (place : CacheId) (key : String) : Operation V → Bool
  | .worker id =>
      match system.hand? id with
      | some (_, .deletion store name _) => store = place && name = key &&
          (system.lease? place key).isSome &&
          (system.moveWorker? id).any fun moved => (moved.lease? place key).isNone
      | _ => false
  | _ => false

def inserts (system : System V) (place : CacheId) (key : String) (operation : Operation V) : Bool :=
  operation.adds system place key || operation.introduces system place key

def ousts (system : System V) (place : CacheId) (key : String) (operation : Operation V) : Bool :=
  operation.deletes system place key || operation.expires system place key

variable {system asked : System V} {operation : Operation V} {place store : CacheId}
  {key name : String} {access : Access V} {id : SchedulerId} {task : TaskId} {generation : Nat}

theorem answers_of_access? {kind : Access V → Reply V → Bool} {reply : Reply V}
    (accessed : operation.access? system = some (store, name, access))
    (told : operation.reply? system = some reply) : operation.answers system place key kind =
      ((decide (store = place) && decide (name = key)) && kind access reply) := by
  rw [answers, accessed, told]

theorem answers_iff {kind : Access V → Reply V → Bool} :
    operation.answers system place key kind = true ↔ ∃ access reply,
      operation.access? system = some (place, key, access) ∧
        operation.reply? system = some reply ∧ kind access reply = true := by
  unfold answers
  split
  · rename_i accessed told
    simp only [Bool.and_eq_true, decide_eq_true_eq, accessed, told]
    constructor
    · rintro ⟨⟨rfl, rfl⟩, kind⟩
      exact ⟨_, _, rfl, rfl, kind⟩
    · rintro ⟨_, _, same, rest⟩
      cases same
      cases rest.1
      exact ⟨⟨rfl, rfl⟩, rest.2⟩
  · rename_i other
    simp only [Bool.false_eq_true, false_iff]
    rintro ⟨_, _, accessed, told, _⟩
    exact other _ _ _ _ accessed told

theorem answers_of_none (none : operation.access? system = none)
    (kind : Access V → Reply V → Bool) : operation.answers system place key kind = false := by
  rw [answers, none]

theorem deletes_iff : operation.deletes system place key = true ↔
    operation.delete? system = some (place, key) ∧
      ∃ value, operation.reply? system = some (.found (some value)) := by
  unfold deletes
  split
  · rename_i deleted told
    simp [deleted, told]
  · rename_i other
    simp only [Bool.false_eq_true, false_iff]
    rintro ⟨deleted, value, told⟩
    exact other _ _ _ deleted told

theorem expires_iff : operation.expires system place key = true ↔
    ∃ id task generation moved, operation = .worker id ∧
      system.hand? id = some (task, .deletion place key generation) ∧
      system.moveWorker? id = some moved ∧ system.lease? place key ≠ none ∧
      moved.lease? place key = none := by
  unfold expires
  split
  · rename_i id
    split
    · rename_i held
      simp only [Bool.and_eq_true, decide_eq_true_eq, Option.isSome_iff_ne_none, Option.any_eq_true,
        Option.isNone_iff_eq_none]
      constructor
      · rintro ⟨⟨⟨rfl, rfl⟩, present⟩, moved, move, gone⟩
        exact ⟨id, _, _, moved, rfl, held, move, present, gone⟩
      · rintro ⟨_, _, _, moved, same, hand, move, present, gone⟩
        cases same
        cases held.symm.trans hand
        exact ⟨⟨⟨rfl, rfl⟩, present⟩, moved, move, gone⟩
    · rename_i other
      simp only [Bool.false_eq_true, false_iff]
      rintro ⟨_, _, _, _, same, held, _⟩
      cases same
      exact other _ _ _ _ held
  · rename_i other
    simp only [Bool.false_eq_true, false_iff]
    rintro ⟨_, _, _, _, same, _⟩
    exact other _ same

theorem deletes_of_none (none : operation.delete? system = none) (place : CacheId) (key : String) :
    operation.deletes system place key = false := by
  rw [Bool.eq_false_iff, ne_eq, deletes_iff, none]
  exact fun deleted => Option.some_ne_none _ deleted.1.symm

theorem expires_of_ne (other : ∀ {id task generation}, operation = worker id →
    system.hand? id ≠ some (task, .deletion place key generation)) :
    operation.expires system place key = false := by
  rw [Bool.eq_false_iff, ne_eq, expires_iff]
  rintro ⟨id, task, generation, _, same, held, _⟩
  exact other same held

theorem posed?_of_deletion (held : system.hand? id = some (task, .deletion place key generation)) :
    (worker id).posed? system = none := by
  obtain ⟨host, found, busy⟩ := System.hand?_eq_some_iff.1 held
  simp only [posed?, found]
  split
  · rename_i same
    cases same
    rw [busy]
  · rfl

theorem access?_of_deletion
    (held : system.hand? id = some (task, .deletion place key generation)) :
    (worker id).access? system = none := by
  simp [access?, posed?_of_deletion held]

theorem delete?_of_deletion
    (held : system.hand? id = some (task, .deletion place key generation)) :
    (worker id).delete? system = none := by
  simp [delete?, posed?_of_deletion held]

theorem delete?_of_access? {accessed : CacheId × String × Access V}
    (access : operation.access? system = some accessed) : operation.delete? system = none := by
  obtain ⟨place, key, kind⟩ := accessed
  rcases exists_of_access? access with ⟨booking, rfl, _⟩ | ⟨asked, label, cache, posed, _⟩
  · rfl
  · simp only [delete?, posed, Option.bind_some]

theorem exists_of_delete? (deleted : operation.delete? system = some (place, key)) :
    ∃ asked label cache, operation.posed? system = some (asked, .request (.delete label key)) ∧
      asked.cacheAt? label = some (place, cache) := by
  obtain ⟨⟨asked, deed⟩, posed, called⟩ := Option.bind_eq_some_iff.1 deleted
  dsimp only at called
  split at called
  · obtain ⟨⟨_, cache⟩, located, same⟩ := Option.map_eq_some_iff.1 called
    cases same
    exact ⟨asked, _, cache, posed, located⟩
  · cases called

theorem inserts_of_access? {reply : Reply V}
    (accessed : operation.access? system = some (store, name, access))
    (told : operation.reply? system = some reply) (place : CacheId) (key : String) :
    operation.inserts system place key =
      ((decide (store = place) && decide (name = key)) &&
        (access.adds reply || access.introduces reply)) := by
  rw [inserts, adds, introduces, answers_of_access? accessed told, answers_of_access? accessed told,
    Bool.and_or_distrib_left]

theorem inserts_of_none (none : operation.access? system = none) :
    operation.inserts system place key = false := by
  rw [inserts, adds, introduces, answers_of_none none, answers_of_none none]
  rfl

theorem ousts_of_access? {accessed : CacheId × String × Access V}
    (access : operation.access? system = some accessed) (place : CacheId) (key : String) :
    operation.ousts system place key = false := by
  rw [ousts, deletes_of_none (delete?_of_access? access), Bool.false_or]
  refine expires_of_ne ?_
  rintro id task generation rfl held
  cases (access?_of_deletion held).symm.trans access

theorem not_adds_and_introduces (system : System V) (place : CacheId) (key : String)
    (operation : Operation V) :
    (operation.adds system place key && operation.introduces system place key) = false := by
  unfold adds introduces answers
  split
  · rename_i access reply _ _
    cases access <;> simp [Access.adds, Access.introduces]
  · rfl

theorem not_deletes_and_expires (system : System V) (place : CacheId) (key : String)
    (operation : Operation V) :
    (operation.deletes system place key && operation.expires system place key) = false := by
  rw [Bool.and_eq_false_imp]
  intro deletes
  refine expires_of_ne ?_
  rintro id task generation rfl held
  cases (delete?_of_deletion held).symm.trans (deletes_iff.1 deletes).1

end Operation

namespace System

variable {system after locked : System V} {operation : Operation V} {place store : CacheId}
  {key name : String} {access : Access V} {reply : Reply V} {booking : Booking V} {id : SchedulerId}

/-- An entry was stored in an operation, and its deletion was queued. -/
structure Stores (system after : System V) (place : CacheId) (key : String) (lease : Lease V) :
    Prop where
  stored : after.lease? place key = some lease
  queued : ∃ cache, system.cache? place = some cache ∧
    lease.entry place key ∈ after.queued cache.scheduler

inductive Fares (system : System V) (operation : Operation V) (after : System V) (place : CacheId)
    (key : String) : Prop where
  | spared :
      operation.inserts system place key = false → operation.ousts system place key = false →
      after.lease? place key = system.lease? place key → Fares system operation after place key
  | inserted {lease : Lease V} :
      operation.inserts system place key = true → operation.ousts system place key = false →
      system.lease? place key = none → Stores system after place key lease →
      Fares system operation after place key
  | overwritten {old lease : Lease V} :
      operation.inserts system place key = false → operation.ousts system place key = false →
      operation.overwrites system place key = true → system.lease? place key = some old →
      Stores system after place key lease → Fares system operation after place key
  /-- A read does not shorten the life of the entry. -/
  | renewed {old lease : Lease V} :
      operation.inserts system place key = false → operation.ousts system place key = false →
      system.lease? place key = some old → Stores system after place key lease →
      lease.value = old.value → lease.ttl = old.ttl → old.deadline ≤ lease.deadline →
      Fares system operation after place key
  | ousted {lease : Lease V} :
      operation.inserts system place key = false → operation.ousts system place key = true →
      system.lease? place key = some lease → after.lease? place key = none →
      Fares system operation after place key

theorem StopsShort.inserts {old : Option (Lease V)} (short : StopsShort old key access reply) :
    (access.adds reply || access.introduces reply) = false := by
  cases short with
  | waits => cases access <;> rfl
  | _ => rfl

theorem inserts_denial (access : Access V) (name : String) (old : Option (Lease V)) :
    (access.adds (access.denial name old) || access.introduces (access.denial name old)) = false := by
  cases access <;> rfl

/-- What becomes of the entry of an access that was stored. -/
theorem Ends.fares_of_stored {lease : Lease V}
    (ends : system.Ends operation locked booking after)
    (accessed : operation.access? system = some (booking.cache, booking.key, booking.access))
    (told : operation.reply? system =
      some (booking.access.answer (system.lease? booking.cache booking.key)))
    (valued : booking.value? (system.lease? booking.cache booking.key) = some lease.value)
    (lasts : lease.ttl = booking.ttl) (due : booking.deadline = some lease.deadline)
    (stores : Stores system after booking.cache booking.key lease) :
    Fares system operation after booking.cache booking.key := by
  have inserts := Operation.inserts_of_access? accessed told booking.cache booking.key
  have ousts := Operation.ousts_of_access? accessed booking.cache booking.key
  cases kind : booking.access with
  | add value ttl =>
      rw [kind] at inserts
      exact .inserted (inserts.trans (by simp [Access.adds, Access.answer])) ousts
        (ends.encounters.vacant kind) stores
  | set value ttl =>
      rw [kind] at inserts accessed told
      cases old : system.lease? booking.cache booking.key with
      | none =>
          rw [old] at inserts
          exact .inserted (inserts.trans (by simp [Access.introduces, Access.answer])) ousts old stores
      | some found =>
          rw [old] at inserts told
          refine .overwritten (inserts.trans (by simp [Access.adds, Access.introduces, Access.answer]))
            ousts ?_ old stores
          rw [Operation.overwrites, Operation.answers_of_access? accessed told]
          simp [Access.overwrites, Access.answer]
  | read =>
      have reads : booking.access.isRead = true := by rw [kind]; rfl
      rw [kind] at inserts
      obtain ⟨locking, there⟩ := ends.numbered.known booking ends.held
      obtain ⟨old, present, ttl⟩ := ends.numbered.readsPresent there booking
        (mem_holders_iff.2 ⟨ends.held, rfl⟩) reads
      have stored : system.lease? booking.cache booking.key = some old := by
        rw [← ends.entries, lease?_of_found there, present]
      rw [stored, Booking.value?, kind] at valued
      exact .renewed (inserts.trans (by simp [Access.adds, Access.introduces])) ousts stored stores
        (Option.some.inj valued).symm (lasts.trans ttl.symm) (ends.encounters.later reads stored due)

/-- What becomes of an entry in an operation in which an access ends. -/
theorem Does.fares_of_access (does : system.Does operation after) (reachable : Reachable system)
    (accessed : operation.access? system = some (store, name, access)) (place : CacheId)
    (key : String) : Fares system operation after place key := by
  have ousts := Operation.ousts_of_access? accessed place key
  rcases does.access_cases reachable accessed with idles | ⟨locked, booking, ends, rfl, rfl, rfl⟩
  · obtain ⟨reply, told, short⟩ := idles.reply
    have inserts := Operation.inserts_of_access? accessed told place key
    rw [short.inserts, Bool.and_false] at inserts
    exact .spared inserts ousts (idles.entries place key)
  · obtain ⟨cache, host, reply, found, _, told, _, comesOut⟩ := ends.comesOut reachable
    have inserts := Operation.inserts_of_access? accessed told place key
    cases comesOut with
    | overflow _ entries _ =>
        refine .spared (inserts.trans ?_) ousts (entries place key)
        cases booking.access <;> simp [Access.adds, Access.introduces]
    | refused _ _ entries _ =>
        rw [inserts_denial, Bool.and_false] at inserts
        exact .spared inserts ousts (entries place key)
    | accepted _ reached valued entries _ queued =>
        by_cases own : place = booking.cache ∧ key = booking.key
        · obtain ⟨rfl, rfl⟩ := own
          have stored := (entries booking.cache booking.key).trans (if_pos ⟨rfl, rfl⟩)
          exact ends.fares_of_stored accessed told valued rfl reached ⟨stored, cache, found, queued⟩
        · refine .spared (inserts.trans ?_) ousts ((entries place key).trans (if_neg own))
          rw [Bool.and_eq_false_iff, Bool.and_eq_false_iff, decide_eq_false_iff_not,
            decide_eq_false_iff_not, ← not_and_or]
          exact .inl fun same => own ⟨same.1.symm, same.2.symm⟩

/-- What comes of a delete: it takes its entry out, or finds none, or has to wait. -/
theorem Does.delete_cases (does : system.Does operation after)
    (deleted : operation.delete? system = some (store, name)) :
    (Preserves system after ∧ ∀ value, operation.reply? system ≠ some (.found (some value))) ∨
      ∃ lease, system.lease? store name = some lease ∧
        operation.reply? system = some (.found (some lease.value)) ∧
        ∀ place key, after.lease? place key =
          if place = store ∧ key = name then none else system.lease? place key := by
  obtain ⟨asked, label, cache, posed, located⟩ := Operation.exists_of_delete? deleted
  have told := Operation.reply?_of_posed posed
  have poses := does.poses posed
  have puts := poses.puts
  have found := cache?_of_cacheAt? located
  have old := (lease?_of_found found name).symm.trans (puts.lease? store name)
  obtain ⟨events, rfl⟩ := poses.comes
  by_cases unlocked : asked.isUnlocked store = true
  · have performed : Session.perform asked (.request (.delete label name)) =
        asked.delete store cache name := by
      simp only [Session.perform, answer?, delete?, located, unlocked, if_true, Option.getD_some]
    rw [performed] at told ⊢
    have entries (place : CacheId) (key : String) :
        ({ (asked.delete store cache name).2 with events } : System V).lease? place key =
          if place = store ∧ key = name then none else system.lease? place key := by
      rw [← puts.lease? place key]
      exact lease?_delete found name place key
    cases present : cache.lease? name with
    | none =>
        rw [delete_of_none present] at told
        refine .inl ⟨fun place key => ?_, fun value same => ?_⟩
        · rw [entries]
          split
          · rename_i own
            rw [own.1, own.2, ← old, present]
          · rfl
        · cases told.symm.trans same
    | some lease =>
        obtain ⟨_, _, taken⟩ := delete_eq_loses asked store present
        rw [taken] at told
        exact .inr ⟨lease, old.symm.trans present, told, entries⟩
  · have performed : Session.perform asked (.request (.delete label name)) = (.started, asked) := by
      simp only [Session.perform, answer?, delete?, located, unlocked, Bool.false_eq_true, if_false,
        Option.getD_none]
    rw [performed] at told ⊢
    refine .inl ⟨puts.lease?, fun value same => ?_⟩
    cases told.symm.trans same

theorem Does.fares_of_delete (does : system.Does operation after)
    (deleted : operation.delete? system = some (store, name)) (place : CacheId) (key : String) :
    Fares system operation after place key := by
  have inserts : operation.inserts system place key = false := by
    refine Operation.inserts_of_none ?_
    rw [← Option.not_isSome_iff_eq_none, Option.isSome_iff_exists]
    rintro ⟨accessed, access⟩
    cases (Operation.delete?_of_access? access).symm.trans deleted
  have expires : operation.expires system place key = false := by
    refine Operation.expires_of_ne ?_
    rintro id task generation rfl held
    cases (Operation.delete?_of_deletion held).symm.trans deleted
  rcases does.delete_cases deleted with ⟨preserves, told⟩ | ⟨lease, stored, told, entries⟩
  · refine .spared inserts ?_ (preserves place key)
    rw [Operation.ousts, expires, Bool.or_false, Bool.eq_false_iff, ne_eq, Operation.deletes_iff]
    rintro ⟨_, value, same⟩
    exact told value same
  · by_cases own : place = store ∧ key = name
    · obtain ⟨rfl, rfl⟩ := own
      have ousts : operation.deletes system place key = true :=
        Operation.deletes_iff.2 ⟨deleted, lease.value, told⟩
      refine .ousted inserts ?_ stored ((entries place key).trans (if_pos ⟨rfl, rfl⟩))
      rw [Operation.ousts, ousts, Bool.true_or]
    · refine .spared inserts ?_ ((entries place key).trans (if_neg own))
      rw [Operation.ousts, expires, Bool.or_false, Bool.eq_false_iff, ne_eq, Operation.deletes_iff]
      rintro ⟨same, _⟩
      cases deleted.symm.trans same
      exact own ⟨rfl, rfl⟩

theorem Deletes.fares {task : TaskId} {generation : Nat}
    (held : system.hand? id = some (task, .deletion store name generation))
    (move : system.moveWorker? id = some after) (place : CacheId) (key : String) :
    Fares system (.worker id) after place key := by
  have inserts : (Operation.worker id).inserts system place key = false :=
    Operation.inserts_of_none (Operation.access?_of_deletion held)
  have deletes : (Operation.worker id).deletes system place key = false :=
    Operation.deletes_of_none (Operation.delete?_of_deletion held) place key
  have spared (same : after.lease? place key = system.lease? place key) :
      Fares system (.worker id) after place key := by
    refine .spared inserts ?_ same
    rw [Operation.ousts, deletes, Bool.false_or, Bool.eq_false_iff, ne_eq, Operation.expires_iff]
    rintro ⟨_, _, _, moved, own, _, again, present, gone⟩
    cases own
    cases move.symm.trans again
    exact present (same.symm.trans gone)
  have removal : system.Removal after store name generation :=
    Deletes.removal ⟨hand?_eq_some_iff.1 held |>.imp fun host there => ⟨task, there⟩, move⟩
  cases removal with
  | spared _ same => exact spared (same place key)
  | @removed lease _ stored _ entries =>
      by_cases own : place = store ∧ key = name
      · obtain ⟨rfl, rfl⟩ := own
        have gone := (entries place key).trans (if_pos ⟨rfl, rfl⟩)
        refine .ousted inserts ?_ stored gone
        rw [Operation.ousts, deletes, Bool.false_or, Operation.expires_iff]
        have present := ne_of_eq_of_ne stored (Option.some_ne_none lease)
        exact ⟨id, task, generation, after, rfl, held, move, present, gone⟩
      · exact spared ((entries place key).trans (if_neg own))

/-- In every operation an entry comes in, changes or goes, and shows it, or it stays what it is. -/
theorem Does.fares (does : system.Does operation after) (reachable : Reachable system)
    (place : CacheId) (key : String) : Fares system operation after place key := by
  cases access : operation.access? system with
  | some accessed => exact does.fares_of_access reachable access place key
  | none =>
      cases delete : operation.delete? system with
      | some deleted => exact does.fares_of_delete delete place key
      | none =>
          by_cases deletion : ∃ id task store name generation, operation = .worker id ∧
              system.hand? id = some (task, .deletion store name generation)
          · obtain ⟨id, task, store, name, generation, rfl, held⟩ := deletion
            cases does with
            | worker move => exact Deletes.fares held move place key
          · have preserves := does.preserves access delete fun id task store name generation same held =>
              deletion ⟨id, task, store, name, generation, same, held⟩
            refine .spared (Operation.inserts_of_none access) ?_ (preserves place key)
            rw [Operation.ousts, Operation.deletes_of_none delete, Bool.false_or]
            exact Operation.expires_of_ne fun same held =>
              deletion ⟨_, _, place, key, _, same, held⟩

end System

end Agenda
