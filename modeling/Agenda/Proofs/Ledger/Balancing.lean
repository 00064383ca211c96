import Mathlib
import Agenda.Proofs.Ledger.Tallying
import Agenda.Proofs.System.Tracing

/-!
# The balance of a key

What the operations of a run answer accounts for what a cache holds.  Under every key the entries that
came in outnumber those that went by the entry that is there: an entry comes in only where there is
none, and it goes once, by a delete or by its deletion.
-/

namespace Agenda.System

universe u

variable {V : Type u} {system first last after : System V} {operation : Operation V}
  {place : CacheId} {cache : Cache V} {key : String}
  {record further : List (System V × Operation V)} {entry : System V × Operation V}

def isPresent (system : System V) (place : CacheId) (key : String) : Bool :=
  (system.lease? place key).isSome

/-- The adds that were answered by `ok` and the sets that found no value, less the deletes that were
answered by a value and the deletions that removed the key. -/
def balance (place : CacheId) (key : String) (record : List (System V × Operation V)) : Int :=
  record.countP (fun entry => entry.2.adds entry.1 place key) +
    record.countP (fun entry => entry.2.introduces entry.1 place key) -
    record.countP (fun entry => entry.2.deletes entry.1 place key) -
    record.countP (fun entry => entry.2.expires entry.1 place key)

/-- The entries that came in under a key, told by `true`, and those that went, told by `false`, in the
order in which it happened. -/
def turns (place : CacheId) (key : String) (record : List (System V × Operation V)) : List Bool :=
  record.filterMap fun entry =>
    if entry.2.inserts entry.1 place key then some true
    else if entry.2.ousts entry.1 place key then some false
    else none

def ousted (place : CacheId) (key : String) (record : List (System V × Operation V)) :
    List (Lease V) :=
  record.filterMap fun entry =>
    if entry.2.ousts entry.1 place key then entry.1.lease? place key else none

theorem balance_append (record : List (System V × Operation V)) (system : System V)
    (operation : Operation V) : balance place key (record ++ [(system, operation)]) =
      balance place key record + (operation.inserts system place key).toNat -
        (operation.ousts system place key).toNat := by
  have one : (operation.adds system place key && operation.introduces system place key) = false :=
    operation.not_adds_and_introduces system place key
  have other : (operation.deletes system place key && operation.expires system place key) = false :=
    operation.not_deletes_and_expires system place key
  simp only [balance, List.countP_append, List.countP_singleton, Operation.inserts, Operation.ousts]
  cases adds : operation.adds system place key <;>
    cases introduces : operation.introduces system place key <;>
    cases deletes : operation.deletes system place key <;>
    cases expires : operation.expires system place key <;>
    simp_all <;> omega

/-- In every operation the balance changes by as much as the number of entries under the key. -/
theorem Does.presence (does : system.Does operation after) (reachable : Reachable system)
    (place : CacheId) (key : String) : ((after.isPresent place key).toNat : Int) =
      (system.isPresent place key).toNat + (operation.inserts system place key).toNat -
        (operation.ousts system place key).toNat := by
  unfold isPresent
  cases does.fares reachable place key with
  | spared inserts ousts same => simp [inserts, ousts, same]
  | inserted inserts ousts absent stores => simp [inserts, ousts, absent, stores.stored]
  | overwritten inserts ousts _ present stores => simp [inserts, ousts, present, stores.stored]
  | renewed inserts ousts present stores => simp [inserts, ousts, present, stores.stored]
  | ousted inserts ousts present gone => simp [inserts, ousts, present, gone]

/-- The balance of a run is the number of entries under the key, less those that were there before. -/
theorem Course.balanced (course : Course first record last) (reachable : Reachable first)
    (place : CacheId) (key : String) : ((last.isPresent place key).toNat : Int) =
      (first.isPresent place key).toNat + balance place key record := by
  induction course with
  | rest => simp [balance]
  | step course does inductionHypothesis =>
      rw [does.presence (reachable.leads course.leads), inductionHypothesis, balance_append]
      omega

/-- An operation makes a turn if the key is present after it and absent before, or the other way
around. -/
theorem Does.turns (does : system.Does operation after) (reachable : Reachable system)
    (place : CacheId) (key : String) :
    turns place key [(system, operation)] = [] ∧
        after.isPresent place key = system.isPresent place key ∨
      turns place key [(system, operation)] = [after.isPresent place key] ∧
        after.isPresent place key = !system.isPresent place key := by
  unfold isPresent
  cases does.fares reachable place key with
  | spared inserts ousts same => exact .inl ⟨by simp [System.turns, inserts, ousts], by rw [same]⟩
  | overwritten inserts ousts _ present stores =>
      exact .inl ⟨by simp [System.turns, inserts, ousts], by simp [present, stores.stored]⟩
  | renewed inserts ousts present stores =>
      exact .inl ⟨by simp [System.turns, inserts, ousts], by simp [present, stores.stored]⟩
  | inserted inserts ousts absent stores =>
      exact .inr ⟨by simp [System.turns, inserts, stores.stored], by simp [absent, stores.stored]⟩
  | ousted inserts ousts present gone =>
      exact .inr ⟨by simp [System.turns, inserts, ousts, gone], by simp [present, gone]⟩

/-- Entries come in and go by turns, and the last turn tells whether the key is present. -/
theorem Course.alternates (course : Course first record last) (reachable : Reachable first)
    (place : CacheId) (key : String) :
    (turns place key record).IsChain (· ≠ ·) ∧
      (turns place key record).head? ≠ some (first.isPresent place key) ∧
      (turns place key record).getLast?.getD (first.isPresent place key) =
        last.isPresent place key := by
  induction course with
  | rest => exact ⟨.nil, nofun, rfl⟩
  | @step record last after operation course does inductionHypothesis =>
      obtain ⟨chain, head, present⟩ := inductionHypothesis
      have shape : turns place key (record ++ [(last, operation)]) =
          turns place key record ++ turns place key [(last, operation)] := List.filterMap_append
      rcases does.turns (reachable.leads course.leads) place key with ⟨none, same⟩ | ⟨one, change⟩
      · rw [shape, none, List.append_nil]
        exact ⟨chain, head, present.trans same.symm⟩
      · rw [shape, one]
        refine ⟨chain.append (.singleton _) ?_, ?_, by simp⟩
        · intro earlier seen later listed
          cases listed
          rw [Option.mem_def.1 seen] at present
          rw [change, ← present]
          simp
        · cases empty : turns place key record with
          | nil =>
              rw [empty] at present
              have same : first.isPresent place key = last.isPresent place key := present
              simp [change, same]
          | cons turn rest => rwa [empty] at head

/-- An entry that has gone does not come back: whatever comes in later has a later generation. -/
theorem Does.outgrows_of_gone {lease : Lease V} (does : system.Does operation after)
    (reachable : Reachable system) (stored : system.lease? place key = some lease)
    (gone : after.lease? place key = none) :
    after.Outgrows (fun _ => False) place key lease.generation := by
  obtain ⟨cache, found, present⟩ := Option.bind_eq_some_iff.1 stored
  obtain ⟨store, again, outgrows⟩ := (reachable.numbered.outgrows_self found present).leads
    reachable.numbered (.single does.step)
  refine ⟨store, again, outgrows.given, outgrows.booked, fun other seen => ?_⟩
  rw [lease?_of_found again, seen] at gone
  cases gone

theorem Does.ousted_cases (does : system.Does operation after) (reachable : Reachable system)
    (place : CacheId) (key : String) : ousted place key [(system, operation)] = [] ∨
      ∃ lease, ousted place key [(system, operation)] = [lease] ∧
        system.lease? place key = some lease ∧
        after.Outgrows (fun _ => False) place key lease.generation := by
  have quiet (ousts : operation.ousts system place key = false) :
      ousted place key [(system, operation)] = [] := by simp [ousted, ousts]
  cases does.fares reachable place key with
  | spared _ ousts _ => exact .inl (quiet ousts)
  | inserted _ ousts _ _ => exact .inl (quiet ousts)
  | overwritten _ ousts _ _ _ => exact .inl (quiet ousts)
  | renewed _ ousts _ _ => exact .inl (quiet ousts)
  | @ousted lease _ ousts stored gone =>
      exact .inr ⟨lease, by simp [ousted, ousts, stored], stored,
        does.outgrows_of_gone reachable stored gone⟩

/-- No entry goes twice: those that go have later and later generations. -/
theorem Course.goesOnce (course : Course first record last) (reachable : Reachable first)
    (place : CacheId) (key : String) :
    (ousted place key record).Pairwise (·.generation < ·.generation) ∧
      ∀ lease ∈ ousted place key record,
        last.Outgrows (fun _ => False) place key lease.generation := by
  induction course with
  | rest => exact ⟨.nil, nofun⟩
  | @step record last after operation course does inductionHypothesis =>
      obtain ⟨increasing, outgrown⟩ := inductionHypothesis
      have reached := reachable.leads course.leads
      have onward (lease : Lease V) (listed : lease ∈ ousted place key record) :
          after.Outgrows (fun _ => False) place key lease.generation :=
        (outgrown lease listed).leads reached.numbered (.single does.step)
      have shape : ousted place key (record ++ [(last, operation)]) =
          ousted place key record ++ ousted place key [(last, operation)] := List.filterMap_append
      rcases does.ousted_cases reached place key with none | ⟨lease, one, stored, outgrows⟩
      · rw [shape, none, List.append_nil]
        exact ⟨increasing, onward⟩
      · rw [shape, one]
        constructor
        · refine List.pairwise_append.2 ⟨increasing, List.pairwise_singleton _ _, ?_⟩
          intro earlier listed later own
          rw [List.mem_singleton.1 own]
          obtain ⟨cache, found, outgrows⟩ := outgrown earlier listed
          rw [lease?_of_found found] at stored
          exact (outgrows.stored lease stored).resolve_left not_false
        · intro other listed
          rcases List.mem_append.1 listed with old | own
          · exact onward other old
          · rw [List.mem_singleton.1 own]
            exact outgrows

/-- After an add that is answered by `ok`, or because the key is present, the key is present. -/
theorem Does.present_of_contends (does : system.Does operation after)
    (reachable : Reachable system) (contends : operation.contends system place key = true) :
    after.isPresent place key = true := by
  obtain ⟨access, reply, accessed, told, kind⟩ := Operation.answers_iff.1 contends
  rw [isPresent]
  rcases does.access_cases reachable accessed with idles | ⟨locked, booking, ends, rfl, rfl, rfl⟩
  · obtain ⟨other, again, short⟩ := idles.reply
    cases told.symm.trans again
    cases short with
    | waits => cases access <;> cases kind
    | duplicate _ _ present => rwa [idles.entries, Option.isSome_iff_ne_none]
    | absent => cases kind
  · obtain ⟨cache, host, other, _, _, again, _, comesOut⟩ := ends.comesOut reachable
    cases told.symm.trans again
    cases comesOut with
    | accepted _ _ _ entries _ _ => rw [entries, if_pos ⟨rfl, rfl⟩, Option.isSome_some]
    | overflow => cases access : booking.access <;> rw [access] at kind <;> cases kind
    | refused => cases access : booking.access <;> rw [access] at kind <;> cases kind

/-- A delete that is answered by a value hands out that of the entry. -/
theorem Does.handsOut (does : system.Does operation after)
    (deletes : operation.deletes system place key = true) :
    ∃ lease, system.lease? place key = some lease ∧
      operation.reply? system = some (.found (some lease.value)) := by
  obtain ⟨deleted, value, told⟩ := Operation.deletes_iff.1 deletes
  rcases does.delete_cases deleted with ⟨_, other⟩ | ⟨lease, stored, answer, _⟩
  · exact absurd told (other value)
  · exact ⟨lease, stored, answer⟩

/-- As long as no entry goes, the balance consists of those that come in. -/
theorem balance_of_kept (kept : ∀ entry ∈ record, entry.2.ousts entry.1 place key = false) :
    balance place key record = record.countP (fun entry => entry.2.adds entry.1 place key) +
      record.countP (fun entry => entry.2.introduces entry.1 place key) := by
  have none : record.countP (fun entry => entry.2.deletes entry.1 place key) = 0 ∧
      record.countP (fun entry => entry.2.expires entry.1 place key) = 0 := by
    simp only [Operation.ousts, Bool.or_eq_false_iff] at kept
    constructor <;> rw [List.countP_eq_zero]
    · intro entry listed
      simp [(kept entry listed).1]
    · intro entry listed
      simp [(kept entry listed).2]
  rw [balance, none.1, none.2]
  omega

/-- Of all that race for an absent key exactly one brings it in. -/
theorem Course.race (course : Course first record last) (reachable : Reachable first)
    (absent : first.isPresent place key = false)
    (kept : ∀ entry ∈ record, entry.2.ousts entry.1 place key = false) :
    record.countP (fun entry => entry.2.adds entry.1 place key) +
        record.countP (fun entry => entry.2.introduces entry.1 place key) ≤ 1 ∧
      ((∃ entry ∈ record, entry.2.contends entry.1 place key = true) →
        record.countP (fun entry => entry.2.adds entry.1 place key) +
          record.countP (fun entry => entry.2.introduces entry.1 place key) = 1) := by
  have whole := course.balanced reachable place key
  have most := Bool.toNat_le (last.isPresent place key)
  rw [absent, balance_of_kept kept, Bool.toNat_false] at whole
  refine ⟨by omega, ?_⟩
  rintro ⟨entry, listed, contends⟩
  obtain ⟨early, late, after, shape, before, does⟩ := course.split_of_mem listed
  rw [List.append_cons] at shape
  have part := (before.step does).balanced reachable place key
  have first := balance_of_kept fun entry listed =>
    kept entry (shape ▸ List.mem_append_left late listed)
  rw [absent, first, does.present_of_contends (reachable.leads before.leads) contends,
    Bool.toNat_true, Bool.toNat_false] at part
  have more (kind : System V × Operation V → Bool) :
      (early ++ [entry]).countP kind ≤ record.countP kind := by
    rw [shape]
    exact (List.sublist_append_left _ _).countP_le
  have adds := more fun entry => entry.2.adds entry.1 place key
  have introduces := more fun entry => entry.2.introduces entry.1 place key
  omega

/-- How the operations of a run account for what a cache holds. -/
structure Balances (record : List (System V × Operation V)) (last : System V) (place : CacheId)
    (cache : Cache V) : Prop where
  account : ∀ key, balance place key record = if cache.contains key then 1 else 0
  /-- An entry comes in, and goes, before the next one comes in. -/
  alternates : ∀ key, (turns place key record).IsChain (· ≠ ·) ∧
    (turns place key record).head? ≠ some false
  /-- Of all that race for an absent key exactly one brings it in. -/
  race : ∀ {key further later}, cache.contains key = false → Course last further later →
    (∀ entry ∈ further, entry.2.ousts entry.1 place key = false) →
      further.countP (fun entry => entry.2.adds entry.1 place key) +
          further.countP (fun entry => entry.2.introduces entry.1 place key) ≤ 1 ∧
        ((∃ entry ∈ further, entry.2.contends entry.1 place key = true) →
          further.countP (fun entry => entry.2.adds entry.1 place key) +
            further.countP (fun entry => entry.2.introduces entry.1 place key) = 1)
  /-- Neither a delete nor a deletion removes an entry that has gone. -/
  once : ∀ key, (ousted place key record).Pairwise (·.generation < ·.generation)
  /-- A value that is handed out by a delete is that of the entry that goes. -/
  handed : ∀ {key entry}, entry ∈ record → entry.2.deletes entry.1 place key = true →
    ∃ lease ∈ ousted place key record, entry.1.lease? place key = some lease ∧
      entry.2.reply? entry.1 = some (.found (some lease.value))
  size : cache.size = {key | balance place key record = 1}.ncard
  keys : cache.keys.Nodup ∧ ∀ key, key ∈ cache.keys ↔ balance place key record = 1
  /-- Who asks is told the size and the keys. -/
  told : ∀ {label}, last.cacheAt? label = some (place, cache) → last.isReadable place = true →
    last.consult? label .size = some (.count cache.size) ∧
      last.consult? label .keys = some (.names cache.keys)

theorem isPresent_of_found (found : system.cache? place = some cache) (key : String) :
    system.isPresent place key = cache.contains key := by
  rw [isPresent, lease?_of_found found, Cache.contains, Std.TreeMap.contains_eq_isSome_getElem?]
  rfl

/-- In every run what a cache holds is what the operations account for. -/
theorem Course.balances (course : Course {} record last) (found : last.cache? place = some cache) :
    Balances record last place cache := by
  have reachable : Reachable last := Reachable.start.leads course.leads
  have vacant (key : String) : isPresent ({} : System V) place key = false := by
    simp [isPresent, lease?, cache?]
  have account (key : String) : balance place key record = if cache.contains key then 1 else 0 := by
    have balanced := course.balanced .start place key
    rw [vacant, isPresent_of_found found] at balanced
    cases present : cache.contains key <;> simp [present] at balanced ⊢ <;> omega
  have listed (key : String) : key ∈ cache.keys ↔ balance place key record = 1 := by
    rw [account, Cache.keys, Std.TreeMap.mem_keys, Std.TreeMap.mem_iff_contains, Cache.contains]
    simp
  have distinct : cache.keys.Nodup := Std.TreeMap.nodup_keys
  constructor
  · exact account
  · intro key
    obtain ⟨chain, head, _⟩ := course.alternates .start place key
    exact ⟨chain, vacant key ▸ head⟩
  · intro key further later absent onward kept
    exact onward.race reachable ((isPresent_of_found found key).trans absent) kept
  · exact fun key => (course.goesOnce .start place key).1
  · intro key entry seen deletes
    obtain ⟨_, _, _, _, _, does⟩ := course.split_of_mem seen
    obtain ⟨lease, stored, answer⟩ := does.handsOut deletes
    refine ⟨lease, List.mem_filterMap.2 ⟨entry, seen, ?_⟩, stored, answer⟩
    rw [Operation.ousts, deletes, Bool.true_or, if_pos rfl, stored]
  · have same : {key | balance place key record = 1} = ↑cache.keys.toFinset := by
      ext key
      simp [listed key]
    rw [same, Set.ncard_coe_finset, List.toFinset_card_of_nodup distinct, Cache.keys,
      Std.TreeMap.length_keys, Cache.size]
  · exact ⟨distinct, listed⟩
  · intro label located readable
    constructor <;>
      · rw [consult?, located]
        simp only [readable, if_true]
        rfl

/-- A key is added, deleted, set again and removed by its deletion; a second add and a second delete
come to nothing. -/
theorem balances_of_reuse :
    ∃ (record : List (System Nat × Operation Nat)) (last : System Nat) (cache : Cache Nat),
      Course {} record last ∧ last.cache? ⟨0⟩ = some cache ∧
        turns ⟨0⟩ "key" record = [true, false, true, false] ∧ Balances record last ⟨0⟩ cache := by
  have runs : (trace? ({} : System Nat) [.deed (.request (.create "main" {})),
      .deed (.request (.createCacheOn "store" "main")),
      .deed (.request (.access "store" "key" (.add 7 (.span 10)))),
      .deed (.request (.access "store" "key" (.add 8 (.span 10)))),
      .deed (.request (.delete "store" "key")), .deed (.request (.delete "store" "key")),
      .deed (.request (.access "store" "key" (.set 9 (.span 10)))), .worker ⟨0⟩, .pass 10,
      .worker ⟨0⟩, .worker ⟨0⟩, .worker ⟨0⟩]).any (fun run =>
        decide (turns ⟨0⟩ "key" run.1 = [true, false, true, false]) &&
          (run.2.cache? ⟨0⟩).isSome) = true := by
    decide +kernel
  obtain ⟨⟨record, last⟩, traced, shown⟩ := (Option.any_eq_true _ _).1 runs
  rw [Bool.and_eq_true, decide_eq_true_eq] at shown
  obtain ⟨changes, found⟩ := shown
  obtain ⟨cache, found⟩ := Option.isSome_iff_exists.1 found
  have course : Course {} record last := .of_trace? traced
  exact ⟨record, last, cache, course, found, changes, Course.balances course found⟩

end Agenda.System
