import Agenda.Proofs.Deletion.Numbering
import Agenda.Proofs.System.Leading

/-!
# When entries were stored

An entry bears the generation of the access that stored it.  In any run that ends in a system, the
clock that was read when this generation was handed out is the one from which the entry's deadline
counts, and no later access of the entry has been successful.
-/

namespace Agenda.System

universe u

variable {V : Type u} {before after system : System V} {id : CacheId} {cache : Cache V}
  {key : String} {lease : Lease V} {generation : Nat} {clock : Int} {kind : Lease V → Prop}

def handedOut (system : System V) (id : CacheId) : Nat :=
  ((system.cache? id).map Cache.generation).getD 0

def HandsOut (before after : System V) (id : CacheId) (generation : Nat) : Prop :=
  before.handedOut id < generation ∧ generation ≤ after.handedOut id

/-- In a run that ends in the system, the clock showed `clock` in the step in which an access to the
cache was given this generation. -/
def ReadClock (system : System V) (id : CacheId) (generation : Nat) (clock : Int) : Prop :=
  ∃ before after : System V, Reachable before ∧ Step before after ∧ before.now = clock ∧
    HandsOut before after id generation ∧ Leads after system

/-- The deadline of an entry counts from the clock that its last successful access has read. -/
structure Dated (system : System V) (id : CacheId) (key : String) (lease : Lease V) : Prop where
  read : ∃ clock, system.ReadClock id lease.generation clock
  deadline : ∀ {clock}, system.ReadClock id lease.generation clock →
    lease.ttl.after? clock = some lease.deadline
  last : ∀ {earlier : System V} {found other}, Reachable earlier → Leads earlier system →
    earlier.cache? id = some found → found.lease? key = some other →
      other = lease ∨ other.generation < lease.generation

theorem handedOut_of_found (found : system.cache? id = some cache) :
    system.handedOut id = cache.generation := by
  rw [handedOut, found]
  rfl

theorem Numbered.handedOut_le (numbered : before.Numbered) (change : Change before after)
    (id : CacheId) : before.handedOut id ≤ after.handedOut id := by
  cases found : before.cache? id with
  | none =>
      rw [handedOut, found]
      exact Nat.zero_le _
  | some cache =>
      obtain ⟨changed, again, _, turn⟩ := change.turns found numbered.readsPresent
      rw [handedOut_of_found found, handedOut_of_found again]
      exact turn.generation_le

theorem Numbered.pass (numbered : system.Numbered) (later : Int) :
    Numbered { system with now := later } :=
  ⟨numbered.caches, numbered.known⟩

theorem Reachable.numbered (reachable : Reachable system) : system.Numbered :=
  reachable.keeps (fun numbered change => numbered.change change)
    (fun numbered _ => numbered.pass _) .start

/-- What every change of a numbered system keeps is kept by a chain of changes. -/
theorem Changes.keepsNumbered {motive : System V → Prop} (changes : Changes before after)
    (numbered : before.Numbered)
    (change : ∀ {before after}, motive before → before.Numbered → Change before after →
      motive after)
    (start : motive before) : after.Numbered ∧ motive after :=
  changes.keeps (motive := fun system => system.Numbered ∧ motive system)
    (fun kept changed => ⟨kept.1.change changed, change kept.2 kept.1 changed⟩) ⟨numbered, start⟩

/-- What every change of a numbered system keeps, and time does not take, is kept in all that a
numbered system leads to. -/
theorem Leads.keepsNumbered {motive : System V → Prop} (leads : Leads before after)
    (numbered : before.Numbered)
    (change : ∀ {before after}, motive before → before.Numbered → Change before after →
      motive after)
    (pass : ∀ {system later}, motive system → motive { system with now := later })
    (start : motive before) : after.Numbered ∧ motive after :=
  leads.keeps (motive := fun system => system.Numbered ∧ motive system)
    (fun kept changed => ⟨kept.1.change changed, change kept.2 kept.1 changed⟩)
    (fun kept _ => ⟨kept.1.pass _, pass kept.2⟩) ⟨numbered, start⟩

/-- Generations are handed out in increasing order, and none is handed out again. -/
theorem Leads.handedOut_le (leads : Leads before after) (numbered : before.Numbered)
    (id : CacheId) : before.handedOut id ≤ after.handedOut id :=
  (leads.keepsNumbered (motive := fun system => before.handedOut id ≤ system.handedOut id)
    numbered (fun kept numbered change => Nat.le_trans kept (numbered.handedOut_le change id))
    (fun kept => kept) (Nat.le_refl _)).2

theorem Leads.cache? (leads : Leads before after) (numbered : before.Numbered)
    (found : before.cache? id = some cache) :
    ∃ changed, after.cache? id = some changed ∧ changed.scheduler = cache.scheduler := by
  refine (leads.keepsNumbered numbered (motive := fun system => ∃ changed,
    system.cache? id = some changed ∧ changed.scheduler = cache.scheduler) ?_ (fun kept => kept)
    ⟨cache, found, rfl⟩).2
  rintro before after ⟨middle, found, own⟩ numbered change
  obtain ⟨changed, again, same, _⟩ := change.turns found numbered.readsPresent
  exact ⟨changed, again, same.trans own⟩

/-- Whatever the entry of a cache is or will be, it is one of these or has a later generation. -/
def Outgrows (system : System V) (kind : Lease V → Prop) (id : CacheId) (key : String)
    (generation : Nat) : Prop :=
  ∃ cache, system.cache? id = some cache ∧ cache.Outgrows kind key generation (system.holders id)

theorem Outgrows.change (outgrows : before.Outgrows kind id key generation)
    (numbered : before.Numbered) (change : Change before after) :
    after.Outgrows kind id key generation := by
  obtain ⟨cache, found, outgrows⟩ := outgrows
  obtain ⟨changed, again, _, turn⟩ := change.turns found numbered.readsPresent
  exact ⟨changed, again, turn.outgrows outgrows⟩

theorem Outgrows.changes (outgrows : before.Outgrows kind id key generation)
    (numbered : before.Numbered) (changes : Changes before after) :
    after.Outgrows kind id key generation :=
  (changes.keepsNumbered numbered Outgrows.change outgrows).2

theorem Outgrows.leads (outgrows : before.Outgrows kind id key generation)
    (numbered : before.Numbered) (leads : Leads before after) :
    after.Outgrows kind id key generation :=
  (leads.keepsNumbered numbered Outgrows.change (fun kept => kept) outgrows).2

def Dates (system : System V) (clock : Int) (id : CacheId) (generation : Nat) : Prop :=
  ∀ cache, system.cache? id = some cache → cache.Dates clock generation (system.holders id)

theorem Dates.change (dates : before.Dates clock id generation) (numbered : before.Numbered)
    (present : before.now = clock ∨ generation ≤ before.handedOut id)
    (change : Change before after) : after.Dates clock id generation := by
  intro cache found
  cases earlier : before.cache? id with
  | none =>
      have unborn := change.unborn earlier numbered.readsPresent
      have vacant := unborn.holders
      rw [numbered.holders_of_absent earlier] at vacant
      rw [List.eq_nil_of_subset_nil vacant]
      refine ⟨nofun, fun present => ?_⟩
      rw [(unborn.empty found).1] at present
      cases present
  | some old =>
      obtain ⟨changed, again, _, turn⟩ := change.turns earlier numbered.readsPresent
      cases found.symm.trans again
      rw [handedOut_of_found earlier] at present
      exact turn.dates present (dates old earlier)

/-- A generation that was not handed out yet is on nothing. -/
theorem Numbered.dates_of_lt (numbered : system.Numbered)
    (later : system.handedOut id < generation) : system.Dates clock id generation := by
  intro cache found
  rw [handedOut_of_found found] at later
  have numbered := numbered.caches found
  constructor
  · intro booking held same
    have bound := (numbered.booked booking held).2
    omega
  · intro key lease stored same
    have bound := (numbered.stored stored).2
    omega

theorem ReadClock.dates (read : system.ReadClock id generation clock) :
    system.Dates clock id generation := by
  obtain ⟨before, after, reachable, step, rfl, handsOut, leads⟩ := read
  have numbered := reachable.numbered
  have dated : after.Numbered ∧ after.Dates before.now id generation := by
    rcases step.changes_or_passes with changes | ⟨later, _, rfl⟩
    · obtain ⟨numbered, _, dates⟩ := changes.keepsNumbered
        (motive := fun system => system.now = before.now ∧ system.Dates before.now id generation)
        numbered
        (fun kept numbered change => ⟨change.now.trans kept.1,
          kept.2.change numbered (.inl kept.1) change⟩)
        ⟨rfl, numbered.dates_of_lt handsOut.1⟩
      exact ⟨numbered, dates⟩
    · exact absurd handsOut.1 (Nat.not_lt_of_le handsOut.2)
  obtain ⟨numbered, dates⟩ := dated
  obtain ⟨_, _, dates⟩ := leads.keepsNumbered
    (motive := fun system => generation ≤ system.handedOut id ∧
      system.Dates before.now id generation)
    numbered
    (fun kept numbered change => ⟨Nat.le_trans kept.1 (numbered.handedOut_le change id),
      kept.2.change numbered (.inr kept.1) change⟩)
    (fun kept => kept) ⟨handsOut.2, dates⟩
  exact dates

/-- Every generation was handed out at some time. -/
theorem Reachable.exists_readClock (reachable : Reachable system) (positive : 0 < generation)
    (given : generation ≤ system.handedOut id) : ∃ clock, system.ReadClock id generation clock := by
  induction reachable with
  | start =>
      have none : handedOut ({} : System V) id = 0 := by simp [handedOut, cache?]
      omega
  | @step before after reachable step inductionHypothesis =>
      by_cases earlier : generation ≤ before.handedOut id
      · obtain ⟨clock, first, second, begins, taken, now, handsOut, leads⟩ :=
          inductionHypothesis earlier
        exact ⟨clock, first, second, begins, taken, now, handsOut, leads.tail step⟩
      · exact ⟨before.now, before, after, reachable, step, rfl, ⟨by omega, given⟩, .refl⟩

/-- Whatever the entry is or will be, it is the one that is there or has a later generation. -/
theorem Numbered.outgrows_self (numbered : system.Numbered) (found : system.cache? id = some cache)
    (stored : cache.lease? key = some lease) :
    system.Outgrows (· = lease) id key lease.generation := by
  have numbered := numbered.caches found
  refine ⟨cache, found, (numbered.stored stored).2, ?_, ?_⟩
  · rintro booking held rfl
    exact numbered.ahead booking held lease stored
  · intro same seen
    cases stored.symm.trans seen
    exact .inl rfl

theorem Reachable.dated (reachable : Reachable system) (found : system.cache? id = some cache)
    (stored : cache.lease? key = some lease) : system.Dated id key lease := by
  have numbered := reachable.numbered.caches found
  obtain ⟨positive, given⟩ := numbered.stored stored
  refine ⟨?_, fun read => (read.dates cache found).stored stored rfl, ?_⟩
  · rw [← handedOut_of_found found] at given
    exact reachable.exists_readClock positive given
  · intro earlier first other begins leads before present
    have outgrows := begins.numbered.outgrows_self before present
    obtain ⟨cache, again, outgrows⟩ := outgrows.leads begins.numbered leads
    cases found.symm.trans again
    rcases outgrows.stored lease stored with same | later
    · exact .inl same.symm
    · exact .inr later

end Agenda.System
