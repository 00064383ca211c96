import Agenda.Proofs.Deletion.Sparing

/-!
# Entries on a stopped scheduler

No entry comes in and none changes once the scheduler is stopped.  An entry stays what it is until it
goes: by a delete, or by its own deletion.
-/

namespace Agenda

universe u

variable {V : Type u}

/-- In the operation a delete of the key from the cache is answered. -/
def Operation.Removes (system : System V) (operation : Operation V) (place : CacheId)
    (key : String) : Prop :=
  ∃ label reply after, system.Replies operation (.delete label key) reply after ∧
    system.cacheLabels[label]? = some place

namespace System

variable {system before middle after later : System V} {operation : Operation V}
  {record further : List (System V × Operation V)} {place : CacheId} {id : SchedulerId}
  {cache : Cache V} {host : Scheduler (Work V)} {key : String} {label : Label}

inductive Outcome (system later : System V) (record : List (System V × Operation V))
    (place : CacheId) (key : String) : Prop where
  | kept : (∀ entry ∈ record, ¬ entry.2.Removes entry.1 place key) →
      later.lease? place key = system.lease? place key → Outcome system later record place key
  | removed {entry : System V × Operation V} : entry ∈ record →
      entry.2.Removes entry.1 place key → later.lease? place key = none →
      Outcome system later record place key
  /-- It has gone by its own deletion. -/
  | expired {before moved : System V} {id : SchedulerId} {lease : Lease V} :
      system.lease? place key = some lease → lease.deadline ≤ later.now → Leads system before →
      before.Deletes moved id place key lease.generation → later.lease? place key = none →
      Outcome system later record place key

namespace Outcome

theorem absent (outcome : Outcome system later record place key)
    (absent : system.lease? place key = none) : later.lease? place key = none := by
  cases outcome with
  | kept _ same => exact same.trans absent
  | removed _ _ gone => exact gone
  | expired _ _ _ _ gone => exact gone

theorem append (first : Outcome system middle record place key) (leads : Leads system middle)
    (second : Outcome middle after further place key) (onward : Leads middle after) :
    Outcome system after (record ++ further) place key := by
  cases first with
  | kept early same =>
      cases second with
      | kept late still =>
          refine .kept (fun entry listed => ?_) (still.trans same)
          rcases List.mem_append.1 listed with before | behind
          · exact early entry before
          · exact late entry behind
      | removed listed removes gone =>
          exact .removed (List.mem_append_right record listed) removes gone
      | expired stored due before deletes gone =>
          exact .expired (same.symm.trans stored) due (leads.trans before) deletes gone
  | removed listed removes gone =>
      exact .removed (List.mem_append_left further listed) removes (second.absent gone)
  | expired stored due before deletes gone =>
      exact .expired stored (Int.le_trans due onward.evolves.now) before deletes (second.absent gone)

end Outcome

theorem cacheAt?_of_label (labelled : system.cacheLabels[label]? = some place)
    (found : system.cache? place = some cache) : system.cacheAt? label = some (place, cache) := by
  rw [cacheAt?, labelled, Option.bind_some, found, Option.map_some]

theorem Replies.demanded {request : Request V} {reply : Reply V}
    (replies : system.Replies operation request reply after) :
    operation.demand? system = some (.request request) := by
  cases replies with
  | call _ => rfl
  | task found free busy _ =>
      have held := (hand?_of_found found).trans (Worker.hand?_eq_some_iff.2 busy)
      exact Option.bind_eq_some_iff.2 ⟨_, script?_eq_some_iff.2 ⟨free, _, _, _, held⟩, rfl⟩

theorem Does.takesOut (does : system.Does operation after) (numbered : system.Numbered)
    (found : system.cache? place = some cache) (removes : operation.Removes system place key) :
    TakesOut system after place key := by
  obtain ⟨label, reply, other, answered, labelled⟩ := removes
  rcases does.replies answered.demanded with ⟨_, replies⟩ | ⟨asked, waits, _⟩
  · exact (replies.takesOut numbered (cacheAt?_of_label labelled found)).2
  · cases answered with
    | call answer => cases waits.symm.trans answer
    | task => cases asked

theorem Does.lease?_of_demand {demand : Demand V} (does : system.Does operation after)
    (numbered : system.Numbered) (shut : system.Shut place cache host)
    (demanded : operation.demand? system = some demand) (called : demand.cache? = some label)
    (labelled : system.cacheLabels[label]? = some place)
    (keeps : ¬ operation.Removes system place key) :
    after.lease? place key = system.lease? place key := by
  have located := cacheAt?_of_label labelled shut.found
  cases demand with
  | submit => cases called
  | part parting =>
      obtain ⟨asked, puts, begun⟩ := does.exists_puts demanded
      rcases begun with ⟨_, rfl⟩ | ⟨caller, begun⟩
      · exact puts.lease? place key
      · exact (Preserves.part? begun place key).trans (puts.lease? place key)
  | request request =>
      rcases does.replies demanded with ⟨reply, replies⟩ | ⟨_, _, rfl⟩
      · have plain (accesses : ∀ label key access, request ≠ .access label key access)
            (deletes : ∀ label key, request ≠ .delete label key) :
            after.lease? place key = system.lease? place key := by
          obtain ⟨asked, answered, puts, answer, _, rfl⟩ := replies.exists_puts
          exact (Preserves.answer? accesses deletes answer place key).trans (puts.lease? place key)
        cases request with
        | access _ _ _ =>
            cases called
            exact (replies.unmoved numbered located shut.hosted shut.stopped).entries key
        | delete target name =>
            cases called
            refine (replies.takesOut numbered located).2.others key ?_
            rintro rfl
            exact keeps ⟨_, _, _, replies, labelled⟩
        | _ => exact plain nofun nofun
      · rfl

theorem Reachable.outcome (reachable : Reachable system) (shut : system.Shut place cache host)
    (does : system.Does operation after) (key : String) :
    Outcome system after [(system, operation)] place key := by
  by_cases removes : operation.Removes system place key
  · exact .removed List.mem_cons_self removes
      (does.takesOut reachable.numbered shut.found removes).gone
  have keeps (same : after.lease? place key = system.lease? place key) :
      Outcome system after [(system, operation)] place key := by
    refine .kept (fun entry listed => ?_) same
    rwa [List.mem_singleton.1 listed]
  by_cases touches : operation.Touches system place
  · cases touches with
    | demand demanded called labelled =>
        exact keeps (does.lease?_of_demand reachable.numbered shut demanded called labelled removes)
    | book labelled =>
        cases does with
        | book located accessible booked =>
            cases label_of_cacheAt? located |>.symm.trans labelled
            have steady : Steady system after place cache.scheduler :=
              steady_book (cache?_of_cacheAt? located) booked
            exact keeps (steady.entries key)
    | confirm booking =>
        cases does with
        | confirm held =>
            exact keeps ((reachable.numbered.unmoved_confirm held shut.found shut.hosted
              shut.stopped).entries key)
    | @deletion id task _ name generation held =>
        cases does with
        | worker move =>
            obtain ⟨third, own, busy⟩ := Option.bind_eq_some_iff.1 held
            have deletes : system.Deletes after id place name generation :=
              ⟨⟨third, task, own, Worker.hand?_eq_some_iff.1 busy⟩, move⟩
            cases deletes.removal with
            | spared _ same => exact keeps (same place key)
            | @removed lease _ stored current rest =>
                by_cases other : key = name
                · subst other current
                  have due := reachable.linked.due deletes stored rfl
                  have late := Int.le_trans due (Does.worker move).step.evolves.now
                  exact .expired stored late .refl deletes
                    ((rest place key).trans (if_pos ⟨rfl, rfl⟩))
                · exact keeps ((rest place key).trans (if_neg fun both => other both.2))
  · have same := (reachable.confined does).cache shut.found touches
    exact keeps ((lease?_of_found same key).trans (lease?_of_found shut.found key).symm)

theorem Shut.leads (shut : system.Shut place cache host) (numbered : system.Numbered)
    (leads : Leads system later) : ∃ store last record, later.Shut place store last ∧
      store.scheduler = cache.scheduler ∧ Run ⟨system.now, host⟩ record ⟨later.now, last⟩ := by
  obtain ⟨store, found, own⟩ := leads.cache? numbered shut.found
  obtain ⟨record, last, hosted, run⟩ := leads.evolves.old shut.hosted
  exact ⟨store, last, record, ⟨found, own ▸ hosted, run.remembers.isStopped shut.stopped⟩, own, run⟩

/-- What becomes of an entry in a run on a stopped scheduler. -/
theorem Course.outcome (course : Course system record later) (reachable : Reachable system)
    (shut : system.Shut place cache host) (key : String) :
    Outcome system later record place key := by
  -- the scheduler stays stopped all the time, so that the step lemma applies to each operation
  induction course with
  | rest => exact .kept nofun rfl
  | @step record last after operation course does inductionHypothesis =>
      obtain ⟨store, host, _, still, _⟩ := shut.leads reachable.numbered course.leads
      have latest := (reachable.leads course.leads).outcome still does key
      exact inductionHypothesis.append course.leads latest (.single does.step)

end System

end Agenda
