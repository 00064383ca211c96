import Agenda.Proofs.System.Footprint
import Agenda.Proofs.System.Shutdown
import Agenda.Proofs.Deletion.Linking

/-!
# Independent schedulers

Schedulers that share a clock, their tokens and the numbers of their tasks have nothing to do with
each other: a scheduler changes only in an operation that concerns it, and it has the stop signal
exactly if its own token was cancelled or its last owner has let go.
-/

namespace Agenda.System

universe u

variable {V : Type u} {system before after later : System V} {id other : SchedulerId}
  {host : Scheduler (Work V)} {operation : Operation V} {scope : Scope}

theorem Confined.owner (confined : Confined scope before after) (covers : scope.Covers before)
    (kept : before.keepsScheduler id = true) (apart : ¬ scope.schedulers id) :
    after.keepsScheduler id = true := by
  rw [keepsScheduler_iff] at kept ⊢
  rcases kept with named | ⟨place, cache, found, used, rfl⟩ | called
  · exact .inl (confined.labelled named apart)
  · exact .inr (.inl ⟨place, cache,
      confined.cache found fun touched => apart (covers found touched), used, rfl⟩)
  · exact .inr (.inr (confined.shutting called apart))

/-- The stop signal has a cause: the token is cancelled, or there is no owner. -/
theorem Reachable.cause (reachable : Reachable system) (found : system.scheduler? id = some host)
    (halted : host.halted = true) :
    system.isCancelled host.settings.token = true ∨ system.keepsScheduler id = false := by
  induction reachable generalizing host with
  | start => simp [scheduler?] at found
  | step reached step inductionHypothesis =>
      obtain ⟨operation, does⟩ := step.exists_does
      have confined := reached.confined does
      rcases confined.grounded found halted with cancelled | alone | ⟨old, earlier, settings, stops⟩
      · exact .inl cancelled
      · exact .inr alone
      · rcases inductionHypothesis earlier stops with cancelled | alone
        · rw [settings] at cancelled
          exact .inl (isCancelled_of_lasting confined.lasting cancelled)
        · refine .inr ?_
          rw [← Bool.not_eq_true] at alone ⊢
          exact fun kept => alone (confined.kept earlier kept)

/-- Nobody takes over a scheduler that has no owner any more. -/
theorem Leads.orphan (leads : Leads system later) (reachable : Reachable system)
    (found : system.scheduler? id = some host) (orphan : system.keepsScheduler id = false) :
    later.keepsScheduler id = false := by
  induction leads with
  | refl => exact orphan
  | tail earlier step inductionHypothesis =>
      obtain ⟨operation, does⟩ := step.exists_does
      obtain ⟨_, last, there, _⟩ := (Leads.evolves earlier).old found
      rw [← Bool.not_eq_true] at inductionHypothesis ⊢
      exact fun kept => inductionHypothesis
        (((reachable.leads earlier).confined does).kept there kept)

/-- A worker that makes no call and waits for none goes on by itself. -/
theorem Reachable.eq_of_concerns (reachable : Reachable system)
    (quiet : (Operation.worker id).demand? system = none) (free : system.callOf? id = none)
    (concerns : (Operation.worker id).Concerns system other) : other = id := by
  cases concerns with
  | demand demanded => cases quiet.symm.trans demanded
  | token demanded => cases quiet.symm.trans demanded
  | cache touches present =>
      cases touches with
      | demand demanded => cases quiet.symm.trans demanded
      | deletion held =>
          obtain ⟨host, found, busy⟩ := Option.bind_eq_some_iff.1 held
          have serves := (reachable.linked.serves found).busy (Worker.hand?_eq_some_iff.1 busy)
          obtain ⟨_, there, hosted⟩ := serves _ rfl
          cases present.symm.trans there
          exact hosted
  | worker => rfl
  | own awaited => cases free.symm.trans awaited

/-- The system `asked` is the system itself, or differs from it in the place of a worker in its
task. -/
structure Puts (system asked : System V) : Prop where
  asks : Asks system asked
  frame : ∃ schedulers, asked = { system with schedulers }
  scheduler : ∀ {id host}, system.scheduler? id = some host →
    ∃ worker, worker.task? = host.worker.task? ∧ asked.scheduler? id = some { host with worker }

theorem puts_self (system : System V) : Puts system system where
  asks := .call
  frame := ⟨_, rfl⟩
  scheduler found := ⟨_, rfl, found⟩

theorem puts_proceedTask {task : TaskId} {label handle : Label} {script : Script V}
    (found : system.scheduler? id = some host)
    (busy : host.worker = .busy task (.task label handle script)) (rest : Script V) :
    Puts system (system.proceedTask id host task label handle rest) where
  asks := .task _ _ _ _ found
  frame := ⟨_, rfl⟩
  scheduler {other third} seen := by
    by_cases same : other = id
    · subst same
      cases found.symm.trans seen
      refine ⟨.busy task (.task label handle rest), ?_, scheduler?_putScheduler_self found _⟩
      rw [busy]
      rfl
    · exact ⟨third.worker, rfl, (scheduler?_putScheduler_of_ne system same _).trans seen⟩

/-- A request is put to the system, and nothing follows the answer but that it is made known. -/
theorem Replies.exists_puts {request : Request V} {reply : Reply V}
    (replies : system.Replies operation request reply after) :
    ∃ asked answered, Puts system asked ∧ asked.answer? request = some (reply, answered) ∧
      ∃ events, after = { answered with events } := by
  cases replies with
  | call answer => exact ⟨system, after, puts_self system, answer, _, rfl⟩
  | task found _ busy answer => exact ⟨_, _, puts_proceedTask found busy _, answer, _, rfl⟩

/-- A call that may have to wait is put to the system as well. -/
theorem Does.exists_puts {parting : Parting} (does : system.Does operation after)
    (demanded : operation.demand? system = some (.part parting)) :
    ∃ asked, Puts system asked ∧ ((∃ events, after = { asked with events }) ∨
      ∃ caller, asked.part? caller parting = .ok after) := by
  cases does with
  | deed deed =>
      cases deed with
      | part other helper =>
          cases demanded
          refine ⟨system, puts_self system, ?_⟩
          simp only [Session.perform]
          split
          · exact .inl ⟨_, rfl⟩
          · rename_i begun
            exact .inr ⟨_, begun⟩
      | _ => cases demanded
  | @worker moved id move =>
      obtain ⟨script, scripted, asked⟩ := Option.bind_eq_some_iff.1 demanded
      obtain ⟨free, task, label, handle, held⟩ := script?_eq_some_iff.1 scripted
      cases script with
      | part other rest =>
          cases asked
          obtain ⟨host, found, taken⟩ := Option.bind_eq_some_iff.1 move
          have busy := Worker.hand?_eq_some_iff.1 ((hand?_of_found found).symm.trans held)
          simp only [busy, free, moveTask?] at taken
          refine ⟨_, puts_proceedTask found busy rest, ?_⟩
          split at taken <;> cases taken
          · exact .inl ⟨_, rfl⟩
          · rename_i begun
            exact .inr ⟨_, begun⟩
      | _ => cases asked
  | _ => cases demanded

theorem cancel_of_foreign {label handle : Label} {held : Handle}
    (located : system.schedulerAt? label = some (id, host))
    (known : system.handles[handle]? = some held) (foreign : held.scheduler ≠ id) :
    system.cancel label handle =
      (.flag false, system.putScheduler id (host.note (.foreign held.id))) := by
  rw [cancel, located, known]
  exact if_neg foreign

/-- What a scheduler of a system has to do with the others: nothing, as long as it is not called. -/
structure Independent (system : System V) : Prop where
  /-- An operation on another scheduler changes nothing, and takes no owner away. -/
  apart : ∀ {operation after id host}, system.Does operation after →
    system.scheduler? id = some host → ¬ operation.Concerns system id →
      after.scheduler? id = some host ∧
        (system.keepsScheduler id = true → after.keepsScheduler id = true)
  /-- Nor does any number of them. -/
  course : ∀ {record later id host}, Course system record later →
    system.scheduler? id = some host → (∀ entry ∈ record, ¬ entry.2.Concerns entry.1 id) →
      later.scheduler? id = some host
  /-- A move of a worker, be it a panic, concerns no other scheduler unless its task calls one. -/
  alone : ∀ {id other}, (Operation.worker id).demand? system = none → system.callOf? id = none →
    (Operation.worker id).Concerns system other → other = id
  /-- A token is cancelled by the call that says so, and by nothing else. -/
  tokens : ∀ {operation after label}, system.Does operation after →
    (label ∈ after.cancelledTokens ↔ label ∈ system.cancelledTokens ∨
      operation.demand? system = some (.request (.cancelToken label)))
  /-- A handle from another scheduler cancels no task, even if one with its number is there. -/
  foreign : ∀ {operation after label handle id host held reply},
    system.Replies operation (.cancel label handle) reply after →
    system.schedulerAt? label = some (id, host) → system.handles[handle]? = some held →
    held.scheduler ≠ id → reply = .flag false ∧
      ∀ {other third}, system.scheduler? other = some third → ∃ worker journal,
        after.scheduler? other = some { third with worker, journal } ∧
          worker.task? = third.worker.task?
  /-- The stop signal comes with the token, or when the last owner lets go. -/
  halted : ∀ {id host}, system.scheduler? id = some host → (host.halted = true ↔
    system.isCancelled host.settings.token = true ∨ system.keepsScheduler id = false)
  /-- There is no new owner after the last one. -/
  orphan : ∀ {later id host}, Leads system later → system.scheduler? id = some host →
    system.keepsScheduler id = false → later.keepsScheduler id = false
  /-- A token halts the schedulers that were set up with it, and no other one. -/
  shared : ∀ {operation after label id host reply},
    system.Replies operation (.cancelToken label) reply after →
    system.scheduler? id = some host → ∃ worker, worker.task? = host.worker.task? ∧
      after.scheduler? id = some (if host.settings.token = .named label then
        { host with worker }.halt else { host with worker })

theorem Replies.foreign {label handle : Label} {held : Handle} {reply : Reply V}
    (replies : system.Replies operation (.cancel label handle) reply after)
    (located : system.schedulerAt? label = some (id, host))
    (known : system.handles[handle]? = some held) (foreign : held.scheduler ≠ id) :
    reply = .flag false ∧ ∀ {other third}, system.scheduler? other = some third →
      ∃ worker journal, after.scheduler? other = some { third with worker, journal } ∧
        worker.task? = third.worker.task? := by
  obtain ⟨asked, answered, puts, answer, _, rfl⟩ := replies.exists_puts
  have found := scheduler?_of_schedulerAt? located
  obtain ⟨worker, place, seen⟩ := puts.scheduler found
  have stands : asked.schedulerAt? label = some (id, { host with worker }) := by
    have named := label_of_schedulerAt? located
    obtain ⟨_, rfl⟩ := puts.frame
    rw [schedulerAt?, named, Option.bind_some, seen]
    rfl
  have holds : asked.handles[handle]? = some held := by
    obtain ⟨_, rfl⟩ := puts.frame
    exact known
  cases (Option.some.inj answer).symm.trans (cancel_of_foreign stands holds foreign)
  refine ⟨rfl, fun {other third} there => ?_⟩
  by_cases own : other = id
  · subst own
    cases found.symm.trans there
    exact ⟨worker, _, scheduler?_putScheduler_self seen _, place⟩
  · obtain ⟨worker, place, there⟩ := puts.scheduler there
    exact ⟨worker, _, (scheduler?_putScheduler_of_ne asked own _).trans there, place⟩

theorem Replies.shared {label : Label} {reply : Reply V}
    (replies : system.Replies operation (.cancelToken label) reply after)
    (found : system.scheduler? id = some host) :
    ∃ worker, worker.task? = host.worker.task? ∧
      after.scheduler? id = some (if host.settings.token = .named label then
        { host with worker }.halt else { host with worker }) := by
  obtain ⟨asked, answered, puts, answer, _, rfl⟩ := replies.exists_puts
  obtain ⟨worker, same, seen⟩ := puts.scheduler found
  cases answer
  refine ⟨worker, same, (scheduler?_cancelToken asked label id).trans ?_⟩
  rw [seen, Option.map_some]

/-- A token that is cancelled was cancelled before, or is so by the call. -/
theorem Reachable.cancelled_iff (reachable : Reachable system) {label : Label}
    (does : system.Does operation after) :
    label ∈ after.cancelledTokens ↔ label ∈ system.cancelledTokens ∨
      operation.demand? system = some (.request (.cancelToken label)) := by
  have confined := reachable.confined does
  refine ⟨confined.tokens, ?_⟩
  rintro (earlier | demanded)
  · exact confined.lasting earlier
  · rcases does.replies demanded with ⟨reply, replies⟩ | ⟨_, waits, _⟩
    · obtain ⟨asked, answered, _, answer, _, rfl⟩ := replies.exists_puts
      cases answer
      exact List.mem_cons_self
    · cases waits

/-- Schedulers have nothing to do with each other. -/
theorem Reachable.independent (reachable : Reachable system) : system.Independent where
  apart does found apart :=
    have confined := reachable.confined does
    ⟨confined.scheduler found apart, fun kept => confined.owner (covers_scope _ _) kept apart⟩
  course {_ _ id host} course found apart :=
    course.keeps (motive := fun system => system.scheduler? id = some host) reachable apart
      (fun reached does apart seen => (reached.confined does).scheduler seen apart) found
  alone := reachable.eq_of_concerns
  tokens := reachable.cancelled_iff
  foreign := Replies.foreign
  halted found := ⟨reachable.cause found, fun cause =>
    cause.elim (reachable.obeyed.halted found) (reachable.owned.halted found)⟩
  orphan leads found orphan := leads.orphan reachable found orphan
  shared := Replies.shared

/-- Two schedulers share a token and the number of a task, and a third one has its own token. -/
theorem independent_of_shared_token :
    ∃ (system : System Nat) (first second third : Scheduler (Work Nat)) (own foreign : Handle)
        (reply : Reply Nat) (answered halted : System Nat),
      Reachable system ∧ system.Independent ∧
        system.schedulerAt? "first" = some (⟨0⟩, first) ∧
        system.scheduler? ⟨1⟩ = some second ∧ system.scheduler? ⟨2⟩ = some third ∧
        first.settings.token = .named "stop" ∧ second.settings.token = .named "stop" ∧
        third.settings.token = .own ∧ system.handles["own"]? = some own ∧
        system.handles["foreign"]? = some foreign ∧ own.scheduler = ⟨0⟩ ∧
        foreign.scheduler = ⟨1⟩ ∧ foreign.id = own.id ∧
        system.Replies (.deed (.request (.cancel "first" "foreign"))) (.cancel "first" "foreign")
          reply answered ∧ reply = .flag false ∧
        system.Replies (.deed (.request (.cancelToken "stop"))) (.cancelToken "stop") .ok halted ∧
        halted.scheduler? ⟨0⟩ = some first.halt ∧ halted.scheduler? ⟨1⟩ = some second.halt ∧
        halted.scheduler? ⟨2⟩ = some third := by
  have empty : Reachable ({} : System Nat) := .start
  have one := empty.step (.deed _ (.request (.create "first" { token := .named "stop" })))
  have two := one.step (.deed _ (.request (.create "second" { token := .named "stop" })))
  have three := two.step (.deed _ (.request (.create "third" {})))
  have submitted := three.step (.deed _ (.submit "first" "own" (.at 50) .done))
  have reachable := submitted.step (.deed _ (.submit "second" "foreign" (.at 50) .done))
  generalize given : (Session.perform (Session.perform (Session.perform (Session.perform
    (Session.perform ({} : System Nat)
      (.request (.create "first" { token := .named "stop" }))).2
      (.request (.create "second" { token := .named "stop" }))).2
      (.request (.create "third" {}))).2 (.submit "first" "own" (.at 50) .done)).2
      (.submit "second" "foreign" (.at 50) .done)).2 = system at reachable
  have course : (system.schedulerAt? "first").any (fun (id, first) => id == ⟨0⟩ &&
      first.settings.token == .named "stop" && (system.scheduler? ⟨1⟩).any fun second =>
      second.settings.token == .named "stop" && (system.scheduler? ⟨2⟩).any fun third =>
      third.settings.token == .own && (system.handles["own"]?).any fun own =>
      (system.handles["foreign"]?).any fun foreign =>
        own.scheduler == ⟨0⟩ && foreign.scheduler == ⟨1⟩ && foreign.id == own.id) = true := by
    rw [← given]
    decide +kernel
  have independent := Reachable.independent reachable
  obtain ⟨⟨id, first⟩, located, course⟩ := (Option.any_eq_true _ _).1 course
  simp only [Bool.and_eq_true, beq_iff_eq] at course
  obtain ⟨⟨rfl, set⟩, course⟩ := course
  obtain ⟨second, there, course⟩ := (Option.any_eq_true _ _).1 course
  simp only [Bool.and_eq_true, beq_iff_eq] at course
  obtain ⟨alike, course⟩ := course
  obtain ⟨third, last, course⟩ := (Option.any_eq_true _ _).1 course
  simp only [Bool.and_eq_true, beq_iff_eq] at course
  obtain ⟨separate, course⟩ := course
  obtain ⟨own, mine, course⟩ := (Option.any_eq_true _ _).1 course
  obtain ⟨foreign, theirs, course⟩ := (Option.any_eq_true _ _).1 course
  simp only [Bool.and_eq_true, beq_iff_eq] at course
  obtain ⟨⟨here, elsewhere⟩, same⟩ := course
  have asked : system.Replies (.deed (.request (.cancel "first" "foreign")))
      (.cancel "first" "foreign") _ _ := .call rfl
  have stops : system.Replies (.deed (.request (.cancelToken "stop"))) (.cancelToken "stop") _ _ :=
    .call rfl
  have apart : foreign.scheduler ≠ ⟨0⟩ := by
    rw [elsewhere]
    decide
  have seen {id : SchedulerId} {host : Scheduler (Work Nat)} (found : system.scheduler? id = some host) :=
    (scheduler?_cancelToken system "stop" id).trans (congrArg _ found)
  refine ⟨system, first, second, third, own, foreign, _, _, _, reachable, independent, located, there,
    last, set, alike, separate, mine, theirs, here, elsewhere, same, asked,
    (independent.foreign asked located theirs apart).1, stops, ?_, ?_, ?_⟩
  · exact (seen (scheduler?_of_schedulerAt? located)).trans (congrArg some (if_pos set))
  · exact (seen there).trans (congrArg some (if_pos alike))
  · refine (seen last).trans (congrArg some (if_neg ?_))
    rw [separate]
    nofun

end Agenda.System
