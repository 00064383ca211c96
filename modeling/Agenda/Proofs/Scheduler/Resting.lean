import Agenda.Proofs.Scheduler.Unrest
import Mathlib

/-!
# The worker comes to rest

An instant is all that happens to a scheduler while the clock shows one time.  It may go on for ever:
callers may go on calling, and a task may go on running.  But if only so much is submitted in it, then
the worker looks only so often, and after its last look it is parked, in the middle of a task, or
gone.
-/

namespace Agenda

universe u

variable {ω : Type u}

/-- The worker is where it was, or it is still in the middle of the same task. -/
def Worker.Stays (before after : Worker ω) : Prop :=
  after = before ∨ ∃ id work rest, before = .busy id work ∧ after = .busy id rest

theorem Worker.Stays.trans {first middle last : Worker ω} (before : first.Stays middle)
    (after : middle.Stays last) : first.Stays last := by
  rcases before with rfl | ⟨id, work, rest, busy, going⟩
  · exact after
  · rcases after with rfl | ⟨same, _, further, still, gone⟩
    · exact .inr ⟨id, work, rest, busy, going⟩
    · cases going.symm.trans still
      exact .inr ⟨id, work, further, busy, gone⟩

/-- What happens only so often in any number of steps happens only so often. -/
theorem finite_of_count_le {happens : ℕ → Prop} [DecidablePred happens] (bound : ℕ)
    (few : ∀ n, Nat.count happens n ≤ bound) : {n | happens n}.Finite := by
  by_contra often
  have more := few (Nat.nth happens (bound + 1))
  rw [Nat.count_nth_of_infinite often] at more
  omega

namespace Scheduler

/-- The worker is about to look, has not come up yet, or has a reason to end its park. -/
def isRestless (scheduler : Scheduler ω) (now : Int) : Bool :=
  match scheduler.worker with
  | .looking => true
  | _ => (scheduler.wake? now).isSome

/-- The worker has nothing to do by itself while the clock shows `now`. -/
inductive Rests (now : Int) (scheduler : Scheduler ω) : Prop where
  | idle : scheduler.worker = .idle → scheduler.ready = false → scheduler.halted = false →
      Rests now scheduler
  | asleep {due : Int} : scheduler.worker = .asleep due → now < due → scheduler.interrupt = false →
      scheduler.halted = false → Rests now scheduler
  | busy {id : TaskId} {work : ω} : scheduler.worker = .busy id work → Rests now scheduler
  | exited : scheduler.worker = .exited → Rests now scheduler

def Act.isWorkers : Act ω → Bool
  | .look => true
  | .wake => true
  | .proceed _ => true
  | .fail _ => true
  | .finish => true
  | _ => false

/-- What happens to a scheduler while the clock shows `now`, act by act, with any pauses. -/
structure Instant (now : Int) (ω : Type u) where
  state : ℕ → Scheduler ω
  act : ℕ → Option (Act ω)
  follows : ∀ n, match act n with
    | none => state (n + 1) = state n
    | some act => act.result? now (state n) = some (state (n + 1))

variable {now : Int} {before after : Scheduler ω}

namespace Instant

def looks (instant : Instant now ω) (n : ℕ) : Bool := (instant.act n).any Act.isLook

def submits (instant : Instant now ω) (n : ℕ) : Bool := (instant.act n).any Act.isSubmission

/-- A worker that can always go on by itself does so at some time. -/
def Fair (instant : Instant now ω) : Prop :=
  ∀ n, (∀ m, n ≤ m → (instant.state m).isRestless now = true) →
    ∃ m, n ≤ m ∧ (instant.act m = some .look ∨ instant.act m = some .wake)

/-- The worker does not spin: it looks only so often, and if it goes on when it can, then it is at rest
for good after some look. -/
structure Settles (instant : Instant now ω) : Prop where
  bounded : ∀ n, Nat.count (fun m => instant.looks m) n ≤
    (instant.state 0).unrest now + 2 * Nat.count (fun m => instant.submits m) n
  finite : {n | instant.looks n = true}.Finite
  rests : instant.Fair → ∃ n, ∀ m, n ≤ m → (instant.state m).Rests now ∧
    (instant.state n).worker.Stays (instant.state m).worker

end Instant

theorem isRestless_iff {scheduler : Scheduler ω} : scheduler.isRestless now = true ↔
    scheduler.worker = .looking ∨
      (scheduler.worker = .idle ∧ (scheduler.halted = true ∨ scheduler.ready = true)) ∨
      (∃ due, scheduler.worker = .asleep due ∧
        (scheduler.halted = true ∨ scheduler.interrupt = true ∨ due ≤ now)) ∨
      scheduler.worker = .starting := by
  unfold isRestless
  cases worker : scheduler.worker with
  | looking => simp
  | starting => simp [wake?, worker]
  | idle =>
      have still : scheduler.wake? now = none ↔ _ := wake?_idle_eq_none_iff worker
      simp only [Option.isSome_iff_ne_none, ne_eq, still]
      simp [Classical.or_iff_not_imp_left]
  | asleep due =>
      have still : scheduler.wake? now = none ↔ _ := wake?_asleep_eq_none_iff worker
      simp only [Option.isSome_iff_ne_none, ne_eq, still]
      simp [Classical.or_iff_not_imp_left]
  | busy id work => simp [wake?, worker]
  | exited => simp [wake?, worker]

theorem rests_of_not_isRestless {scheduler : Scheduler ω}
    (still : scheduler.isRestless now = false) : scheduler.Rests now := by
  rw [← Bool.not_eq_true, isRestless_iff] at still
  cases worker : scheduler.worker with
  | looking => exact absurd (.inl worker) still
  | starting => exact absurd (.inr (.inr (.inr worker))) still
  | idle =>
      exact .idle worker
        (Bool.eq_false_iff.2 fun ready => still (.inr (.inl ⟨worker, .inr ready⟩)))
        (Bool.eq_false_iff.2 fun halted => still (.inr (.inl ⟨worker, .inl halted⟩)))
  | asleep due =>
      have wakes (reason : scheduler.halted = true ∨ scheduler.interrupt = true ∨ due ≤ now) : False :=
        still (.inr (.inr (.inl ⟨due, worker, reason⟩)))
      exact .asleep worker (Int.not_le.1 fun reached => wakes (.inr (.inr reached)))
        (Bool.eq_false_iff.2 fun interrupt => wakes (.inr (.inl interrupt)))
        (Bool.eq_false_iff.2 fun halted => wakes (.inl halted))
  | busy id work => exact .busy worker
  | exited => exact .exited worker

/-- The worker stays where it is, and nothing that could move it is taken back. -/
structure Stirs (before after : Scheduler ω) : Prop where
  worker : after.worker = before.worker
  halted : before.halted = true → after.halted = true
  ready : before.ready = true → after.ready = true
  interrupt : before.interrupt = true → after.interrupt = true

theorem Stirs.isRestless (stirs : Stirs before after) (restless : before.isRestless now = true) :
    after.isRestless now = true := by
  rw [isRestless_iff] at *
  rw [stirs.worker]
  obtain looking | ⟨idle, halted | ready⟩ | ⟨due, asleep, halted | interrupt | reached⟩ | starting :=
    restless
  · exact .inl looking
  · exact .inr (.inl ⟨idle, .inl (stirs.halted halted)⟩)
  · exact .inr (.inl ⟨idle, .inr (stirs.ready ready)⟩)
  · exact .inr (.inr (.inl ⟨due, asleep, .inl (stirs.halted halted)⟩))
  · exact .inr (.inr (.inl ⟨due, asleep, .inr (.inl (stirs.interrupt interrupt))⟩))
  · exact .inr (.inr (.inl ⟨due, asleep, .inr (.inr reached)⟩))
  · exact .inr (.inr (.inr starting))

/-- What others do to a scheduler leaves its worker where it is. -/
theorem Act.stirs {act : Act ω} (done : act.result? now before = some after)
    (foreign : act.isWorkers = false) : Stirs before after := by
  cases act with
  | submit due work =>
      obtain ⟨⟨task, _⟩, accepted, rfl⟩ := Option.map_eq_some_iff.1 done
      rw [comes_of_submit? accepted]
      exact ⟨rfl, id, fun kept => by simp [kept], fun kept => by simp [kept]⟩
  | cancel task =>
      cases done
      exact ⟨by simp, by simp, by simp, by simp⟩
  | disown task =>
      cases done
      exact ⟨rfl, id, id, id⟩
  | halt =>
      cases done
      exact ⟨rfl, fun _ => rfl, id, id⟩
  | stopInside =>
      obtain ⟨_, same⟩ := Option.ite_none_right_eq_some.1 done
      cases same
      unfold Scheduler.stopInside
      split <;> exact ⟨rfl, id, id, id⟩
  | close =>
      obtain ⟨_, same⟩ := Option.ite_none_right_eq_some.1 done
      cases same
      unfold Scheduler.close
      split <;> exact ⟨rfl, id, fun _ => rfl, id⟩
  | join =>
      cases done
      exact ⟨rfl, id, id, id⟩
  | _ => cases foreign

theorem isBusy_of_isRestless {scheduler : Scheduler ω} (restless : scheduler.isRestless now = true) :
    scheduler.worker.isBusy = false := by
  obtain worker | ⟨worker, _⟩ | ⟨due, worker, _⟩ | worker := isRestless_iff.1 restless <;>
    rw [worker] <;> rfl

theorem Act.isRestless {act : Act ω} (done : act.result? now before = some after)
    (restless : before.isRestless now = true) (unseen : act ≠ .look) (parked : act ≠ .wake) :
    after.isRestless now = true := by
  have free := isBusy_of_isRestless restless
  have not_busy {id : TaskId} {work : ω} (busy : before.worker = .busy id work) : False := by
    rw [busy] at free
    cases free
  cases act with
  | look => exact absurd rfl unseen
  | wake => exact absurd rfl parked
  | proceed rest =>
      obtain ⟨_, _, busy, _⟩ := busy_of_result? done
      exact (not_busy busy).elim
  | fail message =>
      obtain ⟨_, _, busy, _⟩ := busy_of_result? done
      exact (not_busy busy).elim
  | finish =>
      obtain ⟨_, _, busy, _⟩ := busy_of_result? done
      exact (not_busy busy).elim
  | _ => exact (stirs done rfl).isRestless restless

/-- A worker stays where it is unless it looks, wakes, or comes to the end of its task. -/
theorem Act.stays {act : Act ω} (done : act.result? now before = some after) (unseen : act ≠ .look)
    (parked : act ≠ .wake) (unfinished : act ≠ .finish) : before.worker.Stays after.worker := by
  cases act with
  | look => exact absurd rfl unseen
  | wake => exact absurd rfl parked
  | finish => exact absurd rfl unfinished
  | proceed rest =>
      obtain ⟨id, work, busy, rfl⟩ := busy_of_result? done
      exact .inr ⟨id, work, rest, busy, rfl⟩
  | fail message =>
      obtain ⟨id, work, _, rfl⟩ := busy_of_result? done
      exact .inl (worker_fail ..)
  | _ => exact .inl (stirs done rfl).worker

theorem worker_of_finish (done : Act.finish.result? now before = some after) :
    after.worker = .looking := by
  obtain ⟨id, work, _, rfl⟩ := Act.busy_of_result? done
  exact worker_signalDrained _

namespace Instant

variable {instant : Instant now ω} {n m : ℕ}

theorem state_of_none (still : instant.act n = none) : instant.state (n + 1) = instant.state n := by
  have follows := instant.follows n
  rwa [still] at follows

theorem result?_of_some {act : Act ω} (acts : instant.act n = some act) :
    act.result? now (instant.state n) = some (instant.state (n + 1)) := by
  have follows := instant.follows n
  rwa [acts] at follows

theorem unrest_succ_le (instant : Instant now ω) (n : ℕ) :
    (instant.state (n + 1)).unrest now + (instant.looks n).toNat ≤
      (instant.state n).unrest now + 2 * (instant.submits n).toNat := by
  unfold looks submits
  cases acts : instant.act n with
  | none =>
      rw [state_of_none acts]
      exact Nat.le_refl _
  | some act => exact Act.unrest_le (result?_of_some acts)

/-- The looks so far, and those that are still to come if nothing more is submitted. -/
theorem count_looks_add_unrest_le (instant : Instant now ω) (n : ℕ) :
    Nat.count (fun m => instant.looks m) n + (instant.state n).unrest now ≤
      (instant.state 0).unrest now + 2 * Nat.count (fun m => instant.submits m) n := by
  induction n with
  | zero => simp
  | succ n inductionHypothesis =>
      have step := instant.unrest_succ_le n
      rw [Nat.count_succ, Nat.count_succ]
      cases looks : instant.looks n <;> cases submits : instant.submits n <;>
        simp only [looks, submits, Bool.toNat_true, Bool.toNat_false, if_true, if_false,
          Bool.false_eq_true] at step ⊢ <;> omega

theorem finite_looks (few : {n | instant.submits n = true}.Finite) :
    {n | instant.looks n = true}.Finite := by
  refine finite_of_count_le ((instant.state 0).unrest now + 2 * few.toFinset.card) fun n => ?_
  have looks := instant.count_looks_add_unrest_le n
  have submits := Nat.count_le_card few n
  omega

theorem looking_of_le (unseen : ∀ k, n ≤ k → instant.act k ≠ some .look)
    (looking : (instant.state n).worker = .looking) (later : n ≤ m) :
    (instant.state m).worker = .looking := by
  induction later with
  | refl => exact looking
  | @step m later inductionHypothesis =>
      cases acts : instant.act m with
      | none => rw [state_of_none acts, inductionHypothesis]
      | some act =>
          have done := result?_of_some acts
          have stays := Act.stays done (fun look => unseen m later (by rw [acts, look]))
            (fun wake => ?_) (fun finish => ?_)
          · rcases stays with same | ⟨_, _, _, busy, _⟩
            · rw [same, inductionHypothesis]
            · cases inductionHypothesis.symm.trans busy
          · rw [wake] at done
            exact (wakes_of_wake? done).ne_looking inductionHypothesis
          · rw [finish] at done
            obtain ⟨_, _, busy, _⟩ := Act.busy_of_result? done
            cases inductionHypothesis.symm.trans busy

/-- In a fair instant a worker that is about to look does so. -/
theorem exists_look_of_looking (fair : instant.Fair)
    (looking : (instant.state n).worker = .looking) : ∃ m, n ≤ m ∧ instant.act m = some .look := by
  by_contra never
  have unseen (k : ℕ) (late : n ≤ k) : instant.act k ≠ some .look := fun look =>
    never ⟨k, late, look⟩
  obtain ⟨m, later, look | wake⟩ := fair n fun m later =>
    isRestless_iff.2 (.inl (looking_of_le unseen looking later))
  · exact unseen m later look
  · have still := looking_of_le unseen looking later
    exact (wakes_of_wake? (result?_of_some wake)).ne_looking still

/-- In a fair instant a worker that can go on comes to look. -/
theorem exists_look_of_isRestless (fair : instant.Fair)
    (restless : (instant.state n).isRestless now = true) :
    ∃ m, n ≤ m ∧ instant.act m = some .look := by
  by_contra never
  have unseen (k : ℕ) (late : n ≤ k) : instant.act k ≠ some .look := fun look =>
    never ⟨k, late, look⟩
  have unwoken (k : ℕ) (late : n ≤ k) : instant.act k ≠ some .wake := by
    intro wake
    obtain ⟨m, later, look⟩ :=
      exists_look_of_looking fair (wakes_of_wake? (result?_of_some wake)).worker
    exact unseen m (by omega) look
  have still (m : ℕ) (later : n ≤ m) : (instant.state m).isRestless now = true := by
    induction later with
    | refl => exact restless
    | @step m later inductionHypothesis =>
        cases acts : instant.act m with
        | none => rw [state_of_none acts, inductionHypothesis]
        | some act =>
            exact Act.isRestless (result?_of_some acts) inductionHypothesis
              (fun look => unseen m later (by rw [acts, look]))
              (fun wake => unwoken m later (by rw [acts, wake]))
  obtain ⟨m, later, look | wake⟩ := fair n still
  · exact unseen m later look
  · exact unwoken m later wake

/-- When the last look is over, the worker is at rest for good. -/
theorem rests_of_no_look (fair : instant.Fair)
    (unseen : ∀ k, n ≤ k → instant.act k ≠ some .look) (later : n ≤ m) :
    (instant.state m).Rests now ∧ (instant.state n).worker.Stays (instant.state m).worker := by
  have still (k : ℕ) (late : n ≤ k) : (instant.state k).isRestless now = false := by
    rw [← Bool.not_eq_true]
    intro restless
    obtain ⟨m, after, look⟩ := exists_look_of_isRestless fair restless
    exact unseen m (by omega) look
  refine ⟨rests_of_not_isRestless (still m later), ?_⟩
  induction later with
  | refl => exact .inl rfl
  | @step m later inductionHypothesis =>
      cases acts : instant.act m with
      | none => rwa [state_of_none acts]
      | some act =>
          have done := result?_of_some acts
          have resting := still (m + 1) (Nat.le_succ_of_le later)
          have not_looking : (instant.state (m + 1)).worker ≠ .looking := by
            intro looking
            rw [isRestless_iff.2 (.inl looking)] at resting
            cases resting
          refine inductionHypothesis.trans (Act.stays done ?_ ?_ ?_)
          · exact fun look => unseen m later (by rw [acts, look])
          · intro wake
            rw [wake] at done
            exact not_looking (wakes_of_wake? done).worker
          · intro finish
            rw [finish] at done
            exact not_looking (worker_of_finish done)

/-- Whatever the state and the time are, a worker looks only so often at one time, and then it rests,
if only so much is submitted. -/
theorem settles (few : {n | instant.submits n = true}.Finite) : instant.Settles := by
  refine ⟨fun n => ?_, finite_looks few, fun fair => ?_⟩
  · exact Nat.le_of_add_right_le (instant.count_looks_add_unrest_le n)
  · obtain ⟨last, bounds⟩ := (finite_looks few).bddAbove
    refine ⟨last + 1, fun m later => rests_of_no_look fair (fun k late look => ?_) later⟩
    have looks : instant.looks k = true := by
      rw [Instant.looks, look]
      rfl
    have before : k ≤ last := bounds looks
    omega

/-- These acts one after the other, but for those that cannot be done, and nothing after them. -/
def play (now : Int) (first : Scheduler ω) (acts : List (Act ω)) : Instant now ω where
  state n := (acts.take n).foldl (fun scheduler act => (act.result? now scheduler).getD scheduler) first
  act n := acts[n]?.filter fun act =>
    (act.result? now ((acts.take n).foldl
      (fun scheduler act => (act.result? now scheduler).getD scheduler) first)).isSome
  follows n := by
    rw [List.take_add_one, List.foldl_append]
    cases listed : acts[n]? with
    | none => rfl
    | some act =>
        simp only [Option.toList_some, List.foldl_cons, List.foldl_nil, Option.filter_some]
        generalize (acts.take n).foldl _ first = before
        cases result : act.result? now before <;> simp [result]

section Play

variable {first : Scheduler ω} {acts : List (Act ω)}

theorem finite_submits_play : {n | (play now first acts).submits n = true}.Finite := by
  refine (Set.finite_lt_nat acts.length).subset fun n submits => ?_
  by_contra late
  have none : (play now first acts).act n = none := by
    simp only [play, List.getElem?_eq_none (Nat.not_lt.1 late), Option.filter_none]
  simp [Instant.submits, none] at submits

theorem fair_play (rests : ((play now first acts).state acts.length).isRestless now = false) :
    (play now first acts).Fair := by
  intro n restless
  have ended := restless (n + acts.length) (Nat.le_add_right _ _)
  have same : (play now first acts).state (n + acts.length) =
      (play now first acts).state acts.length := by
    simp [play, List.take_of_length_le]
  rw [same, rests] at ended
  cases ended

end Play

end Instant

end Scheduler

end Agenda
