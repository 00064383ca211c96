import Agenda.Scheduler.Worker

/-!
# What a look of the worker can lead to, and the end of a park

`Chooses` lists the ways in which `choose` ends, after any number of discarded heads.  What holds
of every choice is shown by induction on it, so that the recursion of `choose` is opened once.
`Wakes` says what the start of the worker and the end of a park leave alone.
-/

namespace Agenda

universe u

variable {ω : Type u}

namespace Scheduler

inductive Chooses (now : Int) : Scheduler ω → Scheduler ω → Prop where
  | exit {scheduler : Scheduler ω} :
      scheduler.queue.pop? = none → scheduler.stopped = true →
      Chooses now scheduler ({ scheduler with worker := .exited }.note .stopped)
  | idle {scheduler : Scheduler ω} :
      scheduler.queue.pop? = none → scheduler.stopped = false →
      Chooses now scheduler { scheduler with worker := .idle }
  | sleep {scheduler : Scheduler ω} {head : Entry ω} {rest : TaskQueue ω} :
      scheduler.queue.pop? = some (head, rest) →
      scheduler.roster.fate? head.id = some .pending → now < head.due →
      Chooses now scheduler { scheduler with worker := .asleep head.due }
  | begin {scheduler : Scheduler ω} {head : Entry ω} {rest : TaskQueue ω} :
      scheduler.queue.pop? = some (head, rest) →
      scheduler.roster.fate? head.id = some .pending → head.due ≤ now →
      Chooses now scheduler (scheduler.begin head rest now)
  | discard {scheduler last : Scheduler ω} {head : Entry ω} {rest : TaskQueue ω} :
      scheduler.queue.pop? = some (head, rest) →
      scheduler.roster.fate? head.id ≠ some .pending →
      Chooses now (scheduler.discard head.id rest) last → Chooses now scheduler last

theorem chooses_choose (scheduler : Scheduler ω) (now : Int) :
    Chooses now scheduler (scheduler.choose now) := by
  induction length : scheduler.queue.size using Nat.strongRecOn generalizing scheduler with
  | _ length shorterOnes =>
      rw [choose]
      split
      · rename_i vacant
        by_cases stopped : scheduler.stopped = true
        · rw [if_pos stopped]
          exact .exit vacant stopped
        · rw [if_neg stopped]
          exact .idle vacant (by simpa using stopped)
      · rename_i head rest popped
        by_cases pending : scheduler.roster.isPending head.id = true
        · rw [if_pos pending]
          rw [Roster.isPending_iff] at pending
          by_cases early : now < head.due
          · rw [if_pos early]
            exact .sleep popped pending early
          · rw [if_neg early]
            exact .begin popped pending (by omega)
        · rw [if_neg pending]
          rw [Roster.isPending_iff] at pending
          have shorter : rest.size + 1 = scheduler.queue.size := Heap.size_of_pop? popped
          refine .discard popped pending ?_
          exact shorterOnes rest.size (by omega) _ (congrArg Heap.size (queue_discard ..))

structure Wakes (before after : Scheduler ω) : Prop where
  dormant : before.worker = .starting ∨ before.worker = .idle ∨ ∃ due, before.worker = .asleep due
  worker : after.worker = .looking
  queue : after.queue = before.queue
  roster : after.roster = before.roster
  settings : after.settings = before.settings
  stopped : after.stopped = before.stopped
  halted : after.halted = before.halted
  joined : after.joined = before.joined
  drains : after.drains = before.drains
  started : before.worker = .starting → after.journal = before.journal.push .started
  woken : before.worker ≠ .starting →
    after.journal = before.journal ∨ after.journal = before.journal.push .wokeEarly

theorem wakes_of_wake? {before after : Scheduler ω} {now : Int}
    (woke : before.wake? now = some after) : Wakes before after := by
  unfold wake? at woke
  split at woke
  · rename_i starting
    cases woke
    exact ⟨.inl starting, rfl, rfl, rfl, rfl, rfl, rfl, rfl, rfl, fun _ => rfl,
      fun other => absurd starting other⟩
  · rename_i idle
    have other : before.worker ≠ .starting := by simp [idle]
    split at woke
    · cases woke
      exact ⟨.inr (.inl idle), rfl, rfl, rfl, rfl, rfl, rfl, rfl, rfl,
        fun starting => absurd starting other, fun _ => .inl rfl⟩
    · split at woke <;> cases woke
      exact ⟨.inr (.inl idle), rfl, rfl, rfl, rfl, rfl, rfl, rfl, rfl,
        fun starting => absurd starting other, fun _ => .inl rfl⟩
  · rename_i due asleep
    have other : before.worker ≠ .starting := by simp [asleep]
    split at woke
    · cases woke
      exact ⟨.inr (.inr ⟨due, asleep⟩), rfl, rfl, rfl, rfl, rfl, rfl, rfl, rfl,
        fun starting => absurd starting other, fun _ => .inl rfl⟩
    · split at woke
      · cases woke
        exact ⟨.inr (.inr ⟨due, asleep⟩), rfl, rfl, rfl, rfl, rfl, rfl, rfl, rfl,
          fun starting => absurd starting other, fun _ => .inr rfl⟩
      · split at woke <;> cases woke
        exact ⟨.inr (.inr ⟨due, asleep⟩), rfl, rfl, rfl, rfl, rfl, rfl, rfl, rfl,
          fun starting => absurd starting other, fun _ => .inl rfl⟩
  · cases woke

namespace Wakes

variable {before after : Scheduler ω}

theorem isBusy (wakes : Wakes before after) : before.worker.isBusy = false := by
  rcases wakes.dormant with worker | worker | ⟨due, worker⟩ <;> rw [worker] <;> rfl

theorem ne_busy (wakes : Wakes before after) {id : TaskId} {work : ω} :
    before.worker ≠ .busy id work := by
  intro busy
  have free := wakes.isBusy
  rw [busy] at free
  cases free

theorem ne_looking (wakes : Wakes before after) : before.worker ≠ .looking := by
  rcases wakes.dormant with worker | worker | ⟨due, worker⟩ <;> rw [worker] <;> nofun

theorem ne_exited (wakes : Wakes before after) : before.worker ≠ .exited := by
  rcases wakes.dormant with worker | worker | ⟨due, worker⟩ <;> rw [worker] <;> nofun

theorem journal (wakes : Wakes before after) :
    after.journal = before.journal ∨
      ∃ notice, (notice = .started ∨ notice = .wokeEarly) ∧
        after.journal = before.journal.push notice := by
  by_cases starting : before.worker = .starting
  · exact .inr ⟨.started, .inl rfl, wakes.started starting⟩
  · rcases wakes.woken starting with same | pushed
    · exact .inl same
    · exact .inr ⟨.wokeEarly, .inr rfl, pushed⟩

end Wakes

end Scheduler

end Agenda
