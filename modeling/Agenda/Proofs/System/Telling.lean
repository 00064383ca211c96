import Agenda.Proofs.System.Working

/-!
# What a run tells

Of a run it becomes known that it has begun, then how the steps of the task were answered, and at the
end that the task panicked, if it did and there is a failure hook.
-/

namespace Agenda

universe u

variable {V : Type u}

structure Launch (V : Type u) where
  scheduler : SchedulerId
  task : TaskId
  work : Work V

structure Mention (V : Type u) where
  scheduler : SchedulerId
  task : TaskId
  event : Event V

def Launch.owns (launch : Launch V) (mention : Mention V) : Bool :=
  mention.scheduler = launch.scheduler && mention.task = launch.task

def Launch.told (launch : Launch V) (mentions : List (Mention V)) : List (Event V) :=
  (mentions.filter launch.owns).map Mention.event

def Script.failures (hook : Option Hook) (task : TaskId) (script : Script V) : List (Event V) :=
  script.panic?.elim [] fun payload => Hook.tells task payload hook

/-- What becomes known of a run up to where the worker has this left of it to do, or to its end. -/
inductive Launch.Tells (hook : Option Hook) (launch : Launch V) :
    Option (Work V) → List (Event V) → Prop where
  | deletion {left : Option (Work V)} (cache : CacheId) (key : String) (generation : Nat) :
      launch.work = .deletion cache key generation → left = none ∨ left = some launch.work →
      Tells hook launch left []
  | going {label handle : Label} {script rest : Script V} (millis : Int) (replies : List (Reply V)) :
      launch.work = .task label handle script → rest.panic? = script.panic? →
      Tells hook launch (some (.task label handle rest))
        (.began label handle millis :: replies.map (.answered label handle))
  | ended {label handle : Label} {script : Script V} (millis : Int) (replies : List (Reply V)) :
      launch.work = .task label handle script →
      Tells hook launch none (.began label handle millis ::
        (replies.map (.answered label handle) ++ script.failures hook launch.task))

theorem Beat.begins {now : Int} {hook : Option Hook} {known : List (Event V)} {task : TaskId}
    {work : Work V} (beat : Beat now hook none known (some (task, work))) (id : SchedulerId) :
    Launch.Tells hook ⟨id, task, work⟩ (some work) known := by
  cases beat with
  | begin task label handle script => exact .going _ [] rfl rfl
  | beginDeletion task cache key generation => exact .deletion cache key generation rfl (.inr rfl)

theorem Beat.task {now : Int} {hook : Option Hook} {known : List (Event V)}
    {hand next : TaskId × Work V} (beat : Beat now hook (some hand) known (some next)) :
    next.1 = hand.1 := by
  cases beat
  rfl

theorem Beat.goesOn {now : Int} {hook : Option Hook} {known : List (Event V)} {task : TaskId}
    {work : Work V} {next : Option (TaskId × Work V)}
    (beat : Beat now hook (some (task, work)) known next) {launch : Launch V}
    (own : launch.task = task) {events : List (Event V)}
    (tells : launch.Tells hook (some work) events) :
    launch.Tells hook (next.map Prod.snd) (events ++ known) := by
  cases beat with
  | @proceed task label handle script rest replies same =>
      cases tells with
      | deletion cache key generation deletes left =>
          rw [deletes] at left
          rcases left with left | left <;> cases left
      | going millis earlier does rests =>
          rw [List.cons_append, ← List.map_append]
          exact .going millis (earlier ++ replies) does (same.trans rests)
  | finish task label handle =>
      cases tells with
      | deletion cache key generation deletes left =>
          rw [deletes] at left
          rcases left with left | left <;> cases left
      | @going label handle script rest millis replies does rests =>
          have silent : script.failures hook launch.task = [] := by
            rw [Script.failures, ← rests]
            rfl
          have told : launch.Tells hook none _ := .ended millis replies does
          rw [silent] at told
          rw [List.cons_append]
          exact told
  | fail task label handle payload =>
      cases tells with
      | deletion cache key generation deletes left =>
          rw [deletes] at left
          rcases left with left | left <;> cases left
      | @going label handle script rest millis replies does rests =>
          have failed : script.failures hook launch.task = Hook.tells task payload hook := by
            rw [Script.failures, ← rests, own]
            rfl
          rw [← failed, List.cons_append]
          exact .ended millis replies does
  | finishDeletion task cache key generation =>
      cases tells with
      | deletion cache key generation deletes left =>
          exact .deletion cache key generation deletes (.inl rfl)

/-- The runs of one scheduler follow each other: all that becomes known of a run does so before the
next one begins. -/
def Blocks (launches : List (Launch V)) (mentions : List (Mention V)) : Prop :=
  mentions = launches.flatMap fun launch => mentions.filter launch.owns

namespace Blocks

variable {launches : List (Launch V)} {mentions news : List (Mention V)} {launch : Launch V}

theorem owned (blocks : Blocks launches mentions) {mention : Mention V} (listed : mention ∈ mentions) :
    ∃ launch ∈ launches, launch.owns mention = true := by
  rw [blocks] at listed
  obtain ⟨launch, held, listed⟩ := List.mem_flatMap.1 listed
  exact ⟨launch, held, (List.mem_filter.1 listed).2⟩

theorem begin (blocks : Blocks launches mentions)
    (unknown : ∀ mention ∈ mentions, launch.owns mention = false) :
    Blocks (launches ++ [launch]) mentions := by
  have none : mentions.filter launch.owns = [] :=
    List.filter_eq_nil_iff.2 fun mention listed => by simp [unknown mention listed]
  rw [Blocks, List.flatMap_append, List.flatMap_singleton, none, List.append_nil]
  exact blocks

theorem tell (blocks : Blocks (launches ++ [launch]) mentions)
    (own : ∀ mention ∈ news, launch.owns mention = true)
    (others : ∀ earlier ∈ launches, ∀ mention ∈ news, earlier.owns mention = false) :
    Blocks (launches ++ [launch]) (mentions ++ news) := by
  have before : launches.flatMap (fun launch => (mentions ++ news).filter launch.owns) =
      launches.flatMap fun launch => mentions.filter launch.owns := by
    refine List.flatMap_congr fun earlier listed => ?_
    have none : news.filter earlier.owns = [] :=
      List.filter_eq_nil_iff.2 fun mention held => by simp [others earlier listed mention held]
    rw [List.filter_append, none, List.append_nil]
  have whole : mentions = launches.flatMap (fun launch => mentions.filter launch.owns) ++
      mentions.filter launch.owns := by
    rw [← List.flatMap_singleton (fun launch => mentions.filter launch.owns) launch,
      ← List.flatMap_append]
    exact blocks
  rw [Blocks, List.flatMap_append, List.flatMap_singleton, before, List.filter_append,
    List.filter_eq_self.2 own, ← List.append_assoc, ← whole]

end Blocks

end Agenda
