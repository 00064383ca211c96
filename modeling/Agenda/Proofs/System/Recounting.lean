import Agenda.Proofs.Session.Grouping
import Agenda.Proofs.System.Telling

/-!
# What becomes known of each run

Every event belongs to a run of a task.  A worker makes nothing known of other tasks before the run
that it is in has ended.
-/

namespace Agenda

universe u

variable {V : Type u}

namespace System

/-- The run that the worker of a scheduler begins in a step. -/
def launched (before after : System V) (id : SchedulerId) : List (Launch V) :=
  match before.hand? id, after.hand? id with
  | none, some (task, work) => [⟨id, task, work⟩]
  | _, _ => []

/-- What becomes known in a step of the worker of a scheduler, as part of the run of the task in
its hands. -/
def mentioned (before after : System V) (id : SchedulerId) : List (Mention V) :=
  match (before.hand? id).or (after.hand? id) with
  | none => []
  | some (task, _) => (Session.eventsSince before after).map (Mention.mk id task)

/-- How a system came about from the empty one, with the runs that began on the way and what became
known in them. -/
inductive History : List (Launch V) → List (Mention V) → System V → Prop where
  | start : History [] [] {}
  | outside {launches : List (Launch V)} {mentions : List (Mention V)} {before after : System V} :
      History launches mentions before → Act none before after → History launches mentions after
  | worker {launches : List (Launch V)} {mentions : List (Mention V)} {before after : System V}
      {id : SchedulerId} : History launches mentions before → Act (some id) before after →
      History (launches ++ launched before after id) (mentions ++ mentioned before after id) after

def left (system : System V) (launch : Launch V) : Option (Work V) :=
  ((system.hand? launch.scheduler).filter fun hand => hand.1 = launch.task).map Prod.snd

structure Recounts (launches : List (Launch V)) (mentions : List (Mention V)) (system : System V) :
    Prop where
  /-- Every event became known in a run. -/
  events : mentions.map Mention.event = system.events.toList
  /-- No task runs twice. -/
  apart : launches.Pairwise fun first second =>
    first.scheduler = second.scheduler → first.task ≠ second.task
  /-- The runs of each scheduler tell what they have to tell one after the other. -/
  blocks : ∀ id, Blocks (launches.filter fun launch => launch.scheduler = id)
    (mentions.filter fun mention => mention.scheduler = id)
  /-- Whatever a worker has in its hands is its last run. -/
  current : ∀ {id task work}, system.hand? id = some (task, work) → ∃ earlier launch,
    launches.filter (fun launch => launch.scheduler = id) = earlier ++ [launch] ∧ launch.task = task
  /-- A task that has run has fired, whether or not it panicked. -/
  runs : ∀ launch ∈ launches, ∃ host, system.scheduler? launch.scheduler = some host ∧
    host.roster.fate? launch.task = some .fired ∧
      launch.Tells host.settings.hook (system.left launch) (launch.told mentions)

/-- What has fired stays so, under the same hook. -/
theorem Step.fired {before after : System V} {id : SchedulerId} (reachable : Reachable before)
    (step : Step before after) {host : Scheduler (Work V)} {task : TaskId}
    (found : before.scheduler? id = some host) (fired : host.roster.fate? task = some .fired) :
    ∃ changed, after.scheduler? id = some changed ∧
      changed.roster.fate? task = some .fired ∧ changed.settings = host.settings := by
  obtain ⟨_, changed, seen, run⟩ := step.evolves.old found
  refine ⟨changed, seen, ?_, run.settings⟩
  exact (run.lasting (reachable.sound found) fired).resolve_left (by nofun)

namespace Recounts

variable {launches : List (Launch V)} {mentions : List (Mention V)} {before after : System V}
  {id : SchedulerId}

theorem start : Recounts [] [] ({} : System V) where
  events := rfl
  apart := .nil
  blocks _ := rfl
  current := by
    intro id task work held
    simp [hand?, scheduler?] at held
  runs := nofun

/-- Nothing becomes known, and no worker does anything with a task. -/
theorem outside (recounts : Recounts launches mentions before) (reachable : Reachable before)
    (step : Step before after) (hands : ∀ id, after.hand? id = before.hand? id)
    (events : after.events = before.events) : Recounts launches mentions after where
  events := by rw [recounts.events, events]
  apart := recounts.apart
  blocks := recounts.blocks
  current held := recounts.current ((hands _).symm.trans held)
  runs launch listed := by
    obtain ⟨host, found, fired, tells⟩ := recounts.runs launch listed
    obtain ⟨changed, seen, still, settings⟩ := step.fired reachable found fired
    refine ⟨changed, seen, still, ?_⟩
    rw [settings, left, hands]
    exact tells

theorem told_append_of_ne {launch : Launch V} {task : TaskId}
    (different : launch.scheduler = id → launch.task ≠ task) (mentions : List (Mention V))
    (known : List (Event V)) :
    launch.told (mentions ++ known.map (Mention.mk id task)) = launch.told mentions := by
  have none : (known.map (Mention.mk id task)).filter launch.owns = [] := by
    refine List.filter_eq_nil_iff.2 fun mention listed own => ?_
    obtain ⟨event, _, rfl⟩ := List.mem_map.1 listed
    obtain ⟨place, same⟩ : id = launch.scheduler ∧ task = launch.task := by
      simpa [Launch.owns] using own
    exact different place.symm same.symm
  rw [Launch.told, List.filter_append, none, List.append_nil, Launch.told]

theorem told_append_self {launch : Launch V} (mentions : List (Mention V)) (known : List (Event V)) :
    launch.told (mentions ++ known.map (Mention.mk launch.scheduler launch.task)) =
      launch.told mentions ++ known := by
  have own : (known.map (Mention.mk launch.scheduler launch.task)).filter launch.owns =
      known.map (Mention.mk launch.scheduler launch.task) := by
    refine List.filter_eq_self.2 fun mention listed => ?_
    obtain ⟨event, _, rfl⟩ := List.mem_map.1 listed
    simp [Launch.owns]
  rw [Launch.told, List.filter_append, own, List.map_append, List.map_map, Launch.told]
  congr 1
  exact List.map_id _

theorem left_of_ne {system : System V} {launch : Launch V}
    (other : ∀ {task work}, system.hand? launch.scheduler = some (task, work) →
      task ≠ launch.task) : system.left launch = none := by
  rw [left]
  cases held : system.hand? launch.scheduler with
  | none => rfl
  | some hand => simp [Option.filter_some, other held]

theorem left_of_eq {system : System V} {launch : Launch V}
    (own : ∀ {task work}, system.hand? launch.scheduler = some (task, work) → task = launch.task) :
    system.left launch = (system.hand? launch.scheduler).map Prod.snd := by
  rw [left]
  cases held : system.hand? launch.scheduler with
  | none => rfl
  | some hand => simp [Option.filter_some, own held]

variable {host : Scheduler (Work V)} {known : List (Event V)} {task : TaskId} {work : Work V}

/-- What becomes known in a step of a worker, if that is made part of a run. -/
theorem events_append (recounts : Recounts launches mentions before) {hook : Option Hook}
    (works : Works before id hook after known) (task : TaskId) :
    (mentions ++ known.map (Mention.mk id task)).map Mention.event = after.events.toList := by
  rw [List.map_append, recounts.events, works.events, List.map_map]
  congr 1
  exact List.map_id _

theorem filter_mentions_of_ne {other : SchedulerId} (different : other ≠ id)
    (mentions : List (Mention V)) (known : List (Event V)) (task : TaskId) :
    (mentions ++ known.map (Mention.mk id task)).filter (fun mention => mention.scheduler = other) =
      mentions.filter fun mention => mention.scheduler = other := by
  have none : (known.map (Mention.mk id task)).filter (fun mention => mention.scheduler = other)
      = [] := by
    refine List.filter_eq_nil_iff.2 fun mention listed => ?_
    obtain ⟨event, _, rfl⟩ := List.mem_map.1 listed
    simpa using different.symm
  rw [List.filter_append, none, List.append_nil]

theorem filter_mentions_self (mentions : List (Mention V)) (known : List (Event V)) (task : TaskId) :
    (mentions ++ known.map (Mention.mk id task)).filter (fun mention => mention.scheduler = id) =
      mentions.filter (fun mention => mention.scheduler = id) ++ known.map (Mention.mk id task) := by
  have all : (known.map (Mention.mk id task)).filter (fun mention => mention.scheduler = id) =
      known.map (Mention.mk id task) := by
    refine List.filter_eq_self.2 fun mention listed => ?_
    obtain ⟨event, _, rfl⟩ := List.mem_map.1 listed
    simp
  rw [List.filter_append, all]

theorem filter_launches_self (launches : List (Launch V)) (launch : Launch V) :
    (launches ++ [launch]).filter (fun other => other.scheduler = launch.scheduler) =
      launches.filter (fun other => other.scheduler = launch.scheduler) ++ [launch] := by
  simp [List.filter_append]

theorem filter_launches_of_ne {launch : Launch V} {other : SchedulerId}
    (different : other ≠ launch.scheduler) (launches : List (Launch V)) :
    (launches ++ [launch]).filter (fun launch => launch.scheduler = other) =
      launches.filter fun launch => launch.scheduler = other := by
  simp [List.filter_append, different.symm]

theorem blocks_tell {earlier : List (Launch V)} {launch : Launch V}
    (blocks : Blocks (earlier ++ [launch]) (mentions.filter fun mention => mention.scheduler = id))
    (place : launch.scheduler = id) (different : ∀ other ∈ earlier, other.task ≠ launch.task)
    (known : List (Event V)) : Blocks (earlier ++ [launch])
      ((mentions ++ known.map (Mention.mk id launch.task)).filter
        fun mention => mention.scheduler = id) := by
  rw [filter_mentions_self]
  refine blocks.tell ?_ ?_
  · intro mention listed
    obtain ⟨event, _, rfl⟩ := List.mem_map.1 listed
    simp [Launch.owns, place]
  · intro other held mention listed
    obtain ⟨event, _, rfl⟩ := List.mem_map.1 listed
    simp [Launch.owns, (different other held).symm]

theorem untouched {hook shown : Option Hook} (works : Works before id hook after known)
    (was : ∀ {held work}, before.hand? id = some (held, work) → held = task)
    (is : ∀ {held work}, after.hand? id = some (held, work) → held = task) {launch : Launch V}
    (different : launch.scheduler = id → launch.task ≠ task)
    (tells : launch.Tells shown (before.left launch) (launch.told mentions)) :
    launch.Tells shown (after.left launch)
      (launch.told (mentions ++ known.map (Mention.mk id task))) := by
  have same : after.left launch = before.left launch := by
    by_cases place : launch.scheduler = id
    · subst place
      have later : after.left launch = none := left_of_ne fun held => by
        rw [is held]
        exact (different rfl).symm
      rw [later, left_of_ne fun held => by rw [was held]; exact (different rfl).symm]
    · rw [left, works.others _ place]
      rfl
  rw [same, told_append_of_ne different]
  exact tells

/-- No run was one of a task that is pending. -/
theorem fresh (recounts : Recounts launches mentions before)
    (found : before.scheduler? id = some host) (pending : host.roster.fate? task = some .pending) {launch : Launch V}
    (listed : launch ∈ launches) (place : launch.scheduler = id) : launch.task ≠ task := by
  rintro rfl
  obtain ⟨earlier, there, past, _⟩ := recounts.runs launch listed
  rw [place, found] at there
  cases there
  cases pending.symm.trans past

/-- Nothing is known of a run that has not begun. -/
theorem unknown (recounts : Recounts launches mentions before) {launch : Launch V}
    (fresh : ∀ earlier ∈ launches, earlier.scheduler = launch.scheduler →
      earlier.task ≠ launch.task) : ∀ mention ∈ mentions, launch.owns mention = false := by
  intro mention listed
  by_contra own
  obtain ⟨place, same⟩ : mention.scheduler = launch.scheduler ∧ mention.task = launch.task := by
    simpa [Launch.owns] using own
  have shown : mention ∈ mentions.filter fun mention => mention.scheduler = launch.scheduler :=
    List.mem_filter.2 ⟨listed, decide_eq_true place⟩
  obtain ⟨earlier, held, owned⟩ := (recounts.blocks launch.scheduler).owned shown
  obtain ⟨held, there⟩ := List.mem_filter.1 held
  have task : mention.task = earlier.task := of_decide_eq_true (Bool.and_eq_true_iff.1 owned).2
  exact fresh earlier held (of_decide_eq_true there) (task.symm.trans same)

theorem begins (recounts : Recounts launches mentions before) (reachable : Reachable before)
    (step : Step before after) (works : Works before id host.settings.hook after known)
    (found : before.scheduler? id = some host) (idle : before.hand? id = none)
    (busy : after.hand? id = some (task, work)) (pending : host.roster.fate? task = some .pending)
    {changed : Scheduler (Work V)} (seen : after.scheduler? id = some changed)
    (fired : changed.roster.fate? task = some .fired)
    (settings : changed.settings = host.settings) :
    Recounts (launches ++ [⟨id, task, work⟩]) (mentions ++ known.map (Mention.mk id task)) after := by
  have fresh : ∀ launch ∈ launches, launch.scheduler = id → launch.task ≠ task :=
    fun _ listed place => recounts.fresh found pending listed place
  have unknown : ∀ mention ∈ mentions, Launch.owns ⟨id, task, work⟩ mention = false :=
    recounts.unknown fresh
  constructor
  · exact recounts.events_append works task
  · refine List.pairwise_append.2 ⟨recounts.apart, List.pairwise_singleton _ _, ?_⟩
    intro launch listed other new
    rw [List.mem_singleton.1 new]
    exact fresh launch listed
  · intro other
    by_cases place : other = id
    · subst place
      rw [filter_launches_self launches ⟨other, task, work⟩]
      refine blocks_tell (Blocks.begin (recounts.blocks other) ?_) rfl ?_ known
      · intro mention listed
        exact unknown mention (List.mem_filter.1 listed).1
      · intro launch listed
        obtain ⟨listed, place⟩ := List.mem_filter.1 listed
        exact fresh launch listed (of_decide_eq_true place)
    · rw [filter_mentions_of_ne place, filter_launches_of_ne place]
      exact recounts.blocks other
  · intro other held rest shown
    by_cases place : other = id
    · subst place
      cases busy.symm.trans shown
      exact ⟨_, ⟨other, task, work⟩, filter_launches_self launches ⟨other, task, work⟩, rfl⟩
    · rw [filter_launches_of_ne place]
      exact recounts.current ((works.others other place).symm.trans shown)
  · intro launch listed
    have is {held : TaskId} {rest : Work V} (shown : after.hand? id = some (held, rest)) :
        held = task := by
      cases busy.symm.trans shown
      rfl
    rcases List.mem_append.1 listed with old | new
    · obtain ⟨earlier, there, past, tells⟩ := recounts.runs launch old
      obtain ⟨later, again, still, kept⟩ := step.fired reachable there past
      refine ⟨later, again, still, ?_⟩
      rw [kept]
      refine untouched works (fun shown => ?_) is (fresh launch old) tells
      cases idle.symm.trans shown
    · rw [List.mem_singleton.1 new]
      refine ⟨changed, seen, fired, ?_⟩
      have beat := works.beat
      rw [idle, busy] at beat
      have rest : after.left ⟨id, task, work⟩ = some work := by
        rw [left_of_eq is, busy]
        rfl
      have nothing : Launch.told ⟨id, task, work⟩ mentions = [] := by
        rw [Launch.told, List.filter_eq_nil_iff.2, List.map_nil]
        intro mention listed
        simp [unknown mention listed]
      have told : Launch.told ⟨id, task, work⟩ (mentions ++ known.map (Mention.mk id task)) =
          Launch.told ⟨id, task, work⟩ mentions ++ known := told_append_self mentions known
      rw [settings, rest, told, nothing, List.nil_append]
      exact beat.begins id

theorem goesOn (recounts : Recounts launches mentions before) (reachable : Reachable before)
    (step : Step before after) (works : Works before id host.settings.hook after known)
    (found : before.scheduler? id = some host) (busy : before.hand? id = some (task, work)) :
    Recounts launches (mentions ++ known.map (Mention.mk id task)) after := by
  obtain ⟨earlier, current, last, rfl⟩ := recounts.current busy
  have listed : current ∈ launches.filter fun launch => launch.scheduler = id := by
    rw [last]
    exact List.mem_append_right _ (List.mem_singleton_self _)
  have place : current.scheduler = id := of_decide_eq_true (List.mem_filter.1 listed).2
  have beat := works.beat
  rw [busy] at beat
  have same {task : TaskId} {work : Work V} (held : after.hand? id = some (task, work)) :
      task = current.task := by
    rw [held] at beat
    exact beat.task
  constructor
  · exact recounts.events_append works _
  · exact recounts.apart
  · intro other
    by_cases own : other = id
    · subst own
      have blocks := recounts.blocks other
      rw [last] at blocks ⊢
      refine blocks_tell blocks place ?_ known
      intro launch held
      have apart := recounts.apart.filter (fun launch => launch.scheduler = other)
      rw [last, List.pairwise_append] at apart
      have there : launch.scheduler = other := by
        have held : launch ∈ launches.filter fun launch => launch.scheduler = other := by
          rw [last]
          exact List.mem_append_left _ held
        exact of_decide_eq_true (List.mem_filter.1 held).2
      exact apart.2.2 launch held current (List.mem_singleton_self _) (there.trans place.symm)
    · rw [filter_mentions_of_ne own]
      exact recounts.blocks other
  · intro other held left shown
    by_cases own : other = id
    · subst own
      exact ⟨earlier, current, last, (same shown).symm⟩
    · exact recounts.current ((works.others other own).symm.trans shown)
  · intro launch there
    obtain ⟨old, seen, past, tells⟩ := recounts.runs launch there
    obtain ⟨later, again, still, kept⟩ := step.fired reachable seen past
    refine ⟨later, again, still, ?_⟩
    rw [kept]
    by_cases own : launch.scheduler = id ∧ launch.task = current.task
    · obtain ⟨own, task⟩ := own
      rw [own, found] at seen
      cases seen
      have rest : before.left launch = some work := by
        rw [left_of_eq, own, busy]
        · rfl
        · intro held rest shown
          rw [own, busy] at shown
          cases shown
          exact task.symm
      have next : after.left launch = (after.hand? id).map Prod.snd := by
        rw [left_of_eq, own]
        intro held rest shown
        rw [own] at shown
        exact (same shown).trans task.symm
      have told : launch.told (mentions ++ known.map (Mention.mk id current.task)) =
          launch.told mentions ++ known := by
        rw [← task, ← own]
        exact told_append_self mentions known
      rw [rest] at tells
      rw [next, told]
      exact beat.goesOn task tells
    · refine untouched works (fun shown => ?_) same (fun place task => own ⟨place, task⟩) tells
      cases busy.symm.trans shown
      rfl

end Recounts

namespace History

variable {launches : List (Launch V)} {mentions : List (Mention V)} {system : System V}

theorem reachable (history : History launches mentions system) : Reachable system := by
  induction history with
  | start => exact .start
  | outside _ act inductionHypothesis => exact inductionHypothesis.step act.step
  | worker _ act inductionHypothesis => exact inductionHypothesis.step act.step

theorem manned (history : History launches mentions system) : system.Manned :=
  history.reachable.manned

/-- The events of every history can be told run by run. -/
theorem recounts (history : History launches mentions system) :
    Recounts launches mentions system := by
  induction history with
  | start => exact .start
  | outside past act inductionHypothesis =>
      have spared := act.spared past.manned rfl
      exact inductionHypothesis.outside past.reachable act.step spared.hands spared.events
  | @worker launches mentions before after id past act inductionHypothesis =>
      obtain ⟨host, known, found, works⟩ := act.works past.manned rfl
      have since := Session.eventsSince_of_append works.events
      unfold launched mentioned
      cases idle : before.hand? id with
      | some hand =>
          rw [since, List.append_nil]
          exact inductionHypothesis.goesOn past.reachable act.step works found idle
      | none =>
          cases busy : after.hand? id with
          | none =>
              rw [List.append_nil, Option.none_or, List.append_nil]
              have beat := works.beat
              rw [idle, busy] at beat
              cases beat
              refine inductionHypothesis.outside past.reachable act.step (fun other => ?_) ?_
              · by_cases own : other = id
                · rw [own, busy, idle]
                · exact works.others other own
              · rw [← Array.toList_inj, works.events, List.append_nil]
          | some hand =>
              obtain ⟨earlier, later, there, seen, pending, fired⟩ := act.begins rfl idle busy
              cases found.symm.trans there
              obtain ⟨_, again, same, run⟩ := act.step.evolves.old found
              cases seen.symm.trans same
              rw [Option.none_or, since]
              exact inductionHypothesis.begins past.reachable act.step works found idle busy pending
                seen fired run.settings

end History

end System

end Agenda
