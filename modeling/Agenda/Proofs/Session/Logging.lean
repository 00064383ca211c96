import Agenda.Proofs.Scheduler.Tales
import Agenda.Proofs.Scheduler.Writing
import Agenda.Proofs.Session.Grouping
import Agenda.Proofs.Session.Recording
import Agenda.Proofs.System.Living
import Agenda.Proofs.System.Settled

/-!
# What a session logs of its schedulers

The lines of the level `info` are those of the milestones.  An answer has the lines of all schedulers
since the answer before, sorted.  The lines of a single scheduler, in the order in which they are logged,
are told answer after answer, and together they are one tale.
-/

namespace Agenda

universe u

variable {V : Type u}

/-- What is told of a scheduler is what happened to it in a run. -/
structure Tale.Fits (tale : Tale) (record : List (System V × Operation V)) (id : SchedulerId)
    (host : Scheduler (Work V)) : Prop where
  forestalled : tale.forestalled = true ↔
    ∃ entry ∈ record, entry.2.shutsOutside entry.1 id = true ∧
      ∃ shut, entry.1.scheduler? id = some shut ∧ shut.stopped = false ∧ shut.worker = .starting
  outside : tale.forestalled = true ∨ tale.shutdown = some .outside ↔
    ∃ entry ∈ record, entry.2.shutsOutside entry.1 id = true ∧
      ∃ shut, entry.1.scheduler? id = some shut ∧ shut.stopped = false
  inside : ∀ {queued}, tale.shutdown = some (.inside queued) ↔
    ∃ entry ∈ record, entry.2.shutsInside entry.1 id = true ∧
      ∃ shut, entry.1.scheduler? id = some shut ∧ shut.stopped = false ∧ queued = shut.size
  abandoned : ∀ {queued}, tale.abandoned = some queued ↔
    ∃ entry ∈ record, entry.2.abandons entry.1 id = true ∧ queued = (entry.1.queued id).length
  token : tale.abandoned.isSome = true ↔
    host.worker = .exited ∧ ∃ entry ∈ record, entry.2.looks entry.1 id = true ∧
      ∃ ended, entry.1.scheduler? id = some ended ∧
        (entry.1.isCancelled ended.settings.token = true ∨ entry.1.keepsScheduler id = false)
  stopped : tale.stopped = true ↔ host.worker = .exited

theorem Tale.Tells.fits {tale : Tale} {record : List (System V × Operation V)} {last : System V}
    {id : SchedulerId} {host : Scheduler (Work V)} (tells : tale.Tells host.name host.milestones)
    (lives : System.LivesOut record last id host) : tale.Fits record id host where
  forestalled := tells.forestalled.trans lives.forestalled
  outside := tells.outside.trans lives.closes
  inside := tells.inside.trans lives.drains
  abandoned := by
    intro queued
    simp only [tells.abandoned, lives.abandons]
    constructor
    · rintro ⟨_, ⟨entry, done, gives, rfl⟩, rfl⟩
      exact ⟨entry, done, gives, List.length_map _⟩
    · rintro ⟨entry, done, gives, rfl⟩
      exact ⟨_, ⟨entry, done, gives, rfl⟩, (List.length_map _).symm⟩
  token := by
    rw [← lives.token, Option.isSome_iff_exists]
    simp only [tells.abandoned]
    exact ⟨fun ⟨_, ids, given, _⟩ => ⟨ids, given⟩, fun ⟨ids, given⟩ => ⟨_, ids, given, rfl⟩⟩
  stopped := by
    rw [tells.stopped, ← List.count_pos_iff, lives.stopped, ← Worker.phase_eq_exited_iff]
    split <;> simp [*]

namespace Session

/-- Whether a line is one of the level `info`, to judge by how it begins. -/
def isInfo (line : String) : Bool := "INFO ".toList.isPrefixOf line.toList

/-- The lines of the level `info` of the scheduler `id` that `before` does not have, in order. -/
def news (before after : System V) (id : SchedulerId) : List String :=
  ((after.scheduler? id).map fun scheduler =>
    (((scheduler.journal.toList.drop
      (((before.scheduler? id).map fun old => old.journal.size).getD 0)).filterMap
        (Notice.line? scheduler.name)).filter fun line => line.level = .info).map
          LogLine.render).getD []

/-- The lines of the level `info` of the scheduler `id` that belong to an answer, in order. -/
def linesOf (commands : List (Command V)) (count : Nat) (id : SchedulerId) : List String :=
  news (after {} (commands.take count)) (after {} (commands.take (count + 1))) id

/-- What a session makes known of the lives of its schedulers. -/
structure Logs (commands : List (Command V)) : Prop where
  /-- The lines of an answer are those of the single schedulers, sorted. -/
  shown : ∀ {count : Nat} {answer : Answer V}, (answers commands)[count]? = some answer →
    answer.lines.filter isInfo =
      ((List.range (after {} (commands.take (count + 1))).schedulers.size).flatMap fun index =>
        linesOf commands count ⟨index⟩).mergeSort labelLE
  absent : ∀ {count : Nat} {id : SchedulerId},
    (after {} (commands.take count)).scheduler? id = none →
      ∀ earlier < count, linesOf commands earlier id = []
  /-- From the answer on in which a scheduler is created, its lines up to any answer tell one tale. -/
  tales : ∀ {count : Nat} {id : SchedulerId} {host : Scheduler (Work V)},
    (after {} (commands.take count)).scheduler? id = some host → ∃ tale : Tale,
      ((List.range count).flatMap fun earlier => linesOf commands earlier id) = tale.lines host.name ∧
        ∀ {record : List (System V × Operation V)},
          System.Course {} record (after {} (commands.take count)) → tale.Fits record id host
  runs : ∀ count, ∃ record, System.Course {} record (after {} (commands.take count))
  final : ∀ {count : Nat} {id : SchedulerId} {host : Scheduler (Work V)},
    (after {} (commands.take count)).scheduler? id = some host → host.worker = .exited →
      ∀ later, count ≤ later → linesOf commands later id = []
  /-- At every moment on the way each scheduler is in the middle of one life. -/
  lives : ∀ {record : List (System V × Operation V)} {last : System V} {id : SchedulerId}
    {host : Scheduler (Work V)}, System.Course {} record last →
      System.Leads last (after {} commands) → last.scheduler? id = some host →
        System.LivesOut record last id host

section Lines

variable {before middle after : System V} {id : SchedulerId}

theorem isInfo_render (line : LogLine) : isInfo line.render = decide (line.level = .info) := by
  obtain ⟨level, text⟩ := line
  cases level <;> simp [isInfo, LogLine.render, Level.name, List.isPrefixOf]

theorem line?_filter (name : String) (notice : Notice) :
    (notice.line? name).filter (fun line => line.level = .info) =
      if notice.isMilestone then notice.line? name else none := by
  cases notice <;> rfl

theorem filter_filterMap_line? (name : String) (notices : List Notice) :
    (notices.filterMap (Notice.line? name)).filter (fun line => line.level = .info) =
      (notices.filter Notice.isMilestone).filterMap (Notice.line? name) := by
  rw [List.filter_filterMap, List.filterMap_filter]
  simp only [line?_filter]

theorem level_line_ne (name : String) (notice : CacheNotice) : (notice.line name).level ≠ .info := by
  cases notice <;> nofun

theorem filter_cacheLinesSince (before after : System V) :
    (cacheLinesSince before after).filter (fun line => line.level = .info) = [] := by
  rw [List.filter_eq_nil_iff]
  intro line listed
  obtain ⟨pair, _, shown⟩ := List.mem_flatMap.1 listed
  obtain ⟨notice, _, same⟩ := List.mem_map.1 shown
  rw [← same, decide_eq_true_eq]
  exact level_line_ne _ notice

theorem flatMap_zipIdx {α β : Type*} (items : List α) (image : α × Nat → List β) :
    items.zipIdx.flatMap image = (List.range items.length).flatMap fun index =>
      ((items[index]?).map fun item => image (item, index)).getD [] := by
  rw [List.flatMap_def, List.flatMap_def]
  congr 1
  refine List.ext_getElem? fun index => ?_
  by_cases inside : index < items.length
  · simp [inside]
  · have outside : items.length ≤ index := Nat.not_lt.1 inside
    simp [outside]

theorem filter_linesSince (before after : System V) :
    (linesSince before after).filter isInfo =
      ((List.range after.schedulers.size).flatMap fun index => news before after ⟨index⟩).mergeSort
        labelLE := by
  have levels : isInfo ∘ LogLine.render = fun line => decide (line.level = .info) :=
    funext isInfo_render
  rw [linesSince, filter_mergeSort labelLE_trans labelLE_total, List.filter_map, levels,
    List.filter_append, filter_cacheLinesSince, List.append_nil, schedulerLinesSince,
    List.filter_flatMap, List.map_flatMap, flatMap_zipIdx, Array.length_toList]
  simp only [Array.getElem?_toList]
  rfl

theorem news_of_found {host : Scheduler (Work V)} (found : after.scheduler? id = some host) :
    news before after id = Notice.story host.name ((host.journal.toList.drop
      (((before.scheduler? id).map fun old => old.journal.size).getD 0)).filter
        Notice.isMilestone) := by
  rw [news, found, Option.map_some, Option.getD_some, filter_filterMap_line?, Notice.story]

def storyOf (system : System V) (id : SchedulerId) : List String :=
  ((system.scheduler? id).map fun host => Notice.story host.name host.milestones).getD []

theorem storyOf_of_found {system : System V} {host : Scheduler (Work V)}
    (found : system.scheduler? id = some host) :
    storyOf system id = Notice.story host.name host.milestones := by
  rw [storyOf, found]
  rfl

theorem storyOf_eq_append (leads : System.Leads before after) (id : SchedulerId) :
    storyOf after id = storyOf before id ++ news before after id := by
  cases earlier : before.scheduler? id with
  | none =>
      cases found : after.scheduler? id with
      | none => simp [storyOf, news, earlier, found]
      | some host =>
          rw [storyOf_of_found found, news_of_found found, storyOf, earlier]
          rfl
  | some old =>
      obtain ⟨_, host, found, run⟩ := leads.evolves.old earlier
      obtain ⟨news, grown⟩ := run.writesOn
      have name : host.name = old.name := congrArg Settings.name run.settings
      have drops : host.journal.toList.drop old.journal.size = news := by
        rw [← Array.length_toList, ← grown, List.drop_left]
      rw [storyOf_of_found found, storyOf_of_found earlier, news_of_found found, earlier,
        Option.map_some, Option.getD_some, drops, name, ← Notice.story_append, Scheduler.milestones,
        Scheduler.milestones, ← grown, List.filter_append]

/-- The exit of the worker is the end of the story. -/
theorem storyOf_of_exited (leads : System.Leads before after) {host : Scheduler (Work V)}
    (found : before.scheduler? id = some host) (lives : host.Lives) (exited : host.worker = .exited) :
    storyOf after id = storyOf before id := by
  obtain ⟨_, still, seen, run⟩ := leads.evolves.old found
  have same := (run.milestones_of_exited lives exited).2
  have name : still.name = host.name := congrArg Settings.name run.settings
  rw [storyOf_of_found seen, storyOf_of_found found, same, name]

end Lines

section Commands

variable (commands : List (Command V))

theorem leads_after_take {count later : Nat} (order : count ≤ later) :
    System.Leads (after {} (commands.take count)) (after {} (commands.take later)) := by
  obtain ⟨further, rfl⟩ := Nat.exists_eq_add_of_le order
  have before : Proceeds {} (after {} (commands.take count)) := .commands .start rfl _
  rw [List.take_add, after_append]
  exact (Proceeds.commands before.reachable before.bookings _).leads

theorem reachable_after (commands : List (Command V)) : System.Reachable (after {} commands) :=
  (Proceeds.commands .start rfl commands).reachable

theorem flatMap_linesOf (count : Nat) (id : SchedulerId) :
    ((List.range count).flatMap fun earlier => linesOf commands earlier id) =
      storyOf (after {} (commands.take count)) id := by
  induction count with
  | zero => rfl
  | succ count inductionHypothesis =>
      rw [List.range_succ, List.flatMap_append, inductionHypothesis, List.flatMap_singleton,
        storyOf_eq_append (leads_after_take commands (Nat.le_succ count)) id, linesOf]

theorem phase_ne_starting {id : SchedulerId} {host : Scheduler (Work V)}
    (found : (after {} commands).scheduler? id = some host) : host.worker.phase ≠ .starting := by
  rcases List.eq_nil_or_concat commands with rfl | ⟨earlier, command, rfl⟩
  · cases found
  · rw [List.concat_eq_append, after_append] at found
    rw [ne_eq, Worker.phase_eq_starting_iff]
    intro starting
    have settled : (after (after {} earlier) [command]).IsSettled := System.isSettled_settle _
    have still := settled.moveWorker?_eq_none id
    rw [System.moveWorker?, found] at still
    simp [starting, Scheduler.wake?] at still

theorem getElem?_answersFrom (system : System V) (count : Nat) :
    (answersFrom system commands)[count]? =
      commands[count]?.map fun command => (step (after system (commands.take count)) command).1 := by
  induction commands generalizing system count with
  | nil => rfl
  | cons command commands inductionHypothesis =>
      cases count with
      | zero => rfl
      | succ count => exact inductionHypothesis _ count

theorem after_take_succ {count : Nat} {command : Command V} (listed : commands[count]? = some command) :
    after {} (commands.take (count + 1)) = (step (after {} (commands.take count)) command).2 := by
  rw [List.take_add_one, listed, after_append]
  rfl

end Commands

/-- In every session each scheduler tells one life, line by line. -/
theorem logs (commands : List (Command V)) : Logs commands where
  shown := by
    intro count answer shown
    rw [answers, getElem?_answersFrom] at shown
    obtain ⟨command, listed, rfl⟩ := Option.map_eq_some_iff.1 shown
    unfold linesOf
    rw [after_take_succ commands listed]
    exact filter_linesSince _ _
  absent := by
    intro count id none earlier before
    have silent := flatMap_linesOf commands count id
    rw [storyOf, none] at silent
    exact List.flatMap_eq_nil_iff.1 silent earlier (List.mem_range.2 before)
  tales := by
    intro count id host found
    have reachable := reachable_after (commands.take count)
    obtain ⟨tale, tells⟩ := (reachable.lives found).exists_tale
      (phase_ne_starting _ found) host.name
    refine ⟨tale, ?_, fun course => ?_⟩
    · rw [flatMap_linesOf, storyOf_of_found found, tells.lines]
    · exact tells.fits (course.livesOut found)
  runs count := System.Course.of_leads (Proceeds.commands .start rfl _).leads
  final := by
    intro count id host found exited later order
    have lives := (reachable_after (commands.take count)).lives found
    have grown := storyOf_eq_append (leads_after_take commands (Nat.le_succ later)) id
    rw [storyOf_of_exited (leads_after_take commands order) found lives exited,
      storyOf_of_exited (leads_after_take commands (Nat.le_succ_of_le order)) found lives exited]
      at grown
    exact List.append_right_eq_self.1 grown.symm
  lives course _ found := course.livesOut found

/-- A task stops its scheduler while two entries are queued, one of them cancelled, and the token ends
what was to be drained.  The two shutdowns from outside are told of nowhere. -/
theorem logs_of_inner_shutdown :
    ∃ commands : List (Command Nat), Logs commands ∧
      ((List.range 9).flatMap fun count => linesOf commands count ⟨0⟩) =
        ["INFO Task manager 'M' started",
          "INFO Task manager 'M' stopping from inside a task, draining 2 task(s)",
          "INFO Task manager 'M' cancelled via token, abandoned 2 task(s)",
          "INFO Task manager 'M' stopped"] :=
  ⟨[.deed (.request (.create "main" { name := "M", token := .named "stop" })),
    .deed (.submit "main" "late" (.at 90) .done), .deed (.submit "main" "later" (.at 95) .done),
    .deed (.request (.cancel "main" "late")),
    .deed (.submit "main" "inner" (.at 0) (.part (.shutdown "main") (.wait "gate" .done))),
    .deed (.part (.shutdown "main") "first"), .deed (.request (.cancelToken "stop")),
    .deed (.request (.openGate "gate")), .deed (.part (.shutdown "main") "second")],
    logs _, by decide +kernel⟩

/-- A task creates a scheduler and shuts it down, and the worker of that one comes up only then. -/
theorem linesOf_of_hasty_shutdown :
    ∃ commands : List (Command Nat),
      ((List.range 2).flatMap fun count => linesOf commands count ⟨1⟩) =
        ["INFO Task manager 'X' shutting down", "INFO Task manager 'X' started",
          "INFO Task manager 'X' stopped"] ∧
      ¬ ∃ rest, ((List.range 2).flatMap fun count => linesOf commands count ⟨1⟩) =
        "INFO Task manager 'X' started" :: rest := by
  have hasty : ((List.range 2).flatMap fun count =>
      linesOf ([.deed (.request (.create "a" { name := "A" })),
        .deed (.submit "a" "task" (.at 0) (.request (.create "x" { name := "X" })
          (.part (.shutdown "x") .done)))] : List (Command Nat)) count ⟨1⟩) =
      ["INFO Task manager 'X' shutting down", "INFO Task manager 'X' started",
        "INFO Task manager 'X' stopped"] := by
    decide +kernel
  refine ⟨_, hasty, ?_⟩
  rw [hasty]
  rintro ⟨rest, same⟩
  exact absurd (List.cons.inj same).1 (by decide)

end Session

end Agenda
