import Agenda.Proofs.Session.Grouping
import Agenda.Proofs.System.Working

/-!
# What the answers of a session show

Every event of a session is shown by one of its answers.  Under each label the answers show the
events in the order in which they became known.
-/

namespace Agenda.Session

universe u

variable {V : Type u}

def ofLabel (label : Label) (events : List (Event V)) : List (Event V) :=
  events.filter fun event => event.scheduler = label

theorem ofLabel_append (label : Label) (first second : List (Event V)) :
    ofLabel label (first ++ second) = ofLabel label first ++ ofLabel label second :=
  List.filter_append ..

/-- These events are shown, label by label, of what became known between two systems. -/
structure Shows (events : List (Event V)) (before after : System V) : Prop where
  known : ∃ known, after.events.toList = before.events.toList ++ known ∧
    ∀ label, ofLabel label events = ofLabel label known

namespace Shows

variable {system before middle after : System V} {first second : List (Event V)}

theorem nothing (same : after.events = before.events) : Shows [] before after := by
  refine ⟨[], ?_, fun _ => rfl⟩
  rw [same, List.append_nil]

theorem trans (earlier : Shows first before middle) (later : Shows second middle after) :
    Shows (first ++ second) before after := by
  obtain ⟨said, grown, shown⟩ := earlier
  obtain ⟨news, further, showing⟩ := later
  refine ⟨said ++ news, ?_, fun label => ?_⟩
  · rw [further, grown, List.append_assoc]
  · rw [ofLabel_append, ofLabel_append, shown, showing]

theorem settle (system : System V) : Shows (Session.settle system).1 system system.settle := by
  obtain ⟨_, _, _, known, tells⟩ := (System.leads_settle system).informs
  refine ⟨known, tells.events, fun label => ?_⟩
  rw [Session.settle, eventsSince_of_append tells.events]
  exact filter_label_grouped label known

theorem pass (ticks : Nat) (system : System V) :
    Shows (Session.pass ticks system).1 system (Session.pass ticks system).2 := by
  induction ticks generalizing system with
  | zero => exact .nothing rfl
  | succ ticks inductionHypothesis =>
      have passes : Shows [] system
          { system with now := system.now + Clock.ofMillis tickMillis 0 } := .nothing rfl
      exact passes.trans ((settle _).trans (inductionHypothesis _))

theorem performAll (system : System V) (deeds : List (Deed V)) :
    Shows [] system (Session.performAll system deeds).2 := by
  induction deeds generalizing system with
  | nil => exact .nothing rfl
  | cons deed deeds inductionHypothesis =>
      have performs : Shows [] system (perform system deed).2 :=
        .nothing (System.events_perform system deed)
      exact performs.trans (inductionHypothesis _)

theorem performThreads (system : System V) (threads : List (List (Deed V))) :
    Shows [] system (Session.performThreads system threads).2 := by
  induction threads generalizing system with
  | nil => exact .nothing rfl
  | cons deeds threads inductionHypothesis =>
      exact (performAll system deeds).trans (inductionHypothesis _)

theorem accessSlowly (system : System V) (millis : Nat) (label : Label) (key : String)
    (access : Access V) :
    Shows (Session.accessSlowly system millis label key access).2.1 system
      (Session.accessSlowly system millis label key access).2.2 := by
  unfold Session.accessSlowly
  split
  · exact .nothing rfl
  · split
    · exact .nothing rfl
    · rename_i booking locked booked
      have books : Shows [] system locked := .nothing (System.Quiet.book booked).events
      have confirms (passed : System V) : Shows [] passed (passed.confirm booking).2 :=
        .nothing (System.Quiet.confirm passed booking).events
      have whole := books.trans ((pass (millis / tickMillis) locked).trans (confirms _))
      rw [List.nil_append, List.append_nil] at whole
      exact whole

theorem execute (system : System V) (command : Command V) :
    Shows (Session.execute system command).2.1 system (Session.execute system command).2.2 := by
  cases command with
  | deed deed => exact .nothing (System.events_perform system deed)
  | advance millis => exact pass (millis / tickMillis) system
  | slowAccess millis cache key access => exact accessSlowly system millis cache key access
  | parallel threads => exact performThreads system threads

theorem step (system : System V) (command : Command V) :
    Shows (Session.step system command).1.events system (Session.step system command).2 :=
  (execute system command).trans (settle _)

theorem answersFrom (system : System V) (commands : List (Command V)) :
    Shows ((Session.answersFrom system commands).flatMap Answer.events) system
      (Session.after system commands) := by
  induction commands generalizing system with
  | nil => exact .nothing rfl
  | cons command commands inductionHypothesis =>
      exact (step system command).trans (inductionHypothesis _)

end Shows

end Agenda.Session
