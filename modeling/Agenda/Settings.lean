import Agenda.Text.Quoted
import Agenda.Text.Record

/-!
What a scheduler is set up with: its name, the token that stops it, and a hook for failures.
-/

namespace Agenda

/-- A stop signal.  Whoever holds a token can cancel it, once and for all. -/
inductive Token where
  /-- The token that settings come with: nobody else holds it. -/
  | own
  /-- A token under a name, which any number of schedulers may share. -/
  | named (name : String)
  deriving DecidableEq, Repr

/-- What is called when a task panics: it reports the failure under a label, and may then panic
itself. -/
structure Hook where
  label : String
  panics : Bool
  deriving DecidableEq, Repr

structure Settings where
  name : String := "task_manager"
  token : Token := .own
  hook : Option Hook := none
  deriving DecidableEq, Repr

namespace Settings

def threadName (settings : Settings) : String := settings.name ++ "-worker"

def debugText (settings : Settings) (cancelled : Bool) : String :=
  Text.record "TaskManagerConfig"
    [("name", Text.quoted settings.name), ("cancelled", Text.truth cancelled),
      ("failure_hook", Text.truth settings.hook.isSome)]

inductive Step where
  | setToken (token : Token)
  | setHook (hook : Hook)
  | cancel (token : Token)
  /-- Cancels the token that the settings hold at that moment. -/
  | cancelHeld
  /-- Goes on with a copy, which holds the same token. -/
  | copy
  deriving DecidableEq, Repr

structure View where
  name : String
  cancelled : Bool
  hook : Bool
  debug : String
  deriving DecidableEq, Repr

structure Draft where
  settings : Settings
  cancelled : List Token := []
  deriving Repr

namespace Draft

def isCancelled (draft : Draft) : Bool := draft.cancelled.contains draft.settings.token

def view (draft : Draft) : View where
  name := draft.settings.name
  cancelled := draft.isCancelled
  hook := draft.settings.hook.isSome
  debug := draft.settings.debugText draft.isCancelled

def perform (draft : Draft) : Step → Draft
  | .setToken token => { draft with settings.token := token }
  | .setHook hook => { draft with settings.hook := some hook }
  | .cancel token => { draft with cancelled := token :: draft.cancelled }
  | .cancelHeld => { draft with cancelled := draft.settings.token :: draft.cancelled }
  | .copy => draft

def views (draft : Draft) : List Step → List View
  | [] => []
  | step :: steps => (draft.perform step).view :: (draft.perform step).views steps

end Draft

end Settings

end Agenda
