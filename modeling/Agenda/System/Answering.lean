import Agenda.System.Caching

/-!
The answers to calls that do not wait for other threads.
-/

namespace Agenda.System

universe u

variable {V : Type u}

def submit (system : System V) (scheduler handle : Label) (due : Due) (script : Script V) :
    Reply V × System V :=
  match system.schedulerAt? scheduler with
  | none => (.noScheduler, system)
  | some (id, target) =>
      match due.instant? system.now with
      | none => (.overflow, system)
      | some instant =>
          match system.submit? id instant (.task scheduler handle script) with
          | none => (.refused target.refusal, system)
          | some (task, system) =>
              (.accepted task, { system with handles := system.handles.insert handle ⟨id, task⟩ })

/-- Cancels a task that a caller keeps hold of, by way of a scheduler that need not be its
own. -/
def cancel (system : System V) (scheduler handle : Label) : Reply V × System V :=
  match system.schedulerAt? scheduler, system.handles[handle]? with
  | none, _ => (.noScheduler, system)
  | _, none => (.noHandle, system)
  | some (id, target), some held =>
      if held.scheduler = id then
        let (cancelled, system) := system.cancelTask id held.id
        (.flag cancelled, system)
      else
        let (cancelled, changed) := target.disown held.id
        (.flag cancelled, system.putScheduler id changed)

def fateOf (system : System V) (handle : Label) : Reply V :=
  match system.handles[handle]? with
  | none => .noHandle
  | some held =>
      match (system.scheduler? held.scheduler).bind fun target => target.roster.fate? held.id with
      | none => .noHandle
      | some fate => .fate held.id fate

def inspect (system : System V) (scheduler : Label) (query : SchedulerQuery) : Reply V :=
  match system.schedulerAt? scheduler with
  | none => .noScheduler
  | some (_, target) =>
      match query with
      | .size => .count target.size
      | .isEmpty => .flag target.isEmpty
      | .isStopped => .flag target.isStopped
      | .name => .text target.name
      | .debug => .text target.debugText

def labelScheduler (system : System V) (label : Label) (id : SchedulerId) : System V :=
  { system with schedulerLabels := system.schedulerLabels.insert label id }.sweep

def labelNewCache (system : System V) (label : Label) (scheduler : SchedulerId) : System V :=
  let (id, system) := system.createCache scheduler
  { system with cacheLabels := system.cacheLabels.insert label id }.sweep

def create (system : System V) (label : Label) (settings : Settings) : Reply V × System V :=
  let (id, system) := system.createScheduler settings
  (.ok, system.labelScheduler label id)

/-- A new cache under a label, on a scheduler that has a label. -/
def createCacheOn (system : System V) (label scheduler : Label) : Reply V × System V :=
  match system.schedulerAt? scheduler with
  | none => (.noScheduler, system)
  | some (id, _) => (.ok, system.labelNewCache label id)

/-- A new cache under a label, on a new scheduler that has none. -/
def createCacheAlone (system : System V) (label : Label) (settings : Settings) :
    Reply V × System V :=
  let (id, system) := system.createScheduler settings
  (.ok, system.labelNewCache label id)

def schedulerOf (system : System V) (cache scheduler : Label) : Reply V × System V :=
  match system.cacheAt? cache with
  | none => (.noCache, system)
  | some (_, found) => (.ok, system.labelScheduler scheduler found.scheduler)

/-- Both parts of an access to a cache at once, as soon as its lock allows. -/
def access? (system : System V) (label : Label) (key : String) (access : Access V) :
    Option (Reply V × System V) :=
  match system.cacheAt? label with
  | none => some (.noCache, system)
  | some (id, cache) =>
      if system.isAccessible id key access then
        match system.book id cache key access with
        | .error reply => some (reply, system)
        | .ok (booking, system) => some (system.confirm booking)
      else
        none

def delete? (system : System V) (label : Label) (key : String) : Option (Reply V × System V) :=
  match system.cacheAt? label with
  | none => some (.noCache, system)
  | some (id, cache) => if system.isUnlocked id then some (system.delete id cache key) else none

def consult? (system : System V) (label : Label) (query : CacheQuery) : Option (Reply V) :=
  match system.cacheAt? label with
  | none => some .noCache
  | some (id, cache) =>
      if system.isReadable id then some (system.consult cache query) else none

/-- The answer to a request, or nothing while the request has to wait for a lock. -/
def answer? (system : System V) : Request V → Option (Reply V × System V)
  | .create label settings => some (system.create label settings)
  | .inspect scheduler query => some (system.inspect scheduler query, system)
  | .cancel scheduler handle => some (system.cancel scheduler handle)
  | .fateOf handle => some (system.fateOf handle, system)
  | .cancelToken token => some (.ok, system.cancelToken token)
  | .isCancelled token => some (.flag (system.isCancelled (.named token)), system)
  | .openGate gate => some (.ok, system.openGate gate)
  | .createCacheOn label scheduler => some (system.createCacheOn label scheduler)
  | .createCacheAlone label settings => some (system.createCacheAlone label settings)
  | .schedulerOf cache scheduler => some (system.schedulerOf cache scheduler)
  | .access label key access => system.access? label key access
  | .delete label key => system.delete? label key
  | .consult label query => (system.consult? label query).map (·, system)

theorem snd_eq_of_some {reply : Reply V} {after : System V} {result : Reply V × System V}
    (answered : some result = some (reply, after)) : result.2 = after :=
  congrArg Prod.snd (Option.some.inj answered)

end Agenda.System
