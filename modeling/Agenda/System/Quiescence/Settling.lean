import Agenda.System.Quiescence.Moves
import Agenda.System.Settling

/-!
Settling comes to rest.

Every move lowers the potential.  A worker's move spends stock, and so does a call's move, unless
it takes the call nearer to being parked and leaves all else as it is.  So the limit that `settle`
sets to itself is never reached: when it ends, no move is left.
-/

namespace Agenda

universe u

variable {V : Type u}

namespace System

variable {system : System V}

theorem restlessness_le (call : Call) : system.restlessness call ≤ 2 := by
  unfold restlessness
  split
  · omega
  · split <;> omega
  · omega

/-- The stages of the calls never outweigh the stock that a move of a worker spends. -/
theorem total_restlessness_le (system : System V) :
    total system.restlessness system.calls ≤ 2 * system.partings := by
  have bounded := total_le_length system.restlessness 2 system.calls restlessness_le
  unfold partings
  omega

theorem potential_lt_of_spends {moved : System V} (spends : Spends system moved) :
    moved.potential < system.potential := by
  obtain ⟨stock, partings⟩ := spends
  have stages := total_restlessness_le moved
  have product : (moved.stock + 1) * (2 * moved.partings + 1)
      ≤ system.stock * (2 * system.partings + 1) :=
    Nat.mul_le_mul (by omega) (by omega)
  rw [Nat.add_mul] at product
  unfold potential
  omega

theorem potential_lt_of_stages {moved : System V} (stock : moved.stock ≤ system.stock)
    (partings : moved.partings ≤ system.partings)
    (stages : total moved.restlessness moved.calls < total system.restlessness system.calls) :
    moved.potential < system.potential := by
  have product : moved.stock * (2 * moved.partings + 1)
      ≤ system.stock * (2 * system.partings + 1) :=
    Nat.mul_le_mul stock (by omega)
  unfold potential
  omega

theorem stock_endCall {position : Nat} {call : Call}
    (found : system.calls[position]? = some call) :
    (system.endCall position call).stock + call.weight ≤ system.stock ∧
      (system.endCall position call).partings ≤ system.partings := by
  have erased := total_eraseIdx Call.weight found
  have shorter := List.length_eraseIdx_le system.calls position
  obtain ⟨swept, _⟩ :=
    (costs_sweep { system with calls := system.calls.eraseIdx position }).then_free
      (costs_returnTo _ call.caller)
  simp only [endCall]
  simp only [stock, partings] at *
  constructor <;> omega

theorem stock_setStage {position : Nat} {call : Call}
    (found : system.calls[position]? = some call) (stage : Stage) :
    (system.setStage position call stage).stock + call.weight
      = system.stock + { call with stage }.weight := by
  have changed := total_set Call.weight { call with stage } found
  simp only [setStage, stock]
  omega

@[simp]
theorem partings_setStage (position : Nat) (call : Call) (stage : Stage) :
    (system.setStage position call stage).partings = system.partings := by
  simp [setStage, partings]

theorem stages_setStage {position : Nat} {call : Call}
    (found : system.calls[position]? = some call) (stage : Stage) :
    total (system.setStage position call stage).restlessness
        (system.setStage position call stage).calls + system.restlessness call
      = total system.restlessness system.calls + system.restlessness { call with stage } :=
  total_set system.restlessness { call with stage } found

theorem spends_close {position : Nat} {call : Call} {scheduler : Scheduler (Work V)}
    (found : system.calls[position]? = some call)
    (target : system.scheduler? call.scheduler = some scheduler)
    (checking : call.stage = .checking) :
    Spends system ((system.putScheduler call.scheduler scheduler.close).endCall position call) ∧
      Spends system ((system.putScheduler call.scheduler scheduler.close.join).setStage position
        call .joining) := by
  have closed : Costs system (system.putScheduler call.scheduler scheduler.close) 2 0 :=
    system.costs_putScheduler target (scheduler.weight_close_le system.now) (by simp)
  have joined : Costs system (system.putScheduler call.scheduler scheduler.close.join) 2 0 :=
    system.costs_putScheduler target (scheduler.weight_close_le system.now) (by simp)
  have weight : call.weight = 4 := by simp [Call.weight, checking]
  obtain ⟨_, _⟩ := closed
  obtain ⟨_, _⟩ := joined
  constructor
  · obtain ⟨_, _⟩ := stock_endCall
      (show (system.putScheduler call.scheduler scheduler.close).calls[position]? = some call
        from found)
    constructor <;> omega
  · have stock := stock_setStage
      (show (system.putScheduler call.scheduler scheduler.close.join).calls[position]? = some call
        from found) .joining
    simp only [Call.weight] at stock weight
    constructor
    · omega
    · simp only [partings_setStage]
      omega

/-- A move of a call lowers the potential: it spends stock, or it is a step towards a park. -/
theorem potential_lt_of_moveCall? {position : Nat} {moved : System V}
    (move : system.moveCall? position = some moved) : moved.potential < system.potential := by
  obtain ⟨call, found, onTarget⟩ := Option.bind_eq_some_iff.1 move
  obtain ⟨scheduler, target, taken⟩ := Option.bind_eq_some_iff.1 onTarget
  split at taken
  · rename_i checking
    obtain ⟨ended, waiting⟩ := spends_close found target checking
    split at taken
    · dsimp only at taken
      split at taken <;> cases taken
      · exact potential_lt_of_spends ended
      · exact potential_lt_of_spends waiting
    · cases taken
      have stock := stock_setStage found (.parked scheduler.drains)
      have stages := stages_setStage found (.parked scheduler.drains)
      have before : system.restlessness call = 1 := by simp [restlessness, checking]
      have after : system.restlessness { call with stage := .parked scheduler.drains } = 0 := by
        simp [restlessness, target]
      simp only [Call.weight, checking] at stock
      exact potential_lt_of_stages (by omega) (by simp) (by omega)
  · rename_i drains parked
    split at taken
    · cases taken
    · rename_i stale
      cases taken
      have stock := stock_setStage found .checking
      have stages := stages_setStage found .checking
      have before : system.restlessness call = 2 := by
        simp [restlessness, parked, target, stale]
      have after : system.restlessness { call with stage := .checking } = 1 := by
        simp [restlessness]
      simp only [Call.weight, parked] at stock
      exact potential_lt_of_stages (by omega) (by simp) (by omega)
  · split at taken <;> cases taken
    rename_i joining _
    obtain ⟨_, _⟩ := stock_endCall found
    have weight : call.weight = 1 := by simp [Call.weight, joining]
    exact potential_lt_of_spends (by constructor <;> omega)

theorem potential_lt_of_moveWorker? {id : SchedulerId} {moved : System V}
    (move : system.moveWorker? id = some moved) : moved.potential < system.potential := by
  obtain ⟨scheduler, found, taken⟩ := Option.bind_eq_some_iff.1 move
  split at taken
  · rename_i looking
    cases taken
    exact potential_lt_of_spends (spends_looking found looking)
  · rename_i busy
    split at taken
    · exact potential_lt_of_moveCall? taken
    · exact potential_lt_of_spends (spends_task found busy taken)
  · rename_i busy
    exact potential_lt_of_spends (spends_deletion found busy taken)
  · obtain ⟨woken, woke, same⟩ := Option.map_eq_some_iff.1 taken
    cases same
    exact potential_lt_of_spends (spends_wake found woke)

theorem potential_lt_of_move? {turn next : SchedulerId} {moved : System V}
    (move : system.move? turn = some (next, moved)) : moved.potential < system.potential := by
  unfold move? at move
  split at move
  · rename_i worker
    cases move
    obtain ⟨id, _, found⟩ := List.exists_of_findSome?_eq_some worker
    obtain ⟨_, byWorker, same⟩ := Option.map_eq_some_iff.1 found
    cases same
    exact potential_lt_of_moveWorker? byWorker
  · obtain ⟨_, calls, same⟩ := Option.map_eq_some_iff.1 move
    cases same
    obtain ⟨_, _, byCall⟩ := List.exists_of_findSome?_eq_some calls
    exact potential_lt_of_moveCall? byCall

def IsSettled (system : System V) : Prop := ∀ turn, system.move? turn = none

theorem isSettled_of_move? {turn : SchedulerId} (still : system.move? turn = none) :
    system.IsSettled := by
  unfold move? at still
  split at still
  · cases still
  · rename_i noWorker
    have parked (id : SchedulerId) : system.moveWorker? id = none := by
      by_cases inside : id.index < system.schedulers.size
      · have listed : id ∈ turn :: (List.range system.schedulers.size).map SchedulerId.mk :=
          List.mem_cons_of_mem _ (List.mem_map.2 ⟨id.index, List.mem_range.2 inside, rfl⟩)
        exact Option.map_eq_none_iff.1 (List.findSome?_eq_none_iff.1 noWorker id listed)
      · have absent : system.scheduler? id = none := by
          simp only [scheduler?, Array.getElem?_eq_none_iff]
          omega
        simp [moveWorker?, absent]
    intro other
    have noWorker : system.moveWorkers? other = none :=
      List.findSome?_eq_none_iff.2 fun id _ => by simp [parked id]
    have noCall : system.moveCalls? = none := Option.map_eq_none_iff.1 still
    simp [move?, noWorker, noCall]

theorem isSettled_settleWithin {limit : Nat} (turn : SchedulerId)
    (enough : system.potential ≤ limit) : (settleWithin limit turn system).IsSettled := by
  induction limit generalizing turn system with
  | zero =>
      intro other
      cases move : system.move? other with
      | none => exact move
      | some next =>
          have lower := potential_lt_of_move? move
          omega
  | succ limit inductionHypothesis =>
      unfold settleWithin
      split
      · rename_i still
        exact isSettled_of_move? still
      · rename_i move
        have lower := potential_lt_of_move? move
        exact inductionHypothesis _ (by omega)

theorem isSettled_settle (system : System V) : system.settle.IsSettled :=
  isSettled_settleWithin _ (Nat.le_refl _)

end System

end Agenda
