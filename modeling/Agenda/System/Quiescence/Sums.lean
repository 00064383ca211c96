/-!
Sums over a list of which one place changes.
-/

namespace Agenda

universe u

variable {α : Type u}

def total (f : α → Nat) : List α → Nat
  | [] => 0
  | item :: items => f item + total f items

@[simp]
theorem total_nil (f : α → Nat) : total f [] = 0 := rfl

@[simp]
theorem total_cons (f : α → Nat) (item : α) (items : List α) :
    total f (item :: items) = f item + total f items := rfl

@[simp]
theorem total_append (f : α → Nat) (items others : List α) :
    total f (items ++ others) = total f items + total f others := by
  induction items with
  | nil => simp
  | cons first rest inductionHypothesis =>
      simp only [List.cons_append, total_cons]
      omega

theorem total_perm (f : α → Nat) {items others : List α} (moved : items.Perm others) :
    total f items = total f others := by
  induction moved with
  | nil => rfl
  | cons item _ inductionHypothesis => simp only [total_cons, inductionHypothesis]
  | swap first second rest =>
      simp only [total_cons]
      omega
  | trans _ _ before after => exact before.trans after

theorem total_set (f : α → Nat) {items : List α} {index : Nat} {old : α} (new : α)
    (found : items[index]? = some old) :
    total f (items.set index new) + f old = total f items + f new := by
  induction items generalizing index with
  | nil => simp at found
  | cons first rest inductionHypothesis =>
      cases index with
      | zero =>
          simp only [List.getElem?_cons_zero, Option.some.injEq] at found
          subst found
          simp only [List.set_cons_zero, total_cons]
          omega
      | succ index =>
          simp only [List.getElem?_cons_succ] at found
          have := inductionHypothesis found
          simp only [List.set_cons_succ, total_cons]
          omega

theorem total_eraseIdx (f : α → Nat) {items : List α} {index : Nat} {old : α}
    (found : items[index]? = some old) :
    total f (items.eraseIdx index) + f old = total f items := by
  induction items generalizing index with
  | nil => simp at found
  | cons first rest inductionHypothesis =>
      cases index with
      | zero =>
          simp only [List.getElem?_cons_zero, Option.some.injEq] at found
          subst found
          simp only [List.eraseIdx_cons_zero, total_cons]
          omega
      | succ index =>
          simp only [List.getElem?_cons_succ] at found
          have := inductionHypothesis found
          simp only [List.eraseIdx_cons_succ, total_cons]
          omega

theorem total_map_le {f : α → Nat} (change : α → α) (below : ∀ item, f (change item) ≤ f item)
    (items : List α) : total f (items.map change) ≤ total f items := by
  induction items with
  | nil => simp
  | cons first rest inductionHypothesis =>
      have := below first
      simp only [List.map_cons, total_cons]
      omega

theorem total_mapIdx_le (f : α → Nat) (change : Nat → α → α)
    (below : ∀ index item, f (change index item) ≤ f item) (items : List α) :
    total f (items.mapIdx change) ≤ total f items := by
  induction items generalizing change with
  | nil => simp
  | cons first rest inductionHypothesis =>
      have head := below 0 first
      have tail := inductionHypothesis (fun index => change (index + 1))
        (fun index item => below (index + 1) item)
      simp only [List.mapIdx_cons, total_cons]
      omega

theorem total_le_length (f : α → Nat) (bound : Nat) (items : List α)
    (below : ∀ item, f item ≤ bound) : total f items ≤ bound * items.length := by
  induction items with
  | nil => simp
  | cons first rest inductionHypothesis =>
      have := below first
      simp only [total_cons, List.length_cons, Nat.mul_succ]
      omega

end Agenda
