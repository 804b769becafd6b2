import Mathlib.Data.List.Basic

/-! Plans. The requests of a plan are made in order, the `k`-th answered with `grant k`,
until the first that is not granted. -/
namespace GrpcCbCore.Library.Plan

variable {α : Type*} {grant : Nat → Bool} {front rest : List α} {made : List (α × Bool)}

/-- The requests of a plan that are made, from the `k`-th on, with their answers. -/
def carriedOut (grant : Nat → Bool) : Nat → List α → List (α × Bool)
  | _, [] => []
  | k, x :: rest => (x, grant k) :: if grant k then carriedOut grant (k + 1) rest else []

/-- A plan that begins with `front` is carried out so far, and goes on. -/
structure Going (grant : Nat → Bool) (front : List α) (made : List (α × Bool)) : Prop where
  granted : made = front.map (·, true)
  plan : ∀ rest, carriedOut grant 0 (front ++ rest) = made ++ carriedOut grant front.length rest

/-- A plan that begins with `front` has come to a request that was not granted, its last. -/
structure Halted (grant : Nat → Bool) (front : List α) (made : List (α × Bool)) : Prop where
  last : made.getLast? = front.getLast?.map (·, false)
  plan : ∀ rest, carriedOut grant 0 (front ++ rest) = made

theorem Going.nil (grant : Nat → Bool) : Going grant ([] : List α) [] :=
  ⟨rfl, fun _ => rfl⟩

theorem Going.next (h : Going grant front made) (x : α) (hgrant : grant front.length = true) :
    Going grant (front ++ [x]) (made ++ [(x, true)]) := by
  refine ⟨by rw [h.granted, List.map_append]; rfl, fun rest => ?_⟩
  rw [List.append_assoc, h.plan, List.singleton_append, carriedOut, hgrant, if_pos rfl,
    List.length_append, List.length_singleton, List.append_assoc, List.singleton_append]

theorem Going.halt (h : Going grant front made) (x : α) (hgrant : grant front.length = false) :
    Halted grant (front ++ [x]) (made ++ [(x, false)]) := by
  refine ⟨by simp, fun rest => ?_⟩
  rw [List.append_assoc, h.plan, List.singleton_append, carriedOut, hgrant, if_neg (by simp)]

theorem Going.done (h : Going grant front made) : carriedOut grant 0 front = made := by
  simpa [carriedOut] using h.plan []

theorem Halted.of_initial (h : Halted grant front made) {plan : List α} (hfront : front <+: plan) :
    carriedOut grant 0 plan = made := by
  obtain ⟨rest, rfl⟩ := hfront
  exact h.plan rest

end GrpcCbCore.Library.Plan
