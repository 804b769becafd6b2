import Mathlib.Data.List.Nodup
import GrpcCbCore.Library.History

/-! Custody of objects that are made, handed to a queue, come back from it once, are
used and deleted; one that the queue does not accept is deleted by who made it. -/
namespace GrpcCbCore.Library

inductive Stage where
  | made
  | handed (accepted : Bool)
  | returned
  | used
  | deleted
  deriving DecidableEq, Repr

namespace Stage

/-- The life of an object that the queue holds, one that is in use, and one that has
been deleted either way. -/
def held : List Stage := [.made, .handed true]
def inUse : List Stage := held ++ [.returned]
def done : List Stage := inUse ++ [.used, .deleted]
def refused : List Stage := [.made, .handed false, .deleted]

end Stage

/-- What the queue holds, what has come back and is in use, and what has happened to
each object. -/
structure Custody (Obj : Type*) where
  held : List Obj := []
  inUse : Option Obj := none
  log : List (Obj × Stage) := []

namespace Custody

variable {Obj : Type*} [DecidableEq Obj]

def life (x : Obj) (log : List (Obj × Stage)) : List Stage :=
  collect (fun e => if e.1 = x then some e.2 else none) log

/-- The objects that are neither held nor in use are yet to be made, or gone. -/
structure Orderly (c : Custody Obj) : Prop where
  nodup : c.held.Nodup
  held : ∀ x ∈ c.held, life x c.log = Stage.held
  inUse : ∀ x, c.inUse = some x → life x c.log = Stage.inUse
  rest : ∀ x, x ∉ c.held → c.inUse ≠ some x →
    life x c.log = [] ∨ life x c.log = Stage.done ∨ life x c.log = Stage.refused
  returned : AtEach (fun before e => e.2 = .returned → life e.1 before = Stage.held) c.log

section life

variable {x y : Obj} {log : List (Obj × Stage)}

@[simp] theorem life_nil : life x [] = [] := rfl

@[simp] theorem life_append (more : List (Obj × Stage)) :
    life x (log ++ more) = life x log ++ life x more := by
  simp [life]

@[simp] theorem life_cons_self (stage : Stage) :
    life x ((x, stage) :: log) = stage :: life x log := by
  simp [life]

theorem life_cons_ne (h : y ≠ x) (stage : Stage) : life x ((y, stage) :: log) = life x log := by
  simp [life, h]

end life

section rules

variable {c : Custody Obj} {x : Obj}

theorem Orderly.empty : Orderly ({} : Custody Obj) where
  nodup := List.nodup_nil
  held := by simp
  inUse := by simp
  rest := by simp
  returned := AtEach.nil

theorem Orderly.not_left (h : Orderly c) : life x c.log ≠ [.made, .handed false] := by
  intro hlife
  by_cases hheld : x ∈ c.held
  · simp [h.held x hheld, Stage.held] at hlife
  · by_cases huse : c.inUse = some x
    · simp [h.inUse x huse, Stage.inUse, Stage.held] at hlife
    · rcases h.rest x hheld huse with h | h | h <;>
        simp [h, Stage.done, Stage.inUse, Stage.held, Stage.refused] at hlife

theorem Orderly.not_held (h : Orderly c) (hnew : life x c.log = []) : x ∉ c.held := by
  intro hmem
  simp [h.held x hmem, Stage.held] at hnew

theorem Orderly.not_inUse (h : Orderly c) (hnew : life x c.log = []) : c.inUse ≠ some x := by
  intro huse
  simp [h.inUse x huse, Stage.inUse, Stage.held] at hnew

theorem Orderly.hand (h : Orderly c) (hnew : life x c.log = []) :
    Orderly { c with
      held := c.held ++ [x]
      log := c.log ++ [(x, .made), (x, .handed true)] } := by
  have hother {y : Obj} (hy : x ≠ y) : life y [(x, .made), (x, .handed true)] = [] := by
    simp [life_cons_ne hy]
  refine ⟨?_, fun y hy => ?_, fun y hy => ?_, fun y hy huse => ?_, ?_⟩
  · rw [List.nodup_append]
    refine ⟨h.nodup, List.nodup_singleton x, ?_⟩
    rintro y hold z hy rfl
    rw [List.mem_singleton.mp hy] at hold
    exact h.not_held hnew hold
  · rcases List.mem_append.mp hy with hold | hy
    · have hne : x ≠ y := fun heq => h.not_held hnew (heq ▸ hold)
      simp [h.held y hold, hother hne]
    · obtain rfl := List.mem_singleton.mp hy
      simp [hnew, Stage.held]
  · have hne : x ≠ y := fun heq => h.not_inUse hnew (heq ▸ hy)
    simp [h.inUse y hy, hother hne]
  · have hne : x ≠ y := fun heq => hy (by simp [heq])
    simpa [hother hne] using h.rest y (fun hold => hy (by simp [hold])) huse
  · exact h.returned.append (by simp)

theorem Orderly.refuse (h : Orderly c) (hnew : life x c.log = []) :
    Orderly { c with log := c.log ++ [(x, .made), (x, .handed false), (x, .deleted)] } := by
  have hother {y : Obj} (hy : x ≠ y) :
      life y [(x, .made), (x, .handed false), (x, .deleted)] = [] := by
    simp [life_cons_ne hy]
  refine ⟨h.nodup, fun y hy => ?_, fun y hy => ?_, fun y hy huse => ?_, ?_⟩
  · have hne : x ≠ y := fun heq => h.not_held hnew (heq ▸ hy)
    simp [h.held y hy, hother hne]
  · have hne : x ≠ y := fun heq => h.not_inUse hnew (heq ▸ hy)
    simp [h.inUse y hy, hother hne]
  · by_cases hxy : x = y
    · subst hxy
      simp [hnew, Stage.refused]
    · simpa [hother hxy] using h.rest y hy huse
  · exact h.returned.append (by simp)

theorem Orderly.take (h : Orderly c) {before after : List Obj}
    (hsplit : c.held = before ++ x :: after) (hfree : c.inUse = none) :
    Orderly {
      held := before ++ after
      inUse := some x
      log := c.log ++ [(x, .returned)] } := by
  have hnodup := h.nodup
  rw [hsplit, List.nodup_middle, List.nodup_cons] at hnodup
  have hx : life x c.log = Stage.held := h.held x (by simp [hsplit])
  refine ⟨hnodup.2, fun y hy => ?_, fun y hy => ?_, fun y hy huse => ?_, ?_⟩
  · have hne : x ≠ y := fun heq => hnodup.1 (heq ▸ hy)
    have hheld : y ∈ c.held := by
      rw [hsplit]
      simp only [List.mem_append, List.mem_cons] at hy ⊢
      tauto
    simp [h.held y hheld, life_cons_ne hne]
  · obtain rfl : x = y := by simpa using hy
    simp [hx, Stage.inUse]
  · have hne : x ≠ y := by simpa using huse
    have hheld : y ∉ c.held := by
      rw [hsplit]
      simp only [List.mem_append, List.mem_cons] at hy ⊢
      tauto
    simpa [life_cons_ne hne] using h.rest y hheld (by simp [hfree])
  · exact h.returned.snoc fun _ => hx

theorem Orderly.dispose (h : Orderly c) (huse : c.inUse = some x) :
    Orderly { c with
      inUse := none
      log := c.log ++ [(x, .used), (x, .deleted)] } := by
  have hx := h.inUse x huse
  refine ⟨h.nodup, fun y hy => ?_, fun y hy => by simp at hy, fun y hy _ => ?_, ?_⟩
  · have hne : x ≠ y := by
      rintro rfl
      simp [h.held x hy, Stage.inUse] at hx
    simp [h.held y hy, life_cons_ne hne]
  · by_cases hxy : x = y
    · subst hxy
      simp [hx, Stage.done]
    · simpa [life_cons_ne hxy] using h.rest y hy (by simp [huse, hxy])
  · exact h.returned.append (by simp)

end rules

end Custody

end GrpcCbCore.Library
