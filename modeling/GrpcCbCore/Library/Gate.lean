import GrpcCbCore.Library.Machine

/-! A gate that is to let one through: whoever finds it open shuts it behind and
passes. To find it open and to shut it are two steps, with others' between them. -/
namespace GrpcCbCore.Library

/-- How many have found the gate open and not yet shut it, how many have shut it and
not yet passed, and how many have passed. -/
structure Gate where
  shut : Bool := false
  testing : Nat := 0
  passing : Nat := 0
  passed : Nat := 0
  deriving DecidableEq, Repr

namespace Gate

inductive Act where
  | test | shut | pass
  deriving DecidableEq, Repr

def step (g : Gate) : Act → Option Gate
  | .test => some (if g.shut then g else { g with testing := g.testing + 1 })
  | .shut =>
      if g.testing = 0 then none
      else some { g with shut := true, testing := g.testing - 1, passing := g.passing + 1 }
  | .pass =>
      if g.passing = 0 then none
      else some { g with passing := g.passing - 1, passed := g.passed + 1 }

def machine : Machine Gate Act where
  step := step

/-- Nobody finds the gate open while another is about to shut it. -/
def Alone (g : Gate) (act : Act) : Prop := act = .test → g.shut = false → g.testing = 0

/-- One is on the way through an open gate at most, and one has gone through a shut one. -/
def Single (g : Gate) : Prop :=
  if g.shut then g.testing = 0 ∧ g.passing + g.passed ≤ 1
  else g.testing ≤ 1 ∧ g.passing + g.passed = 0

variable {g g' : Gate}

theorem Single.step (h : Single g) {act : Act} (halone : Alone g act)
    (hstep : machine.step g act = some g') : Single g' := by
  rcases g with ⟨_ | _, testing, passing, passed⟩ <;> cases act <;>
    simp [machine, Gate.step, Single, Alone] at h halone hstep
  case false.test =>
    subst hstep
    simp [Single, halone, h.2]
  case false.shut =>
    obtain ⟨hne, rfl⟩ := hstep
    simp only [Single, if_true]
    omega
  case false.pass => omega
  case true.test =>
    subst hstep
    simpa [Single] using h
  case true.shut => omega
  case true.pass =>
    obtain ⟨hne, rfl⟩ := hstep
    simp only [Single, if_true]
    omega

theorem Single.run (h : Single g) {acts : List Act} (halone : machine.Along Alone g acts)
    (hrun : machine.run g acts = some g') : Single g' :=
  Machine.invariant_along (fun _ _ _ h halone hstep => h.step halone hstep) h halone hrun

theorem Single.passed_le (h : Single g) : g.passed ≤ 1 := by
  unfold Single at h
  split at h <;> omega

end Gate

end GrpcCbCore.Library
