import GrpcCbCore.Library.Machine

/-! Work that comes to an end. Where each label that is taken under `good` makes a
measure smaller, a machine that takes such labels only cannot go on for ever, and what
it stops at is what the labels left no way out of. -/
namespace GrpcCbCore.Library.Machine

variable {State Label : Type*} (M : Machine State Label)

/-- No label can be taken under `good`. -/
def Stuck (good : State → Label → Prop) (s : State) : Prop :=
  ∀ l t, good s l → M.step s l ≠ some t

/-- However labels are taken under `good`, there are `n` of them at most; a run of them
can be gone on with until none is left to take; and then `Q` holds. -/
structure Finishes (good : State → Label → Prop) (Q : State → Prop) (n : Nat) (s : State) :
    Prop where
  bounded : ∀ ls t, M.run s ls = some t → M.Along good s ls → ls.length ≤ n
  goesOn : ∀ ls t, M.run s ls = some t → M.Along good s ls →
    ∃ more u, M.run t more = some u ∧ M.Along good t more ∧ M.Stuck good u
  done : ∀ ls t, M.run s ls = some t → M.Along good s ls → M.Stuck good t → Q t

variable {M} {good : State → Label → Prop} {I Q : State → Prop} {measure : State → Nat}

theorem bounded_along (keeps : ∀ s l t, I s → good s l → M.step s l = some t → I t)
    (shrinks : ∀ s l t, I s → good s l → M.step s l = some t → measure t < measure s)
    {s t : State} {ls : List Label} (hs : I s) (hrun : M.run s ls = some t)
    (along : M.Along good s ls) : ls.length + measure t ≤ measure s := by
  induction ls generalizing s with
  | nil =>
    cases hrun
    simp
  | cons l ls ih =>
    obtain ⟨u, hu, hrest⟩ := M.run_cons.mp hrun
    have hfirst := shrinks s l u hs along.head hu
    have htail := ih (keeps s l u hs along.head hu) hrest (along.tail hu)
    rw [List.length_cons]
    omega

theorem exists_stuck (keeps : ∀ s l t, I s → good s l → M.step s l = some t → I t)
    (shrinks : ∀ s l t, I s → good s l → M.step s l = some t → measure t < measure s)
    {s : State} (hs : I s) :
    ∃ ls t, M.run s ls = some t ∧ M.Along good s ls ∧ M.Stuck good t := by
  induction hn : measure s using Nat.strongRecOn generalizing s with
  | _ n ih =>
    subst hn
    by_cases hstuck : M.Stuck good s
    · exact ⟨[], s, rfl, along_nil good s, hstuck⟩
    · simp only [Stuck, not_forall, Classical.not_not] at hstuck
      obtain ⟨l, t, hl, hstep⟩ := hstuck
      obtain ⟨ls, u, hrun, along, hend⟩ :=
        ih _ (shrinks s l t hs hl hstep) (keeps s l t hs hl hstep) rfl
      exact ⟨l :: ls, u, M.run_cons.mpr ⟨t, hstep, hrun⟩, (along_cons hstep).mpr ⟨hl, along⟩,
        hend⟩

/-- The rule: an invariant, a measure, and what the invariant says of a state where no
label is left to take. -/
theorem finishes (keeps : ∀ s l t, I s → good s l → M.step s l = some t → I t)
    (shrinks : ∀ s l t, I s → good s l → M.step s l = some t → measure t < measure s)
    (done : ∀ s, I s → M.Stuck good s → Q s) {s : State} (hs : I s) :
    M.Finishes good Q (measure s) s where
  bounded ls t hrun along := by
    have hbound := bounded_along keeps shrinks hs hrun along
    omega
  goesOn ls t hrun along := exists_stuck keeps shrinks (invariant_along keeps hs along hrun)
  done ls t hrun along hstuck := done t (invariant_along keeps hs along hrun) hstuck

end GrpcCbCore.Library.Machine
