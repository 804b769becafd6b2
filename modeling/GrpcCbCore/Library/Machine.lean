import Mathlib.Data.List.Basic

/-! Deterministic partial machines and their runs. A label that is not enabled
has no successor; a run is the list of labels taken. Interleavings are runs:
a scheduler's choice is a label. -/
namespace GrpcCbCore.Library

structure Machine (State Label : Type*) where
  step : State → Label → Option State

namespace Machine

variable {State Label : Type*} (M : Machine State Label)

def run : State → List Label → Option State
  | s, [] => some s
  | s, l :: ls => (M.step s l).bind fun t => run t ls

@[simp] theorem run_nil (s : State) : M.run s [] = some s := rfl

theorem run_cons {s t : State} {l : Label} {ls : List Label} :
    M.run s (l :: ls) = some t ↔ ∃ u, M.step s l = some u ∧ M.run u ls = some t := by
  simp [run, Option.bind_eq_some_iff]

theorem run_append {s t : State} {ls more : List Label} :
    M.run s (ls ++ more) = some t ↔ ∃ u, M.run s ls = some u ∧ M.run u more = some t := by
  induction ls generalizing s with
  | nil => simp
  | cons l ls ih =>
    rw [List.cons_append, run_cons]
    constructor
    · rintro ⟨v, hv, hrest⟩
      obtain ⟨u, hu, hmore⟩ := ih.mp hrest
      exact ⟨u, (M.run_cons).mpr ⟨v, hv, hu⟩, hmore⟩
    · rintro ⟨u, hu, hmore⟩
      obtain ⟨v, hv, hrest⟩ := (M.run_cons).mp hu
      exact ⟨v, hv, ih.mpr ⟨u, hrest, hmore⟩⟩

/-- Every label of the run is taken in a state where `P` holds of the two. -/
def Along (P : State → Label → Prop) (s : State) (ls : List Label) : Prop :=
  ∀ before l after t, ls = before ++ l :: after → M.run s before = some t → P t l

/-- Every state the run passes through, its ends included, satisfies `Q`. -/
def Throughout (Q : State → Prop) (s : State) (ls : List Label) : Prop :=
  ∀ before after t, ls = before ++ after → M.run s before = some t → Q t

variable {M}

theorem Along.head {P : State → Label → Prop} {s : State} {l : Label} {ls : List Label}
    (h : M.Along P s (l :: ls)) : P s l :=
  h [] l ls s rfl rfl

theorem Along.tail {P : State → Label → Prop} {s t : State} {l : Label} {ls : List Label}
    (h : M.Along P s (l :: ls)) (hs : M.step s l = some t) : M.Along P t ls := by
  intro before k after u hls hu
  exact h (l :: before) k after u (by rw [hls]; rfl) (M.run_cons.mpr ⟨t, hs, hu⟩)

/-- The induction rule for runs whose labels are all taken under a condition. -/
theorem invariant_along {I : State → Prop} {P : State → Label → Prop}
    (step : ∀ s l t, I s → P s l → M.step s l = some t → I t)
    {s t : State} {ls : List Label} (hs : I s) (along : M.Along P s ls)
    (hrun : M.run s ls = some t) : I t := by
  induction ls generalizing s with
  | nil => cases hrun; exact hs
  | cons l ls ih =>
    obtain ⟨u, hu, ht⟩ := M.run_cons.mp hrun
    exact ih (step s l u hs along.head hu) (along.tail hu) ht

theorem invariant {I : State → Prop}
    (step : ∀ s l t, I s → M.step s l = some t → I t)
    {s t : State} {ls : List Label} (hs : I s) (hrun : M.run s ls = some t) : I t :=
  invariant_along (P := fun _ _ => True) (fun s l t h _ hst => step s l t h hst) hs
    (fun _ _ _ _ _ _ => trivial) hrun

@[simp] theorem along_nil (P : State → Label → Prop) (s : State) : M.Along P s [] := by
  intro before l after t hls
  simp at hls

theorem along_cons {P : State → Label → Prop} {s u : State} {l : Label} {ls : List Label}
    (hu : M.step s l = some u) : M.Along P s (l :: ls) ↔ P s l ∧ M.Along P u ls := by
  constructor
  · exact fun h => ⟨h.head, h.tail hu⟩
  · rintro ⟨hhead, htail⟩ before k after t hls ht
    cases before with
    | nil =>
      obtain ⟨rfl, -⟩ := List.cons.inj hls
      cases ht
      exact hhead
    | cons _ before =>
      obtain ⟨rfl, hrest⟩ := List.cons.inj hls
      obtain ⟨v, hv, ht⟩ := M.run_cons.mp ht
      cases hu.symm.trans hv
      exact htail before k after t hrest ht

theorem throughout_cons {Q : State → Prop} {s u : State} {l : Label} {ls : List Label}
    (hu : M.step s l = some u) : M.Throughout Q s (l :: ls) ↔ Q s ∧ M.Throughout Q u ls := by
  constructor
  · intro h
    refine ⟨h [] _ s rfl rfl, fun before after t hls ht => ?_⟩
    exact h (l :: before) after t (by rw [hls]; rfl) (M.run_cons.mpr ⟨u, hu, ht⟩)
  · rintro ⟨hs, htail⟩ before after t hls ht
    cases before with
    | nil => cases ht; exact hs
    | cons _ before =>
      obtain ⟨rfl, hrest⟩ := List.cons.inj hls
      obtain ⟨v, hv, ht⟩ := M.run_cons.mp ht
      cases hu.symm.trans hv
      exact htail before after t hrest ht

/-- The exact condition of a law: if labels taken under `P` keep an invariant
from which the law follows, and any other label breaks the law at once, then
the law holds throughout a run just when every label was taken under `P`. -/
theorem throughout_iff_along {I Q : State → Prop} {P : State → Label → Prop}
    (lawful : ∀ s, I s → Q s)
    (keeps : ∀ s l t, I s → P s l → M.step s l = some t → I t)
    (breaks : ∀ s l t, I s → ¬ P s l → M.step s l = some t → ¬ Q t)
    {s t : State} {ls : List Label} (hs : I s) (hrun : M.run s ls = some t) :
    M.Throughout Q s ls ↔ M.Along P s ls := by
  induction ls generalizing s with
  | nil =>
    constructor
    · exact fun _ => along_nil P s
    · intro _ before after u hls hu
      obtain ⟨rfl, -⟩ := List.append_eq_nil_iff.mp hls.symm
      cases hu
      exact lawful s hs
  | cons l ls ih =>
    obtain ⟨u, hu, ht⟩ := M.run_cons.mp hrun
    rw [throughout_cons hu, along_cons hu]
    by_cases hl : P s l
    · have hI := keeps s l u hs hl hu
      simp [lawful s hs, hl, ih hI ht]
    · have hbroken := breaks s l u hs hl hu
      simp only [hl, false_and, iff_false, not_and]
      exact fun _ htail => hbroken (htail [] ls u rfl rfl)

/-- The exact condition of a fact that each step keeps just when its label is taken
under `P`: the fact holds behind a run just when every label was. -/
theorem run_iff_along {Q : State → Prop} {P : State → Label → Prop}
    (step : ∀ s l t, M.step s l = some t → (Q t ↔ Q s ∧ P s l))
    {s t : State} {ls : List Label} (hrun : M.run s ls = some t) :
    Q t ↔ Q s ∧ M.Along P s ls := by
  induction ls generalizing s with
  | nil =>
    cases hrun
    simp
  | cons l ls ih =>
    obtain ⟨u, hu, ht⟩ := M.run_cons.mp hrun
    rw [ih ht, along_cons hu, step s l u hu, and_assoc]

theorem invariant_back {I F : State → Prop} (keeps : ∀ s l t, I s → M.step s l = some t → I t)
    (back : ∀ s l t, I s → M.step s l = some t → F t → F s)
    {s t : State} {ls : List Label} (hs : I s) (hrun : M.run s ls = some t) (ht : F t) : F s := by
  induction ls generalizing s with
  | nil => cases hrun; exact ht
  | cons l ls ih =>
    obtain ⟨u, hu, hrest⟩ := M.run_cons.mp hrun
    exact back s l u hs hu (ih (keeps s l u hs hu) hrest)

/-- Two conditions that agree on the steps of a run hold along the same runs. `F` is
what is known of the run's end and of all that leads to it. -/
theorem along_congr {I F : State → Prop} {P Q : State → Label → Prop}
    (keeps : ∀ s l t, I s → M.step s l = some t → I t)
    (back : ∀ s l t, I s → M.step s l = some t → F t → F s)
    (same : ∀ s l t, I s → F t → M.step s l = some t → (P s l ↔ Q s l))
    {s t : State} {ls : List Label} (hs : I s) (hrun : M.run s ls = some t) (ht : F t) :
    M.Along P s ls ↔ M.Along Q s ls := by
  induction ls generalizing s with
  | nil => simp
  | cons l ls ih =>
    obtain ⟨u, hu, hrest⟩ := M.run_cons.mp hrun
    have hnext := keeps s l u hs hu
    have hfact : F u := invariant_back keeps back hnext hrest ht
    rw [along_cons hu, along_cons hu, ih hnext hrest, same s l u hs hfact hu]

/-- Labels that differ in what the steps of a run do not look at: another list of such
labels leads through the same states. -/
theorem run_similar {Key : Type*} {key : Label → Key} {I : State → Prop}
    {P : State → Label → Prop}
    (keeps : ∀ s l t, I s → P s l → M.step s l = some t → I t)
    (same : ∀ s l l', I s → P s l → key l' = key l → M.step s l' = M.step s l)
    {s : State} {ls : List Label} (hs : I s) (along : M.Along P s ls) {before after : List Label}
    (hkeys : (before ++ after).map key = ls.map key) :
    M.run s before = M.run s (ls.take before.length) := by
  induction before generalizing s ls with
  | nil => rfl
  | cons l' before ih =>
    cases ls with
    | nil => simp at hkeys
    | cons l ls =>
      obtain ⟨hkey, hrest⟩ : key l' = key l ∧ (before ++ after).map key = ls.map key := by
        simpa using hkeys
      have hstep := same s l l' hs along.head hkey
      rw [List.length_cons, List.take_succ_cons, run, run, hstep]
      cases hu : M.step s l with
      | none => rfl
      | some u => exact ih (keeps s l u hs along.head hu) (along.tail hu) hrest

/-- A machine each of whose steps is a step of another one, or none at all, seen through
`f`: its runs are runs of the other. -/
theorem run_simulates {State' Label' : Type*} {N : Machine State' Label'} {f : State → State'}
    (step : ∀ s l t, M.step s l = some t → f t = f s ∨ ∃ k, N.step (f s) k = some (f t))
    {s t : State} {ls : List Label} (hrun : M.run s ls = some t) :
    ∃ ks, N.run (f s) ks = some (f t) := by
  induction ls generalizing s with
  | nil =>
    cases hrun
    exact ⟨[], rfl⟩
  | cons l ls ih =>
    obtain ⟨u, hu, hrest⟩ := M.run_cons.mp hrun
    obtain ⟨ks, hks⟩ := ih hrest
    rcases step s l u hu with hsame | ⟨k, hk⟩
    · exact ⟨ks, hsame ▸ hks⟩
    · exact ⟨k :: ks, N.run_cons.mpr ⟨f u, hk, hks⟩⟩

/-- The same machine, for a scheduler that takes some of the labels only. -/
def restrict (M : Machine State Label) (allowed : Label → Bool) : Machine State Label where
  step s l := if allowed l then M.step s l else none

theorem restrict_step {allowed : Label → Bool} {s t : State} {l : Label} :
    (M.restrict allowed).step s l = some t ↔ allowed l = true ∧ M.step s l = some t := by
  simp [restrict]

end Machine

end GrpcCbCore.Library
