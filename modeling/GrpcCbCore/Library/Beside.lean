import GrpcCbCore.Library.Machine

/-! Machines side by side, two or one for each index. A label of all is a label of one of
them, and the others stay as they are; so a run of all is any interleaving of their runs. -/
namespace GrpcCbCore.Library.Machine

variable {S T L K : Type*}

section part

variable {M : Machine S L} {N : Machine T K} {f : S → T} {g : L → Option K} {s t : S}
  {ls : List L}

/-- A part of a machine, seen through `f`: a label of the whole is one of the part, if `g`
says which, or leaves it as it is. The part of a run is then a run of the part. -/
theorem run_part (step : ∀ s l t, M.step s l = some t →
      ∀ k ∈ g l, N.step (f s) k = some (f t))
    (same : ∀ s l t, M.step s l = some t → g l = none → f t = f s)
    (hrun : M.run s ls = some t) : N.run (f s) (ls.filterMap g) = some (f t) := by
  induction ls generalizing s with
  | nil =>
    cases hrun
    rfl
  | cons l ls ih =>
    obtain ⟨u, hu, hrest⟩ := M.run_cons.mp hrun
    cases hl : g l with
    | none =>
      rw [List.filterMap_cons_none hl, ← same s l u hu hl]
      exact ih hrest
    | some k =>
      rw [List.filterMap_cons_some hl]
      exact N.run_cons.mpr ⟨f u, step s l u hu k hl, ih hrest⟩

end part

def beside (M : Machine S L) (N : Machine T K) : Machine (S × T) (L ⊕ K) where
  step p
    | .inl l => (M.step p.1 l).map fun s => (s, p.2)
    | .inr k => (N.step p.2 k).map fun t => (p.1, t)

variable {M : Machine S L} {N : Machine T K} {p q : S × T}

theorem beside_inl {l : L} (h : (M.beside N).step p (.inl l) = some q) :
    M.step p.1 l = some q.1 ∧ q.2 = p.2 := by
  obtain ⟨s, hs, rfl⟩ := Option.map_eq_some_iff.mp h
  exact ⟨hs, rfl⟩

theorem beside_inr {k : K} (h : (M.beside N).step p (.inr k) = some q) :
    N.step p.2 k = some q.2 ∧ q.1 = p.1 := by
  obtain ⟨t, ht, rfl⟩ := Option.map_eq_some_iff.mp h
  exact ⟨ht, rfl⟩

theorem beside_run {ls : List (L ⊕ K)} (hrun : (M.beside N).run p ls = some q) :
    M.run p.1 (ls.filterMap Sum.getLeft?) = some q.1 ∧
      N.run p.2 (ls.filterMap Sum.getRight?) = some q.2 := by
  constructor
  · refine run_part (f := Prod.fst) (fun p label q hstep l hl => ?_) (fun p label q hstep hl => ?_)
      hrun
    · obtain rfl := Sum.getLeft?_eq_some_iff.mp hl
      exact (beside_inl hstep).1
    · obtain ⟨k, rfl⟩ : ∃ k, label = .inr k := by
        cases label with
        | inl l => simp at hl
        | inr k => exact ⟨k, rfl⟩
      exact (beside_inr hstep).2
  · refine run_part (f := Prod.snd) (fun p label q hstep k hk => ?_) (fun p label q hstep hk => ?_)
      hrun
    · obtain rfl := Sum.getRight?_eq_some_iff.mp hk
      exact (beside_inr hstep).1
    · obtain ⟨l, rfl⟩ : ∃ l, label = .inl l := by
        cases label with
        | inl l => exact ⟨l, rfl⟩
        | inr k => simp at hk
      exact (beside_inl hstep).2

section each

variable {ι : Type*} [DecidableEq ι]

/-- A machine for each index, all side by side. -/
def each (M : ι → Machine S L) : Machine (ι → S) (ι × L) where
  step s label := ((M label.1).step (s label.1) label.2).map (Function.update s label.1)

def labelsOf (i : ι) (ls : List (ι × L)) : List L :=
  ls.filterMap fun label => if label.1 = i then some label.2 else none

variable {M : ι → Machine S L} {s t : ι → S}

theorem each_step {label : ι × L} (h : (each M).step s label = some t) :
    (M label.1).step (s label.1) label.2 = some (t label.1) ∧
      ∀ i, i ≠ label.1 → t i = s i := by
  obtain ⟨u, hu, rfl⟩ := Option.map_eq_some_iff.mp h
  exact ⟨by rw [Function.update_self]; exact hu, fun i hi => Function.update_of_ne hi _ _⟩

theorem each_run {ls : List (ι × L)} (hrun : (each M).run s ls = some t) (i : ι) :
    (M i).run (s i) (labelsOf i ls) = some (t i) := by
  refine run_part (f := fun s => s i) (fun s label t hstep l hl => ?_)
    (fun s label t hstep hl => ?_) hrun
  · obtain ⟨hi, rfl⟩ : label.1 = i ∧ label.2 = l := by simpa using hl
    subst hi
    exact (each_step hstep).1
  · have hi : label.1 ≠ i := by simpa using hl
    exact (each_step hstep).2 i (Ne.symm hi)

end each
end GrpcCbCore.Library.Machine
