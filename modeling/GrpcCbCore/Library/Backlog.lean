import Mathlib.Algebra.GroupWithZero.Nat
import Mathlib.Data.List.Basic

/-! A backlog with a high mark and the workers that add to it. A worker first looks
at the size: below the mark it adds and is ready again, from the mark on it adds and
then waits for the backlog to empty. Between the look and the addition others go on,
so a look may be out of date; by how much is a matter of how many workers there are. -/
namespace GrpcCbCore.Library

/-- Where a worker is: about to look, past a look that found the size low or high, or
waiting. -/
inductive Place where
  | ready | low | high | waiting
  deriving DecidableEq, Repr

/-- How many entries a worker may still add before it has to wait for an empty backlog,
if its next look finds the size high. -/
def Place.weight : Place → Nat
  | .ready => 1
  | .low => 2
  | .high => 1
  | .waiting => 0

structure Backlog where
  size : Nat
  places : List Place

namespace Backlog

/-- What a worker does, and what becomes of the size. An addition may find that there is
nothing to add. -/
inductive Move (mark : Nat) : Nat → Place → Nat → Place → Prop
  | lookLow {size : Nat} (hlow : size < mark) : Move mark size .ready size .low
  | lookHigh {size : Nat} (hhigh : mark ≤ size) : Move mark size .ready size .high
  | add {size size' : Nat} (hle : size' ≤ size + 1) : Move mark size .low size' .ready
  | addWait {size size' : Nat} (hle : size' ≤ size + 1) : Move mark size .high size' .waiting
  | giveUp {size size' : Nat} (hle : size' ≤ size) : Move mark size .high size' .ready
  | wake {size : Nat} (hempty : size = 0) : Move mark size .waiting size .ready

inductive Step (mark : Nat) : Backlog → Backlog → Prop
  | move (b : Backlog) {worker size : Nat} {place place' : Place}
      (hplace : b.places[worker]? = some place) (hmove : Move mark b.size place size place') :
      Step mark b ⟨size, b.places.set worker place'⟩
  | drain (b : Backlog) {size : Nat} (hle : size ≤ b.size) : Step mark b ⟨size, b.places⟩

/-- The potential: the entries there are and those still to come before everybody waits.
With a mark of zero no look ever finds the size low. -/
structure Within (mark : Nat) (b : Backlog) : Prop where
  potential : b.size + (b.places.map Place.weight).sum ≤ mark + 2 * b.places.length - 1
  high : mark = 0 → .low ∉ b.places

theorem sum_set {places : List Place} {worker : Nat} {place : Place}
    (hplace : places[worker]? = some place) (place' : Place) :
    ((places.set worker place').map Place.weight).sum + place.weight =
      (places.map Place.weight).sum + place'.weight := by
  induction places generalizing worker with
  | nil => simp at hplace
  | cons first rest ih =>
    cases worker with
    | zero =>
      obtain rfl : first = place := by simpa using hplace
      simp only [List.set_cons_zero, List.map_cons, List.sum_cons]
      omega
    | succ worker =>
      have hrest := ih (by simpa using hplace)
      simp only [List.set_cons_succ, List.map_cons, List.sum_cons]
      omega

theorem sum_le_length (places : List Place) (bound : Nat)
    (h : ∀ place ∈ places, place.weight ≤ bound) :
    (places.map Place.weight).sum ≤ bound * places.length := by
  induction places with
  | nil => simp
  | cons first rest ih =>
    have hrest := ih fun place hplace => h place (List.mem_cons_of_mem _ hplace)
    have hfirst := h first List.mem_cons_self
    simp only [List.map_cons, List.sum_cons, List.length_cons, Nat.mul_add]
    omega

theorem weight_le_two (place : Place) : place.weight ≤ 2 := by
  cases place <;> decide

theorem weight_le_one {place : Place} (h : place ≠ .low) : place.weight ≤ 1 := by
  cases place <;> first | decide | contradiction

theorem within_fresh (mark n : Nat) : Within mark ⟨0, List.replicate n .ready⟩ := by
  refine ⟨?_, fun _ => by simp⟩
  simp only [List.map_replicate, List.sum_replicate_nat, List.length_replicate, Place.weight]
  omega

variable {mark : Nat} {b b' : Backlog}

theorem Within.move (h : Within mark b) {worker size : Nat} {place place' : Place}
    (hplace : b.places[worker]? = some place) (hmove : Move mark b.size place size place') :
    Within mark ⟨size, b.places.set worker place'⟩ := by
  obtain ⟨hpotential, hhigh⟩ := h
  have hlt := (List.getElem?_eq_some_iff.mp hplace).1
  have hsum := sum_set hplace place'
  have hlow : place' ≠ .low → mark = 0 → .low ∉ b.places.set worker place' := by
    intro hne hzero hmem
    rcases List.mem_or_eq_of_mem_set hmem with hold | hnew
    · exact hhigh hzero hold
    · exact hne hnew.symm
  have htwo := sum_le_length (b.places.set worker place') 2 fun p _ => weight_le_two p
  rw [List.length_set] at htwo
  cases hmove with
  | lookLow hmark =>
    refine ⟨?_, fun hzero => absurd hmark (by omega)⟩
    simp only [List.length_set]
    omega
  | wake hempty =>
    refine ⟨?_, hlow (by simp)⟩
    simp only [List.length_set]
    obtain rfl | hpos := Nat.eq_zero_or_pos mark
    · have hone := sum_le_length (b.places.set worker .ready) 1 fun p hp =>
        weight_le_one fun hbad => hlow (by simp) rfl (hbad ▸ hp)
      rw [List.length_set] at hone
      omega
    · omega
  | lookHigh | add | addWait | giveUp =>
    refine ⟨?_, hlow (by simp)⟩
    simp only [Place.weight, List.length_set] at hsum ⊢
    omega

theorem Within.drain (h : Within mark b) {size : Nat} (hle : size ≤ b.size) :
    Within mark ⟨size, b.places⟩ := by
  refine ⟨?_, h.high⟩
  have hpotential := h.potential
  simp only
  omega

theorem Within.step (h : Within mark b) (hstep : Step mark b b') : Within mark b' := by
  cases hstep with
  | move hplace hmove => exact h.move hplace hmove
  | drain hle => exact h.drain hle

/-- With a single worker the backlog goes one past the mark; each further worker may add
two before it waits. -/
theorem Within.size_le (h : Within mark b) : b.size ≤ mark + 2 * b.places.length - 1 := by
  have hpotential := h.potential
  omega

end Backlog

end GrpcCbCore.Library
