import Mathlib.Algebra.GroupWithZero.Nat
import Mathlib.Data.List.Basic

/-! Safety laws over histories. A history is the list of what happened, oldest
first; a law says of each event that the history before it permits it. -/
namespace GrpcCbCore.Library

variable {Event : Type*}

/-- Each event of the history is permitted by `P` given the events before it. -/
def AtEach (P : List Event → Event → Prop) (history : List Event) : Prop :=
  ∀ before e after, history = before ++ e :: after → P before e

namespace AtEach

variable {P : List Event → Event → Prop} {history more : List Event} {e : Event}

@[simp] theorem nil : AtEach P [] := by
  intro before e after h
  simp at h

theorem snoc (h : AtEach P history) (he : P history e) : AtEach P (history ++ [e]) := by
  intro before x after hx
  rcases List.eq_nil_or_concat after with rfl | ⟨rest, y, rfl⟩
  · obtain ⟨rfl, hxe⟩ := List.append_inj' hx rfl
    cases hxe
    exact he
  · have hy : history ++ [e] = (before ++ x :: rest) ++ [y] := by simp [hx]
    exact h before x rest (List.append_inj' hy rfl).1

/-- Events that the law permits after any history extend a lawful history. -/
theorem append (h : AtEach P history) (hmore : ∀ e ∈ more, ∀ before, P before e) :
    AtEach P (history ++ more) := by
  induction more generalizing history with
  | nil => simpa using h
  | cons e more ih =>
    have hnext := ih (h.snoc (hmore e (by simp) history))
      (fun x hx => hmore x (List.mem_cons_of_mem e hx))
    simpa using hnext

theorem of_append (h : AtEach P (history ++ more)) : AtEach P history := by
  intro before x after hx
  exact h before x (after ++ more) (by simp [hx])

end AtEach

/-- The entries of the history that `f` picks out, in order. -/
def collect {β : Type*} (f : Event → Option β) (history : List Event) : List β :=
  history.filterMap f

section collect

variable {β : Type*} (f : Event → Option β) (history more : List Event)

@[simp] theorem collect_nil : collect f [] = [] := rfl

@[simp] theorem collect_append :
    collect f (history ++ more) = collect f history ++ collect f more := by
  simp [collect]

@[simp] theorem collect_cons (e : Event) :
    collect f (e :: history) = (f e).toList ++ collect f history := by
  cases h : f e <;> simp [collect, h]

/-- Reading a history through what an observer sees of each event. -/
theorem collect_flatMap {Seen : Type*} {f : Event → Option β} {g : Seen → Option β}
    {see : Event → List Seen} (h : ∀ e, collect g (see e) = (f e).toList) :
    collect g (history.flatMap see) = collect f history := by
  induction history with
  | nil => rfl
  | cons e history ih => rw [List.flatMap_cons, collect_append, ih, h, collect_cons]

theorem collect_flatMap_eq_nil {γ Seen : Type*} {f : Event → Option β} {g : Seen → Option γ}
    {see : Event → List Seen} (h : ∀ e, collect g (see e) = [] ↔ f e = none) :
    collect g (history.flatMap see) = [] ↔ collect f history = [] := by
  induction history with
  | nil => simp
  | cons e history ih =>
    rw [List.flatMap_cons, collect_append, collect_cons, List.append_eq_nil_iff,
      List.append_eq_nil_iff, h, ih, Option.toList_eq_nil_iff]

theorem collect_eq_nil (h : ∀ e ∈ history, f e = none) : collect f history = [] := by
  simpa [collect, List.filterMap_eq_nil_iff] using h

theorem collect_snoc_none {e : Event} (h : f e = none) :
    collect f (history ++ [e]) = collect f history := by
  rw [collect_append, collect_cons, h]
  simp

theorem collect_ne_nil : collect f history ≠ [] ↔ ∃ e ∈ history, f e ≠ none := by
  simp [collect, List.filterMap_eq_nil_iff]

theorem collect_ne_nil_append (h : collect f history ≠ []) :
    collect f (history ++ more) ≠ [] := by
  simp [h]

end collect

theorem getElem?_extends {α : Type*} {l l' : List α} (h : l <+: l') {index : Nat} {x : α}
    (hx : l[index]? = some x) : l'[index]? = some x := by
  obtain ⟨more, rfl⟩ := h
  rw [List.getElem?_append_left (List.getElem?_eq_some_iff.mp hx).1]
  exact hx

theorem exists_eraseIdx {α : Type*} {l : List α} {x : α} {index : Nat} (h : l[index]? = some x) :
    ∃ before after, l = before ++ x :: after ∧ l.eraseIdx index = before ++ after := by
  obtain ⟨hlt, hx⟩ := List.getElem?_eq_some_iff.mp h
  refine ⟨l.take index, l.drop (index + 1), ?_, List.eraseIdx_eq_take_drop_succ ..⟩
  rw [← hx, List.getElem_cons_drop, List.take_append_drop]

theorem exists_set {α : Type*} {l : List α} {x : α} {index : Nat} (h : l[index]? = some x) :
    ∃ before after, l = before ++ x :: after ∧
      ∀ y, l.set index y = before ++ y :: after := by
  obtain ⟨hlt, rfl⟩ := List.getElem?_eq_some_iff.mp h
  refine ⟨l.take index, l.drop (index + 1), ?_, fun y => ?_⟩
  · rw [List.getElem_cons_drop, List.take_append_drop]
  · rw [List.set_eq_take_append_cons_drop, if_pos hlt]

theorem sum_map_set {α : Type*} {l : List α} {x : α} {index : Nat} (f : α → Nat)
    (h : l[index]? = some x) (y : α) :
    ((l.set index y).map f).sum + f x = (l.map f).sum + f y := by
  obtain ⟨before, after, hl, hset⟩ := exists_set h
  rw [hset, hl]
  simp only [List.map_append, List.map_cons, List.sum_append, List.sum_cons]
  omega

end GrpcCbCore.Library
