import GrpcCbCore.Library.History

/-! Chains of requests. Each request brings an item, and then the next one is
made, or it stops the chain for a reason; a stopped chain stays as it is. -/
namespace GrpcCbCore.Library

variable {Item Stop Event : Type*}

/-- What a request comes to. -/
inductive Outcome (Item Stop : Type*) where
  | item (x : Item)
  | stop (reason : Stop)
  deriving DecidableEq, Repr

/-- Another name for what stops the chain. -/
def Outcome.mapStop {Stop' : Type*} (f : Stop → Stop') : Outcome Item Stop → Outcome Item Stop'
  | .item x => .item x
  | .stop reason => .stop (f reason)

@[simp] def Outcome.item? : Outcome Item Stop → Option Item
  | .item x => some x
  | .stop _ => none

/-- The items brought, and what stopped the chain if it has stopped. -/
@[ext] structure Chain (Item Stop : Type*) where
  items : List Item := []
  stop : Option Stop := none
  deriving DecidableEq, Repr

namespace Chain

def next (c : Chain Item Stop) (o : Outcome Item Stop) : Chain Item Stop :=
  match c.stop, o with
  | some _, _ => c
  | none, .item x => { c with items := c.items ++ [x] }
  | none, .stop reason => { c with stop := some reason }

def more (c : Chain Item Stop) (outcomes : List (Outcome Item Stop)) : Chain Item Stop :=
  outcomes.foldl next c

def of (outcomes : List (Outcome Item Stop)) : Chain Item Stop := more {} outcomes

section next

variable {c : Chain Item Stop} {outcomes rest : List (Outcome Item Stop)}

@[simp] theorem next_item (h : c.stop = none) (x : Item) :
    c.next (.item x) = { c with items := c.items ++ [x] } := by
  simp [next, h]

@[simp] theorem next_stop (h : c.stop = none) (reason : Stop) :
    c.next (.stop reason) = { c with stop := some reason } := by
  simp [next, h]

theorem next_stopped (h : c.stop ≠ none) (o : Outcome Item Stop) : c.next o = c := by
  cases hstop : c.stop with
  | none => exact absurd hstop h
  | some reason => simp [next, hstop]

@[simp] theorem more_nil : c.more [] = c := rfl

@[simp] theorem more_cons (o : Outcome Item Stop) :
    c.more (o :: outcomes) = (c.next o).more outcomes := rfl

@[simp] theorem more_append : c.more (outcomes ++ rest) = (c.more outcomes).more rest := by
  simp [more, List.foldl_append]

theorem more_stopped (h : c.stop ≠ none) : c.more outcomes = c := by
  induction outcomes with
  | nil => rfl
  | cons o outcomes ih => rw [more_cons, next_stopped h, ih]

theorem more_toList (h : c.stop = none) (stop : Option Stop) :
    c.more (stop.toList.map .stop) = { c with stop } := by
  cases stop with
  | none => exact Chain.ext rfl h
  | some reason => exact next_stop h reason

/-- An open chain goes on as a new one does, behind its own items. -/
theorem more_open (h : c.stop = none) :
    c.more outcomes = ⟨c.items ++ (of outcomes).items, (of outcomes).stop⟩ := by
  unfold of
  induction outcomes generalizing c with
  | nil => simp [← h]
  | cons o outcomes ih =>
    cases o with
    | item x =>
      rw [more_cons, next_item h, more_cons, next_item rfl, ih (by exact h)]
      rw [ih (c := { items := [] ++ [x], stop := none }) rfl]
      simp
    | stop reason =>
      rw [more_cons, next_stop h, more_cons, next_stop rfl, more_stopped (by simp),
        more_stopped (by simp)]
      simp

@[simp] theorem of_nil : of ([] : List (Outcome Item Stop)) = {} := rfl

@[simp] theorem of_item_cons (x : Item) :
    of (.item x :: outcomes) = ⟨x :: (of outcomes).items, (of outcomes).stop⟩ := by
  rw [of, more_cons, next_item rfl, more_open rfl]
  rfl

@[simp] theorem of_stop_cons (reason : Stop) :
    of (.stop reason :: outcomes) = ⟨[], some reason⟩ := by
  rw [of, more_cons, next_stop rfl, more_stopped (by simp)]

theorem of_open (h : (of outcomes).stop = none) :
    (of outcomes).items = outcomes.filterMap Outcome.item? := by
  induction outcomes with
  | nil => rfl
  | cons o outcomes ih =>
    cases o with
    | item x =>
      rw [of_item_cons] at h ⊢
      simp [ih h]
    | stop reason => simp at h

theorem of_append_stopped (h : (of outcomes).stop ≠ none) :
    of (outcomes ++ rest) = of outcomes := by
  rw [of, more_append]
  exact more_stopped h

end next

/-- The chain that a history shows. -/
def shown (see : Event → List (Outcome Item Stop)) (history : List Event) : Chain Item Stop :=
  of (history.flatMap see)

section shown

variable {see : Event → List (Outcome Item Stop)} {history after : List Event}

@[simp] theorem shown_nil : shown see [] = {} := rfl

theorem shown_open {item : Event → Option Item} (h : (shown see history).stop = none)
    (hitem : ∀ e, collect Outcome.item? (see e) = (item e).toList) :
    (shown see history).items = collect item history := by
  rw [← collect_flatMap _ hitem]
  exact of_open h

@[simp] theorem shown_append :
    shown see (history ++ after) = (shown see history).more (after.flatMap see) := by
  simp [shown, of]

end shown

end Chain

end GrpcCbCore.Library
