import GrpcCbCore.Library.Lane
import GrpcCbCore.Library.Chain

/-! A pipe: the lane of a sender, the chain of requests of a receiver, and between
them a transport that carries what the lane has handed over, in order. `ended` is the
stop that says that the sender has closed. -/
namespace GrpcCbCore.Library

/-- What the receiver has got is a beginning of what was handed over; if it was told
the end, it is all, and the closing word was sent. -/
structure Pipe (α σ : Type*) {Stop : Type*} (ended : Stop) where
  lane : Lane α σ
  chain : Chain α Stop
  carried : chain.items <+: lane.started
  whole : chain.stop = some ended → lane.closeSent = true ∧ chain.items = lane.started

namespace Lane

variable {α σ : Type*} {l l' : Lane α σ}

theorem Step.started_mono (h : Step l l') : l.started <+: l'.started := by
  cases h with
  | start m rest hwaiting hidle =>
    rw [started_start l hwaiting hidle]
    exact List.prefix_append _ _
  | _ => simp

theorem Step.closed (h : Step l l') (hsent : l.closeSent = true) :
    l'.closeSent = true ∧ l'.started = l.started := by
  cases h with
  | accept m hopen => exact absurd (unsent_of_open hopen) (by simp [hsent])
  | start m rest hwaiting => exact absurd (unsent_of_waiting hwaiting) (by simp [hsent])
  | _ => simp [hsent]

theorem Step.asked (h : Step l l') (hasked : l.closing.isSome = true) :
    l'.closing = l.closing ∧ l'.accepted = l.accepted := by
  cases h with
  | accept m hopen => simp [hopen] at hasked
  | start m rest hwaiting hidle => exact ⟨rfl, accepted_start l hwaiting hidle⟩
  | askClose word hopen => simp [hopen] at hasked
  | _ => simp

theorem Step.shut (h : Step l l') (hshut : l.broken = true ∨ l.closing.isSome = true) :
    l'.broken = true ∨ l'.closing.isSome = true := by
  cases h with
  | askClose word hopen => simp
  | break_ => simp
  | _ => simpa using hshut

theorem Steps.started_mono (h : Steps l l') : l.started <+: l'.started := by
  induction h with
  | refl => exact List.prefix_rfl
  | tail _ hstep ih => exact ih.trans hstep.started_mono

theorem Steps.closed (h : Steps l l') (hsent : l.closeSent = true) :
    l'.closeSent = true ∧ l'.started = l.started := by
  induction h with
  | refl => exact ⟨hsent, rfl⟩
  | tail _ hstep ih =>
    obtain ⟨hclosed, hstarted⟩ := hstep.closed ih.1
    exact ⟨hclosed, hstarted.trans ih.2⟩

theorem Steps.asked (h : Steps l l') (hasked : l.closing.isSome = true) :
    l'.closing = l.closing ∧ l'.accepted = l.accepted := by
  induction h with
  | refl => exact ⟨rfl, rfl⟩
  | tail _ hstep ih =>
    obtain ⟨hclosing, haccepted⟩ := hstep.asked (by rw [ih.1]; exact hasked)
    exact ⟨hclosing.trans ih.1, haccepted.trans ih.2⟩

theorem Steps.shut (h : Steps l l') (hshut : l.broken = true ∨ l.closing.isSome = true) :
    l'.broken = true ∨ l'.closing.isSome = true := by
  induction h with
  | refl => exact hshut
  | tail _ hstep ih => exact hstep.shut ih

theorem started_initial (l : Lane α σ) : l.started <+: l.accepted :=
  List.prefix_append _ _

theorem accepted_of_closed (hsent : l.closeSent = true) : l.accepted = l.started := by
  rw [accepted, (l.close_last hsent).2.1, List.append_nil]

end Lane

/-- The chain goes on as it is, or stops, for a reason other than the end. -/
def Chain.Breaks {Item Stop : Type*} (ended : Stop) (c c' : Chain Item Stop) : Prop :=
  c' = c ∨ ∃ reason, reason ≠ ended ∧ c' = c.next (.stop reason)

theorem Chain.exists_stop {Item Stop Event : Type*} {see : Event → List (Outcome Item Stop)}
    {history : List Event} {reason : Stop} (h : (shown see history).stop = some reason) :
    ∃ e ∈ history, .stop reason ∈ see e := by
  have hmem : ∀ outcomes : List (Outcome Item Stop),
      (of outcomes).stop = some reason → .stop reason ∈ outcomes := by
    intro outcomes hstop
    induction outcomes with
    | nil => simp at hstop
    | cons o outcomes ih =>
      cases o with
      | item x => exact List.mem_cons_of_mem _ (ih (by simpa using hstop))
      | stop r =>
        obtain rfl : r = reason := by simpa using hstop
        exact List.mem_cons_self
  exact List.mem_flatMap.mp (hmem _ h)

@[simp] theorem Chain.items_stop {Item Stop : Type*} (c : Chain Item Stop) (reason : Stop) :
    (c.next (.stop reason)).items = c.items := by
  cases hstop : c.stop with
  | none => rw [next_stop hstop]
  | some _ => rw [next_stopped (by simp [hstop])]

namespace Pipe

variable {α σ Stop : Type*} {ended : Stop}

/-- A fresh lane and a chain that has not begun. -/
@[simps] def fresh : Pipe α σ ended where
  lane := .fresh
  chain := {}
  carried := List.nil_prefix
  whole := by simp

/-- The sender goes on: what was handed over stays so, and behind the closing word nothing
is added. -/
@[simps] def moves (p : Pipe α σ ended) {l : Lane α σ} (hstarted : p.lane.started <+: l.started)
    (hclosed : p.lane.closeSent = true → l.closeSent = true ∧ l.started = p.lane.started) :
    Pipe α σ ended where
  lane := l
  chain := p.chain
  carried := p.carried.trans hstarted
  whole := by
    intro hend
    obtain ⟨hsent, hall⟩ := p.whole hend
    exact ⟨(hclosed hsent).1, hall.trans (hclosed hsent).2.symm⟩

/-- The sender goes on by steps of its lane. -/
def sends (p : Pipe α σ ended) {l : Lane α σ} (h : Lane.Steps p.lane l) : Pipe α σ ended :=
  p.moves h.started_mono h.closed

@[simp] theorem sends_lane (p : Pipe α σ ended) {l : Lane α σ} (h : Lane.Steps p.lane l) :
    (p.sends h).lane = l := rfl

@[simp] theorem sends_chain (p : Pipe α σ ended) {l : Lane α σ} (h : Lane.Steps p.lane l) :
    (p.sends h).chain = p.chain := rfl

/-- What the transport may answer to a request: the next message, or, when there is
none and the sender has closed, the end. It may always fail. -/
def Permits (p : Pipe α σ ended) : Outcome α Stop → Prop
  | .item m => p.lane.started[p.chain.items.length]? = some m
  | .stop reason => reason = ended →
      p.lane.closeSent = true ∧ p.chain.items = p.lane.started

/-- A request is answered. -/
@[simps] def next (p : Pipe α σ ended) (o : Outcome α Stop)
    (h : p.chain.stop = none → p.Permits o) : Pipe α σ ended where
  lane := p.lane
  chain := p.chain.next o
  carried := by
    cases hstop : p.chain.stop with
    | some reason =>
      rw [Chain.next_stopped (by simp [hstop])]
      exact p.carried
    | none =>
      cases o with
      | stop reason => simpa [Chain.next_stop hstop] using p.carried
      | item m =>
        obtain ⟨rest, hrest⟩ := p.carried
        have hm : p.lane.started[p.chain.items.length]? = some m := h hstop
        rw [Chain.next_item hstop, ← hrest]
        rw [← hrest, List.getElem?_append_right (Nat.le_refl _), Nat.sub_self] at hm
        cases rest with
        | nil => simp at hm
        | cons m' rest =>
          cases hm
          exact ⟨rest, by simp⟩
  whole := by
    cases hstop : p.chain.stop with
    | some reason =>
      rw [Chain.next_stopped (by simp [hstop])]
      exact p.whole
    | none =>
      cases o with
      | item m => simp [Chain.next_item hstop, hstop]
      | stop reason =>
        rw [Chain.next_stop hstop]
        intro hreason
        exact h hstop (Option.some.inj hreason)

theorem exists_breaks (p : Pipe α σ ended) {c : Chain α Stop} (h : p.chain.Breaks ended c) :
    ∃ q : Pipe α σ ended, q.lane = p.lane ∧ q.chain = c := by
  rcases h with hsame | ⟨reason, hreason, hstop⟩
  · exact ⟨p, rfl, hsame.symm⟩
  · have hpermits : p.chain.stop = none → p.Permits (.stop reason) :=
      fun _ heq => absurd heq hreason
    exact ⟨p.next (.stop reason) hpermits, rfl, hstop.symm⟩

section laws

variable (p : Pipe α σ ended)

/-- The receiver has got a beginning of what the sender has accepted. -/
theorem items_initial : p.chain.items <+: p.lane.accepted :=
  p.carried.trans p.lane.started_initial

/-- A receiver that was told the end has got all that the sender ever accepted. -/
theorem items_of_ended (hend : p.chain.stop = some ended) :
    p.chain.items = p.lane.accepted := by
  obtain ⟨hsent, hall⟩ := p.whole hend
  rw [hall, Lane.accepted_of_closed hsent]

/-- The requests that the receiver has still to make: one for each message that it has not
got, and one that tells it the end. -/
def pending : Nat :=
  (p.lane.accepted.length - p.chain.items.length) + if p.chain.stop = none then 1 else 0

theorem moves_pending {l : Lane α σ} (hstarted : p.lane.started <+: l.started)
    (hclosed : p.lane.closeSent = true → l.closeSent = true ∧ l.started = p.lane.started)
    (haccepted : l.accepted = p.lane.accepted) :
    (p.moves hstarted hclosed).pending = p.pending := by
  simp [pending, haccepted]

theorem next_pending {o : Outcome α Stop} (h : p.chain.stop = none → p.Permits o)
    (hopen : p.chain.stop = none) : (p.next o h).pending < p.pending := by
  have hitems := (p.next o h).items_initial.length_le
  rw [next_chain, next_lane] at hitems
  simp only [pending, next_chain, next_lane]
  cases o with
  | item x =>
    rw [Chain.next_item hopen] at hitems ⊢
    simp only [List.length_append, List.length_singleton, hopen] at hitems ⊢
    omega
  | stop reason =>
    rw [Chain.next_stop hopen]
    simp [hopen]

end laws

end Pipe

end GrpcCbCore.Library
