import GrpcCbCore.Library.History
import GrpcCbCore.Library.Lane

/-! The account an observer keeps of a lane: what was accepted, started,
finished and asked, each in order, agrees with the lane's own lists. -/
namespace GrpcCbCore.Library

/-- What can be seen of a lane. -/
inductive Sight (α σ : Type*) where
  | accept (m : α)
  | start (m : α)
  | finish (m : α)
  | askClose (word : σ)
  | sendClose (word : σ)
  | breaks

namespace Sight

variable {α σ : Type*}

@[simp] def accepted : Sight α σ → Option α
  | .accept m => some m
  | _ => none

@[simp] def started : Sight α σ → Option α
  | .start m => some m
  | _ => none

@[simp] def finished : Sight α σ → Option α
  | .finish m => some m
  | _ => none

@[simp] def asked : Sight α σ → Option σ
  | .askClose word => some word
  | _ => none

@[simp] def closed : Sight α σ → Option σ
  | .sendClose word => some word
  | _ => none

@[simp] def broke : Sight α σ → Option Unit
  | .breaks => some ()
  | _ => none

end Sight

/-- Of a lane that is not broken, the first closing word asked for is the one
it keeps. -/
structure Ledger {α σ : Type*} (seen : List (Sight α σ)) (l : Lane α σ) : Prop where
  accepted : collect Sight.accepted seen = l.accepted
  started : collect Sight.started seen = l.started
  finished : collect Sight.finished seen = l.finished
  broke : l.broken = false ↔ collect Sight.broke seen = []
  asked : l.broken = false → (collect Sight.asked seen).head? = l.closing
  closed : collect Sight.closed seen = if l.closeSent then l.closing.toList else []

namespace Ledger

variable {α σ : Type*} {seen : List (Sight α σ)} {l : Lane α σ}

theorem fresh : Ledger [] (Lane.fresh : Lane α σ) := by
  constructor <;> simp [Lane.accepted, Lane.started]

theorem accept (h : Ledger seen l) (m : α) (hopen : l.closing = none) :
    Ledger (seen ++ [.accept m]) (l.accept m hopen) := by
  constructor <;> simp [h.accepted, h.started, h.finished, h.broke, h.closed]
  simpa [h.broke] using h.asked

theorem start (h : Ledger seen l) {m : α} {rest : List α} (hwaiting : l.waiting = m :: rest)
    (hidle : l.flying = none) : Ledger (seen ++ [.start m]) (l.start m rest hwaiting) := by
  constructor <;> simp [h.accepted, h.started, h.finished, h.broke, h.closed,
    Lane.accepted_start, Lane.started_start, hidle]
  simpa [h.broke] using h.asked

theorem start_accept (h : Ledger seen l) (m : α) (hopen : l.closing = none)
    (hidle : l.flying = none) (hempty : l.waiting = []) :
    Ledger (seen ++ [.start m, .accept m])
      ((l.accept m hopen).start m [] (by simp [hempty])) := by
  constructor <;> simp [h.accepted, h.started, h.finished, h.broke, h.closed,
    Lane.accepted_start, Lane.started_start, hidle]
  simpa [h.broke] using h.asked

theorem finish (h : Ledger seen l) {m : α} (hflying : l.flying = some m) :
    Ledger (seen ++ [.finish m]) l.finish := by
  constructor <;> simp [h.accepted, h.started, h.finished, h.broke, h.closed]
  · simp [Lane.started, hflying]
  · simpa [h.broke] using h.asked

theorem askClose (h : Ledger seen l) (word : σ) (hopen : l.closing = none)
    (hlive : l.broken = false) (hunsent : l.closeSent = false) :
    Ledger (seen ++ [.askClose word]) (l.askClose word) := by
  have hasked := h.asked hlive
  rw [hopen, List.head?_eq_none_iff] at hasked
  constructor <;> simp [h.accepted, h.started, h.finished, h.broke, h.closed, hasked, hunsent]

theorem askAgain (h : Ledger seen l) (word : σ)
    (hasked : l.broken = true ∨ l.closing.isSome = true) :
    Ledger (seen ++ [.askClose word]) l := by
  constructor <;> simp [h.accepted, h.started, h.finished, h.broke, h.closed]
  intro hquiet
  have hlive := h.broke.mpr hquiet
  obtain ⟨first, hfirst⟩ := Option.isSome_iff_exists.mp (by simpa [hlive] using hasked)
  have hhead := h.asked hlive
  rw [hfirst] at hhead ⊢
  simp [hhead]

theorem sendClose (h : Ledger seen l) {word : σ} (hidle : l.flying = none)
    (hempty : l.waiting = []) (hasked : l.closing = some word) (hunsent : l.closeSent = false) :
    Ledger (seen ++ [.sendClose word])
      (l.sendClose hidle hempty (by simp [hasked])) := by
  constructor <;> simp [h.accepted, h.started, h.finished, h.broke, h.closed, hunsent, hasked]
  simpa [h.broke, hasked] using h.asked

theorem break_ (h : Ledger seen l) : Ledger (seen ++ [.breaks]) l.break_ := by
  constructor <;> simp [h.accepted, h.started, h.finished, h.closed]

end Ledger

end GrpcCbCore.Library
