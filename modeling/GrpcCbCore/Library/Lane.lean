import Mathlib.Logic.Relation
import Mathlib.Data.List.Basic
import Mathlib.Tactic.Simps.Basic

/-! A lane hands messages to a transport that takes one at a time. Messages
wait in order behind the one in flight, and a closing word, once asked for, is
sent after the last of them. A lane that breaks sends nothing more. -/
namespace GrpcCbCore.Library

/-- The three message lists are the lane's whole past and future, in order; a
lane whose closing word was sent has nothing left to deliver. -/
structure Lane (α σ : Type*) where
  finished : List α
  flying : Option α
  waiting : List α
  closing : Option σ
  closeSent : Bool
  broken : Bool
  close_last : closeSent = true → flying = none ∧ waiting = [] ∧ closing.isSome = true

namespace Lane

variable {α σ : Type*}

@[simps] def fresh : Lane α σ where
  finished := []
  flying := none
  waiting := []
  closing := none
  closeSent := false
  broken := false
  close_last := by simp

/-- Handed to the transport, in order. -/
def started (l : Lane α σ) : List α := l.finished ++ l.flying.toList

/-- Taken from the caller, in order: nothing is lost, repeated or reordered. -/
def accepted (l : Lane α σ) : List α := l.started ++ l.waiting

@[simps] def accept (l : Lane α σ) (m : α) (hopen : l.closing = none) : Lane α σ where
  __ := l
  waiting := l.waiting ++ [m]
  close_last := by
    intro h
    have hclosing := (l.close_last h).2.2
    simp [hopen] at hclosing

@[simps] def start (l : Lane α σ) (m : α) (rest : List α) (hwaiting : l.waiting = m :: rest) :
    Lane α σ where
  __ := l
  flying := some m
  waiting := rest
  close_last := by
    intro h
    have hempty := (l.close_last h).2.1
    simp [hwaiting] at hempty

@[simps] def finish (l : Lane α σ) : Lane α σ where
  __ := l
  finished := l.started
  flying := none
  close_last := fun h => ⟨rfl, (l.close_last h).2⟩

@[simps] def askClose (l : Lane α σ) (word : σ) : Lane α σ where
  __ := l
  closing := some word
  close_last := fun h => ⟨(l.close_last h).1, (l.close_last h).2.1, rfl⟩

@[simps] def sendClose (l : Lane α σ) (hidle : l.flying = none) (hempty : l.waiting = [])
    (hasked : l.closing.isSome = true) : Lane α σ where
  __ := l
  closeSent := true
  close_last := fun _ => ⟨hidle, hempty, hasked⟩

@[simps] def break_ (l : Lane α σ) : Lane α σ where
  __ := l
  broken := true
  close_last := l.close_last

/-- What a lane may do. Starting needs the transport idle; the closing word is
recorded once, and sent once, when nothing is left to send. -/
inductive Step : Lane α σ → Lane α σ → Prop
  | accept (l : Lane α σ) (m : α) (hopen : l.closing = none) (hlive : l.broken = false) :
      Step l (l.accept m hopen)
  | start (l : Lane α σ) (m : α) (rest : List α) (hwaiting : l.waiting = m :: rest)
      (hidle : l.flying = none) (hlive : l.broken = false) : Step l (l.start m rest hwaiting)
  | finish (l : Lane α σ) (hbusy : l.flying.isSome = true) : Step l l.finish
  | askClose (l : Lane α σ) (word : σ) (hopen : l.closing = none) : Step l (l.askClose word)
  | sendClose (l : Lane α σ) (hidle : l.flying = none) (hempty : l.waiting = [])
      (hasked : l.closing.isSome = true) (honce : l.closeSent = false)
      (hlive : l.broken = false) : Step l (l.sendClose hidle hempty hasked)
  | break_ (l : Lane α σ) : Step l l.break_

abbrev Steps : Lane α σ → Lane α σ → Prop := Relation.ReflTransGen Step

section api

variable (l : Lane α σ)

@[simp] theorem started_accept (m : α) (hopen : l.closing = none) :
    (l.accept m hopen).started = l.started := rfl

@[simp] theorem accepted_accept (m : α) (hopen : l.closing = none) :
    (l.accept m hopen).accepted = l.accepted ++ [m] := by
  simp [accepted, accept, started]

theorem started_start {m : α} {rest : List α} (hwaiting : l.waiting = m :: rest)
    (hidle : l.flying = none) : (l.start m rest hwaiting).started = l.started ++ [m] := by
  simp [started, start, hidle]

theorem accepted_start {m : α} {rest : List α} (hwaiting : l.waiting = m :: rest)
    (hidle : l.flying = none) : (l.start m rest hwaiting).accepted = l.accepted := by
  simp [accepted, started_start l hwaiting hidle, hwaiting]

@[simp] theorem started_finish : l.finish.started = l.started := by
  simp [started, finish]

@[simp] theorem accepted_finish : l.finish.accepted = l.accepted := by
  simp [accepted, finish, started]

@[simp] theorem started_askClose (word : σ) : (l.askClose word).started = l.started := rfl
@[simp] theorem accepted_askClose (word : σ) : (l.askClose word).accepted = l.accepted := rfl

@[simp] theorem started_sendClose (hidle : l.flying = none) (hempty : l.waiting = [])
    (hasked : l.closing.isSome = true) :
    (l.sendClose hidle hempty hasked).started = l.started := rfl

@[simp] theorem accepted_sendClose (hidle : l.flying = none) (hempty : l.waiting = [])
    (hasked : l.closing.isSome = true) :
    (l.sendClose hidle hempty hasked).accepted = l.accepted := rfl

@[simp] theorem started_break_ : l.break_.started = l.started := rfl
@[simp] theorem accepted_break_ : l.break_.accepted = l.accepted := rfl

end api

/-- An unbroken lane at rest has nothing it could send. -/
def Settled (l : Lane α σ) : Prop :=
  l.broken = false → l.flying = none →
    l.waiting = [] ∧ (l.closing.isSome = true → l.closeSent = true)

theorem settled_fresh : (fresh : Lane α σ).Settled :=
  fun _ _ => ⟨rfl, by simp [fresh]⟩

theorem settled_of_busy {l : Lane α σ} (h : l.flying.isSome = true ∨ l.broken = true) :
    l.Settled := by
  intro hlive hidle
  simp [hlive, hidle] at h

theorem closed_length_le (l : Lane α σ) :
    (if l.closeSent then l.closing.toList else []).length ≤ 1 := by
  split
  · cases l.closing <;> simp
  · simp

theorem accepted_of_idle {l : Lane α σ} (hidle : l.flying = none) (hempty : l.waiting = []) :
    l.accepted = l.finished := by
  simp [accepted, started, hidle, hempty]

section unsent

variable {l : Lane α σ}

theorem unsent_of_flying {m : α} (hflying : l.flying = some m) : l.closeSent = false := by
  by_contra hsent
  have hidle := (l.close_last (by simpa using hsent)).1
  simp [hflying] at hidle

theorem unsent_of_waiting {m : α} {rest : List α} (hwaiting : l.waiting = m :: rest) :
    l.closeSent = false := by
  by_contra hsent
  have hempty := (l.close_last (by simpa using hsent)).2.1
  simp [hwaiting] at hempty

theorem unsent_of_open (hopen : l.closing = none) : l.closeSent = false := by
  by_contra hsent
  have hasked := (l.close_last (by simpa using hsent)).2.2
  simp [hopen] at hasked

end unsent

/-- A message that meets an idle lane passes through the queue at once. -/
theorem steps_acceptStart {l : Lane α σ} (m : α) (hopen : l.closing = none)
    (hlive : l.broken = false) (hidle : l.flying = none) (hempty : l.waiting = []) :
    Steps l ((l.accept m hopen).start m [] (by simp [accept, hempty])) :=
  .tail (.single (.accept l m hopen hlive)) (.start _ m [] _ hidle hlive)

end Lane

end GrpcCbCore.Library
