import GrpcCbCore.Common.Stream

/-! What grpc carries of a stream from one side of a call to the other: the messages
of accepted batches, in order, and behind the last of them the close. -/
namespace GrpcCbCore
open Library

@[simp] def Received.message? (received : Received) : Option StdString :=
  match received.recvBuf with
  | some (.readable bytes) => some bytes
  | _ => none

@[simp] def Event.completion {Note : Type} : Event Note → Option (CqTag × Bool × Received)
  | .complete tag success received => some (tag, success, received)
  | _ => none

/-- A message that a read of this kind has brought. -/
@[simp] def Event.brought {Note : Type} (read : CqTag) : Event Note → Option StdString
  | .complete tag true received => if tag = read then received.message? else none
  | _ => none

namespace Call

variable {Note : Type} (c : Call Note)

def completions : List (CqTag × Bool × Received) := collect Event.completion c.log

@[simp] theorem completions_note (n : Note) : (c.note n).completions = c.completions := by
  simp [completions]

@[simp] theorem completions_startBatch (grpc : Nat → Bool) (tag : CqTag) :
    (c.startBatch grpc tag).2.completions = c.completions := by
  simp [completions]

theorem completions_complete {c call : Call Note} {index : Nat} {success : Bool}
    {received : Received} {tag : CqTag}
    (hcall : c.complete index success received = some (tag, call)) :
    call.completions = c.completions ++ [(tag, success, received)] := by
  simp [completions, complete_log hcall]

section collect

variable {β : Type} {f : Event Note → Option β} {c c' : Call Note}

theorem collect_completions (h : ∀ e, e.completion = none → f e = none) :
    collect f c.log = c.completions.filterMap fun e => f (.complete e.1 e.2.1 e.2.2) := by
  unfold completions
  induction c.log with
  | nil => rfl
  | cons e log ih =>
    rw [collect_cons, collect_cons, List.filterMap_append, ih]
    cases e with
    | complete tag success received => cases hf : f (.complete tag success received) <;> simp [hf]
    | start tag accepted => simp [h (.start tag accepted) rfl]
    | note n => simp [h (.note n) rfl]

theorem collect_same (h : ∀ e, e.completion = none → f e = none)
    (hsame : c'.completions = c.completions) : collect f c'.log = collect f c.log := by
  rw [collect_completions h, collect_completions h, hsame]

theorem collect_completed (h : ∀ e, e.completion = none → f e = none) {tag : CqTag}
    {success : Bool} {received : Received}
    (hmore : c'.completions = c.completions ++ [(tag, success, received)]) :
    collect f c'.log = collect f c.log ++ (f (.complete tag success received)).toList := by
  rw [collect_completions h, collect_completions h, hmore, List.filterMap_append]
  cases hf : f (.complete tag success received) <;> simp [hf]

end collect

end Call

/-- What a read may complete with, without an error, behind `taken` messages: the next of
those that were sent; or no buffer, if none is left and the sender has closed. Of a
buffer that cannot be read nothing is said. -/
def Carries (sent : List StdString) (closed : Prop) (taken : Nat) (received : Received) : Prop :=
  match received.recvBuf with
  | some (.readable bytes) => sent[taken]? = some bytes
  | some .unreadable => True
  | none => closed ∧ taken = sent.length

section carries

variable {sent : List StdString} {closed closed' : Prop} {taken : Nat} {received : Received}

theorem Carries.imp (h : Carries sent closed taken received) (hclosed : closed → closed') :
    Carries sent closed' taken received := by
  unfold Carries at h ⊢
  split at h
  · exact h
  · trivial
  · exact ⟨hclosed h.1, h.2⟩

/-- A sender that has closed leaves no read without an answer. -/
theorem exists_carried (hclosed : closed) (htaken : taken ≤ sent.length) :
    ∃ recvBuf, recvBuf ≠ some .unreadable ∧
      ∀ status, Carries sent closed taken { recvBuf := recvBuf, status := status } := by
  rcases Nat.lt_or_eq_of_le htaken with hless | hall
  · exact ⟨some (.readable sent[taken]), by simp, fun _ => by simp [Carries, hless]⟩
  · exact ⟨none, by simp, fun _ => ⟨hclosed, hall⟩⟩

end carries

end GrpcCbCore
