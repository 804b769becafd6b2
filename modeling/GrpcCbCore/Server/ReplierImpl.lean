import GrpcCbCore.Common.Call
import GrpcCbCore.Library.Machine

/-! `ServerReplierImpl` and the threads that reply through copies of one
`ServerReplier`. It has no mutex: each access to `replied_` is a step of its own. -/
namespace GrpcCbCore.Server.ReplierImpl
open GrpcCbCore.Library

inductive Request where
  | replyStr (response : StdString)
  | replyError (status : Status)
  deriving DecidableEq, Repr

/-- The tag that a call makes, with what it gives to `StartReply` or
`StartReplyError`. -/
def Request.tag (sendInitMd : Bool) : Request → CqTag
  | .replyStr response => .serverReplierReply response sendInitMd
  | .replyError status => .serverReplierReplyError status sendInitMd

structure Impl where
  call : Call Empty := {}
  sendInitMd : Bool := true
  replied : Bool := false

/-- Where a thread is: outside, between the load of `replied_` and the store, or
between the store and the start. -/
inductive Pc where
  | idle
  | store (request : Request)
  | start (request : Request)
  deriving DecidableEq, Repr

/-- `if (replied_) return;` -/
def load (request : Request) (s : Impl) : Pc := if s.replied then .idle else .store request

/-- `replied_ = true;` -/
def store (s : Impl) : Impl := { s with replied := true }

/-- A new tag, and its start; a tag that was refused is deleted. -/
def start (grpc : Nat → Bool) (request : Request) (s : Impl) : Impl :=
  { s with call := (s.call.startBatch grpc (request.tag s.sendInitMd)).2 }

structure World where
  impl : Impl := {}
  threads : List Pc

/-- `load` begins a call of `ReplyStr` or `ReplyError`. -/
inductive Label where
  | load (thread : Nat) (request : Request)
  | store (thread : Nat)
  | start (thread : Nat)
  | complete (index : Nat) (success : Bool)
  deriving DecidableEq, Repr

def step (grpc : Nat → Bool) (w : World) : Label → Option World
  | .load thread request =>
      match w.threads[thread]? with
      | some .idle => some { w with threads := w.threads.set thread (load request w.impl) }
      | _ => none
  | .store thread =>
      match w.threads[thread]? with
      | some (.store request) =>
          some { w with impl := store w.impl, threads := w.threads.set thread (.start request) }
      | _ => none
  | .start thread =>
      match w.threads[thread]? with
      | some (.start request) =>
          some { w with impl := start grpc request w.impl, threads := w.threads.set thread .idle }
      | _ => none
  | .complete index success =>
      match w.impl.call.complete index success {} with
      | none => none
      | some (_, call) => some { w with impl := { w.impl with call := call } }

def machine (grpc : Nat → Bool) : Machine World Label where
  step := step grpc

def initial (n : Nat) : World where
  threads := List.replicate n .idle

section inversion

variable {grpc : Nat → Bool} {w w' : World}

theorem step_load {thread : Nat} {request : Request}
    (h : step grpc w (.load thread request) = some w') :
    w.threads[thread]? = some .idle ∧
      w' = { w with threads := w.threads.set thread (load request w.impl) } := by
  simp only [step] at h
  split at h
  · next hpc => exact ⟨hpc, by simpa using h.symm⟩
  · cases h

theorem step_store {thread : Nat} (h : step grpc w (.store thread) = some w') :
    ∃ request, w.threads[thread]? = some (.store request) ∧
      w' = { w with impl := store w.impl, threads := w.threads.set thread (.start request) } := by
  simp only [step] at h
  split at h
  · next request hpc => exact ⟨request, hpc, by simpa using h.symm⟩
  · cases h

theorem step_start {thread : Nat} (h : step grpc w (.start thread) = some w') :
    ∃ request, w.threads[thread]? = some (.start request) ∧
      w' = { w with
        impl := start grpc request w.impl
        threads := w.threads.set thread .idle } := by
  simp only [step] at h
  split at h
  · next request hpc => exact ⟨request, hpc, by simpa using h.symm⟩
  · cases h

theorem step_complete {index : Nat} {success : Bool}
    (h : step grpc w (.complete index success) = some w') :
    ∃ tag call, w.impl.call.complete index success {} = some (tag, call) ∧
      w' = { w with impl := { w.impl with call := call } } := by
  cases hcall : w.impl.call.complete index success {} with
  | none => simp [step, hcall] at h
  | some r =>
    simp only [step, hcall, Option.some.injEq] at h
    exact ⟨r.1, r.2, rfl, h.symm⟩

end inversion

end GrpcCbCore.Server.ReplierImpl
