import GrpcCbCore.Common.Call

/-! `ServerWriterImpl`: the mutex-guarded sections of its operations, each a
function of the object, and the completion of a message batch. -/
namespace GrpcCbCore.Server.WriterImpl

/-- The asserts of the implementation, and `pop()` on an empty queue. -/
inductive Site where
  | asyncWriteQueue | asyncCloseQueue | tryToWriteNextPop | tryToWriteNextSending
  | tryToWriteNextIdle | sendStatusClosed | sendStatusStatus | sendStatusQueue
  | sendMsgClosed | sendMsgSending | destructorQueue
  deriving DecidableEq, Repr

inductive Note where
  | asyncWrite (response : StdString) (result : Bool)
  | asyncClose (status : Status)
  | syncWriteReturns (response : StdString) (ticket : Option Nat) (result : Bool)
  | destroy
  | fault (site : Site)
  deriving DecidableEq, Repr

structure Impl where
  call : Call Note := {}
  closed : Bool := false
  sendInitMd : Bool := true
  isSending : Bool := false
  highQueueSize : Nat := 0xFFFFFFFFFFFFFFFF
  queue : List StdString := []
  closeStatus : Option Status := none

namespace Impl

def note (n : Note) (s : Impl) : Impl := { s with call := s.call.note n }

/-- An assert: it leaves a mark in the history only where it fails. -/
def check (site : Site) (holds : Bool) (s : Impl) : Impl :=
  if holds then s else s.note (.fault site)

def startBatch (grpc : Nat → Bool) (tag : CqTag) (s : Impl) : Bool × Impl :=
  ((s.call.startBatch grpc tag).1, { s with call := (s.call.startBatch grpc tag).2 })

/-- `queue_.pop()`. On an empty queue C++ leaves the contents undefined; `junk`
is what they happen to be. -/
def pop (junk : List StdString) (s : Impl) : Impl :=
  match s.queue with
  | [] => { s.note (.fault .tryToWriteNextPop) with queue := junk }
  | _ :: rest => { s with queue := rest }

end Impl

section

variable (grpc : Nat → Bool)

def getQueueSize (s : Impl) : Nat := s.queue.length

def sendStatus (s : Impl) : Impl :=
  let s := s.check .sendStatusClosed (!s.closed)
  let s := s.check .sendStatusStatus s.closeStatus.isSome
  let s := s.check .sendStatusQueue s.queue.isEmpty
  let s := { s with closed := true }
  match s.closeStatus with
  | none => s
  | some status => (s.startBatch grpc (.serverWriterSendStatus status s.sendInitMd)).2

def sendMsg (msg : StdString) (s : Impl) : Bool × Impl :=
  let s := s.check .sendMsgClosed (!s.closed)
  let s := s.check .sendMsgSending (!s.isSending)
  let s := { s with isSending := true }
  match s.startBatch grpc (.serverWriterWrite msg s.sendInitMd) with
  | (true, s) => (true, { s with sendInitMd := false })
  | (false, s) => (false, { s with closed := true, queue := [] })

def asyncWrite (response : StdString) (s : Impl) : Bool × Impl :=
  if s.closed || s.closeStatus.isSome then (false, s)
  else if s.isSending then (true, { s with queue := s.queue ++ [response] })
  else sendMsg grpc response (s.check .asyncWriteQueue s.queue.isEmpty)

def asyncClose (status : Status) (s : Impl) : Impl :=
  if s.closed || s.closeStatus.isSome then s
  else
    let s := { s with closeStatus := some status }
    if s.isSending then s
    else sendStatus grpc (s.check .asyncCloseQueue s.queue.isEmpty)

/-- The completion callback of a message batch, whatever its success flag. -/
def tryToWriteNext (junk : List StdString) (s : Impl) : Impl :=
  if s.closed then s
  else
    let s := { s with isSending := false }
    match s.queue with
    | front :: _ =>
      let s := (sendMsg grpc front s).2
      let s := s.pop junk
      s.check .tryToWriteNextSending s.isSending
    | [] =>
      if s.closeStatus.isSome then sendStatus grpc s
      else s.check .tryToWriteNextIdle (!s.isSending)

end

end GrpcCbCore.Server.WriterImpl
