import GrpcCbCore.Common.Call
import GrpcCbCore.Library.Machine

/-! `ClientAsyncWriterImpl`. Every operation and completion runs under the
mutex, so any threads' calls are one sequence of them. The mutex is recursive:
a close callback may call the object again, and here says which calls it makes. -/
namespace GrpcCbCore.Client.WriterImpl
open GrpcCbCore.Library

inductive Site where
  | constructorClosing | onSentQueue | onSentCloseCb | sendCloseClosing | sendCloseOnce
  | sendCloseStatus | tryToCallCloseCbStatus | onClosedCloseCb | getResultMsgRecvBuf
  | sendNextQueue | sendNextStatus
  deriving DecidableEq, Repr

inductive Note where
  | write (request : StdString) (result : Bool)
  | close (hasCloseCb : Bool)
  | closeCb (status : Status) (sMsg : StdString)
  | fault (site : Site)
  deriving DecidableEq, Repr

/-- Of `close_cb_` the object only ever knows whether it is set. `crashed` is not the
object's: behind the read of a null response nothing follows. -/
structure Impl where
  call : Call Note := {}
  status : Status := .OK
  hasSentClose : Bool := false
  closeCb : Bool := false
  isClosing : Bool := false
  msgQueue : List StdString := []
  crashed : Bool := false

namespace Impl

def note (n : Note) (s : Impl) : Impl := { s with call := s.call.note n }

/-- An assert: it leaves a mark in the history only where it fails. -/
def check (site : Site) (holds : Bool) (s : Impl) : Impl :=
  if holds then s else s.note (.fault site)

def startBatch (grpc : Nat → Bool) (tag : CqTag) (s : Impl) : Bool × Impl :=
  ((s.call.startBatch grpc tag).1, { s with call := (s.call.startBatch grpc tag).2 })

def setInternalError (details : StdString) (s : Impl) : Impl :=
  { s with status := .internalError details }

end Impl

section

variable (grpc : Nat → Bool)

def clientAsyncWriterImpl : Impl :=
  match ({} : Impl).startBatch grpc .clientSendInitMd with
  | (true, s) => s
  | (false, s) =>
    let s := s.setInternalError (lit "Failed to init client-side streaming.")
    s.check .constructorClosing (!s.isClosing)

/-- `cb` is what the close callback does to the object, should it be called. -/
def callCloseCb (cb : Impl → Impl) (sMsg : StdString) (s : Impl) : Impl :=
  if s.closeCb then { cb (s.note (.closeCb s.status sMsg)) with closeCb := false } else s

def tryToCallCloseCb (cb : Impl → Impl) (s : Impl) : Impl :=
  let s := s.check .tryToCallCloseCbStatus (!s.status.ok)
  if s.isClosing then callCloseCb cb [] s else s

def sendClose (cb : Impl → Impl) (s : Impl) : Impl :=
  let s := s.check .sendCloseClosing s.isClosing
  let s := s.check .sendCloseOnce (!s.hasSentClose)
  let s := { s with hasSentClose := true }
  let s := s.check .sendCloseStatus s.status.ok
  match s.startBatch grpc .clientWriterClose with
  | (true, s) => s
  | (false, s) =>
    callCloseCb cb [] (s.setInternalError (lit "Failed to close client-side streaming."))

def sendNext (cb : Impl → Impl) (s : Impl) : Bool × Impl :=
  let s := s.check .sendNextQueue (!s.msgQueue.isEmpty)
  let s := s.check .sendNextStatus s.status.ok
  match s.msgQueue with
  | [] => (false, s)
  | front :: _ =>
    match s.startBatch grpc (.clientSendMsg front) with
    | (true, s) => (true, s)
    | (false, s) =>
      (false, tryToCallCloseCb cb
        (s.setInternalError (lit "Failed to write client-side streaming.")))

def write (cb : Impl → Impl) (request : StdString) (s : Impl) : Bool × Impl :=
  if !s.status.ok then (false, s)
  else if s.isClosing then (false, s)
  else
    let isSending := !s.msgQueue.isEmpty
    let s := { s with msgQueue := s.msgQueue ++ [request] }
    if isSending then (true, s) else sendNext grpc cb s

def close (cb : Impl → Impl) (hasCloseCb : Bool) (s : Impl) : Impl :=
  if s.isClosing then s
  else
    let s := { s with isClosing := true, closeCb := hasCloseCb }
    if !s.status.ok then callCloseCb cb [] s
    else if s.msgQueue.isEmpty then sendClose grpc cb s
    else s

def onSent (cb : Impl → Impl) (success : Bool) (s : Impl) : Impl :=
  let s := s.check .onSentQueue (!s.msgQueue.isEmpty)
  let s := { s with msgQueue := s.msgQueue.tail }
  if !s.status.ok then s.check .onSentCloseCb (!s.closeCb)
  else if !success then
    tryToCallCloseCb cb (s.setInternalError (lit "Failed to send message."))
  else if !s.msgQueue.isEmpty then (sendNext grpc cb s).2
  else if s.isClosing then sendClose grpc cb s
  else s

/-- The success flag of the close batch is not looked at. -/
def onClosed (cb : Impl → Impl) (received : Received) (s : Impl) : Impl :=
  if !s.status.ok then s.check .onClosedCloseCb (!s.closeCb)
  else if !received.status.ok then callCloseCb cb [] { s with status := received.status }
  else
    match s.call.getResultMsg (.fault .getResultMsgRecvBuf) received.recvBuf [] with
    | (none, call) => { s with call := call, crashed := true }
    | (some (status, sMsg), call) => callCloseCb cb sMsg { s with call := call, status := status }

end

/-- One public call; `cb` are the calls the close callback makes if this call
happens to invoke it. -/
inductive Op where
  | write (request : StdString) (cb : List Op)
  | close (hasCloseCb : Bool) (cb : List Op)

mutual

def runOp (grpc : Nat → Bool) : Op → Impl → Impl
  | .write request cb, s =>
      let r := write grpc (runOps grpc cb) request s
      r.2.note (.write request r.1)
  | .close hasCloseCb cb, s => close grpc (runOps grpc cb) hasCloseCb (s.note (.close hasCloseCb))
termination_by structural op => op

def runOps (grpc : Nat → Bool) : List Op → Impl → Impl
  | [], s => s
  | op :: ops, s => runOps grpc ops (runOp grpc op s)
termination_by structural ops => ops

end

/-- `DoComplete`: the tags of a message and of the close batch have callbacks. -/
def doComplete (grpc : Nat → Bool) (cb : Impl → Impl) (tag : CqTag) (success : Bool)
    (received : Received) (s : Impl) : Impl :=
  match tag with
  | .clientSendMsg _ => onSent grpc cb success s
  | .clientWriterClose => onClosed cb received s
  | _ => s

inductive Label where
  | op (op : Op)
  | complete (index : Nat) (success : Bool) (received : Received) (cb : List Op)

def step (grpc : Nat → Bool) (s : Impl) (label : Label) : Option Impl :=
  if s.crashed then none
  else
    match label with
    | .op op => some (runOp grpc op s)
    | .complete index success received cb =>
        match s.call.complete index success received with
        | none => none
        | some (tag, call) =>
          some (doComplete grpc (runOps grpc cb) tag success received { s with call := call })

def machine (grpc : Nat → Bool) : Machine Impl Label where
  step := step grpc

section steps

variable {grpc : Nat → Bool} {s t : Impl}

theorem step_running {label : Label} (hstep : step grpc s label = some t) : s.crashed = false := by
  cases hcrashed : s.crashed with
  | false => rfl
  | true => simp [step, hcrashed] at hstep

theorem step_op {op : Op} (hstep : step grpc s (.op op) = some t) : t = runOp grpc op s := by
  have hrunning := step_running hstep
  simpa [step, hrunning, eq_comm] using hstep

theorem step_complete {index : Nat} {success : Bool} {received : Received} {cb : List Op}
    (hstep : step grpc s (.complete index success received cb) = some t) :
    ∃ tag call, s.call.complete index success received = some (tag, call) ∧
      t = doComplete grpc (runOps grpc cb) tag success received { s with call := call } := by
  have hrunning := step_running hstep
  cases hcall : s.call.complete index success received with
  | none => simp [step, hrunning, hcall] at hstep
  | some found =>
    obtain ⟨tag, call⟩ := found
    exact ⟨tag, call, rfl, by simpa [step, hrunning, hcall, eq_comm] using hstep⟩

end steps

end GrpcCbCore.Client.WriterImpl
