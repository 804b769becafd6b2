import GrpcCbCore.Common.Call
import GrpcCbCore.Library.Machine

/-! `ClientAsyncReaderImpl`. `Start` and the completion of a read run under the
recursive mutex; the completion of the status batch does not, but it is the last
thing the reader does, and finds every later `Start` ignored. So any threads'
calls are one sequence. The callbacks may call `Start` again. -/
namespace GrpcCbCore.Client.ReaderImpl
open GrpcCbCore.Library

inductive Site where
  | startStatus | onReadStarted | onReadStatus | initStatus | readNextStatus
  deriving DecidableEq, Repr

inductive Note where
  | start (msgCb statusCb : Callback)
  | msgCb (cb : Nat) (sMsg : StdString)
  | msgCbReturns (status : Status)
  | statusCb (cb : Nat) (status : Status)
  | fault (site : Site)
  deriving DecidableEq, Repr

structure Impl where
  call : Call Note := {}
  request : StdString
  status : Status := .OK
  msgCb : Callback := none
  statusCb : Callback := none
  isStarted : Bool := false

namespace Impl

def note (n : Note) (s : Impl) : Impl := { s with call := s.call.note n }

/-- An assert: it leaves a mark in the history only where it fails. -/
def check (site : Site) (holds : Bool) (s : Impl) : Impl :=
  if holds then s else s.note (.fault site)

def startBatch (grpc : Nat → Bool) (tag : CqTag) (s : Impl) : Bool × Impl :=
  ((s.call.startBatch grpc tag).1, { s with call := (s.call.startBatch grpc tag).2 })

end Impl

def clientAsyncReaderImpl (request : StdString) : Impl where
  request := request

section

variable (grpc : Nat → Bool)

/-- `run` is what the status callback does to the reader, should it be called. -/
def callStatusCb (run : Impl → Impl) (s : Impl) : Impl :=
  match s.statusCb with
  | none => s
  | some cb => { run (s.note (.statusCb cb s.status)) with statusCb := none }

def readNext (run : Impl → Impl) (s : Impl) : Impl :=
  let s := s.check .readNextStatus s.status.ok
  match s.startBatch grpc .clientReaderRead with
  | (true, s) => s
  | (false, s) => callStatusCb run
      { s with status := .internalError (lit "Failed to async read server-side streaming.") }

def init (run : Impl → Impl) (s : Impl) : Bool × Impl :=
  let s := s.check .initStatus s.status.ok
  match s.startBatch grpc (.clientReaderInit s.request) with
  | (true, s) => (true, s)
  | (false, s) => (false, callStatusCb run
      { s with status := .internalError (lit "Failed to start async client reader.") })

def start (run : Impl → Impl) (msgCb statusCb : Callback) (s : Impl) : Impl :=
  if s.isStarted then s
  else
    let s := { s.note (.start msgCb statusCb) with
      isStarted := true, msgCb := msgCb, statusCb := statusCb }
    let s := s.check .startStatus s.status.ok
    match init grpc run s with
    | (true, s) => readNext grpc run s
    | (false, s) => s

/-- The static function: it has the call and a copy of the callback. -/
def recvStatus (run : Impl → Impl) (statusCb : Callback) (s : Impl) : Impl :=
  match s.startBatch grpc (.clientReaderAsyncRecvStatus statusCb) with
  | (true, s) => s
  | (false, s) =>
    match statusCb with
    | none => s
    | some cb => run (s.note (.statusCb cb (.internalError (lit "Failed to receive status."))))

/-- `runMsgCb` is what the message callback does to the reader, and returns. -/
def onRead (runMsgCb : Impl → Status × Impl) (run : Impl → Impl) (success : Bool)
    (received : Received) (s : Impl) : Impl :=
  let s := s.check .onReadStarted s.isStarted
  let s := s.check .onReadStatus s.status.ok
  if !success then
    callStatusCb run { s with status := .internalError (lit "ClientReaderReadCqTag failed.") }
  else
    match received.recvBuf with
    | none => recvStatus grpc run s.statusCb s
    | some recvBuf =>
      match getResultMsg recvBuf [] with
      | (status, sMsg) =>
        let s := { s with status := status }
        if !s.status.ok then callStatusCb run s
        else
          match s.msgCb with
          | none => readNext grpc run s
          | some cb =>
            match runMsgCb (s.note (.msgCb cb sMsg)) with
            | (status, s) =>
              let s := { s.note (.msgCbReturns status) with status := status }
              if !s.status.ok then callStatusCb run s else readNext grpc run s

/-- `ClientReaderAsyncRecvStatusCqTag::DoComplete`. -/
def recvStatusDoComplete (run : Impl → Impl) (statusCb : Callback) (success : Bool)
    (received : Received) (s : Impl) : Impl :=
  match statusCb with
  | none => s
  | some cb =>
    if success then run (s.note (.statusCb cb received.status))
    else run (s.note (.statusCb cb (.internalError (lit "Failed to receive status."))))

end

/-- A call of `Start`; `run` are the calls the status callback makes if this one
happens to invoke it. -/
inductive Op where
  | start (msgCb statusCb : Callback) (run : List Op)

mutual

def runOp (grpc : Nat → Bool) : Op → Impl → Impl
  | .start msgCb statusCb run, s => start grpc (runOps grpc run) msgCb statusCb s
termination_by structural op => op

def runOps (grpc : Nat → Bool) : List Op → Impl → Impl
  | [], s => s
  | op :: ops, s => runOps grpc ops (runOp grpc op s)
termination_by structural ops => ops

end

/-- What the callbacks do if a completion invokes them. -/
structure Script where
  msgCb : List Op := []
  msgCbResult : Status := .OK
  statusCb : List Op := []

def doComplete (grpc : Nat → Bool) (script : Script) (tag : CqTag) (success : Bool)
    (received : Received) (s : Impl) : Impl :=
  match tag with
  | .clientReaderRead =>
      onRead grpc (fun s => (script.msgCbResult, runOps grpc script.msgCb s))
        (runOps grpc script.statusCb) success received s
  | .clientReaderAsyncRecvStatus statusCb =>
      recvStatusDoComplete (runOps grpc script.statusCb) statusCb success received s
  | _ => s

inductive Label where
  | op (op : Op)
  | complete (index : Nat) (success : Bool) (received : Received) (script : Script)

def step (grpc : Nat → Bool) (s : Impl) : Label → Option Impl
  | .op op => some (runOp grpc op s)
  | .complete index success received script =>
      match s.call.complete index success received with
      | none => none
      | some (tag, call) =>
        some (doComplete grpc script tag success received { s with call := call })

def machine (grpc : Nat → Bool) : Machine Impl Label where
  step := step grpc

end GrpcCbCore.Client.ReaderImpl
