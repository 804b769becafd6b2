import GrpcCbCore.Common.Call
import GrpcCbCore.Library.Machine

/-! `ClientAsyncReaderWriterImpl`. Every operation and completion runs under
the recursive mutex, so any threads' calls are one sequence of them; the
message and status callbacks may call the object again. -/
namespace GrpcCbCore.Client.ReaderWriterImpl
open GrpcCbCore.Library

inductive Site where
  | writeEnded | closeWritingOnce | closeWritingEnded | onSentQueue | onSentStatusCb
  | onSentEnded | onReadStarted | onReadStatusCb | sendNextQueue | sendNextStatus
  | readNextStatus | sendCloseClosing | sendCloseOnce | sendCloseStatus
  | setInternalErrorStatus | endOnErrorStatusError | endOnErrorStatusStatus
  deriving DecidableEq, Repr

inductive Note where
  | write (msg : StdString) (result : Bool)
  | closeWriting
  | setErrorStatus (status : Status)
  | status (status : Status)
  | msgCb (sMsg : StdString)
  | msgCbReturns (status : Status)
  | statusCb (status : Status)
  | fault (site : Site)
  deriving DecidableEq, Repr

/-- Of its callbacks the object only ever knows whether they are set. -/
structure Impl where
  call : Call Note := {}
  status : Status := .OK
  msgCb : Bool := false
  statusCb : Bool
  inited : Bool := false
  readingStarted : Bool := false
  writingClosing : Bool := false
  readingEnded : Bool := false
  writingEnded : Bool := false
  msgQueue : List StdString := []
  hasSentClose : Bool := false

namespace Impl

def note (n : Note) (s : Impl) : Impl := { s with call := s.call.note n }

/-- An assert: it leaves a mark in the history only where it fails. -/
def check (site : Site) (holds : Bool) (s : Impl) : Impl :=
  if holds then s else s.note (.fault site)

def startBatch (grpc : Nat → Bool) (tag : CqTag) (s : Impl) : Bool × Impl :=
  ((s.call.startBatch grpc tag).1, { s with call := (s.call.startBatch grpc tag).2 })

def setStatus (status : Status) (s : Impl) : Impl :=
  { s.note (.status status) with status := status }

end Impl

/-- The constructor; `status_cb` may be null. -/
def clientAsyncReaderWriterImpl (statusCb : Bool) : Impl where
  statusCb := statusCb

section

variable (grpc : Nat → Bool)

/-- `cb` is what the status callback does to the object, should it be called. -/
def callStatusCb (cb : Impl → Impl) (s : Impl) : Impl :=
  if s.statusCb then { cb (s.note (.statusCb s.status)) with statusCb := false } else s

def endOnErrorStatus (cb : Impl → Impl) (errorStatus : Status) (s : Impl) : Impl :=
  let s := s.check .endOnErrorStatusError (!errorStatus.ok)
  let s := s.check .endOnErrorStatusStatus s.status.ok
  let s := callStatusCb cb (s.setStatus errorStatus)
  { s with readingEnded := true, writingEnded := true }

def setInternalError (cb : Impl → Impl) (sError : StdString) (s : Impl) : Impl :=
  let s := s.check .setInternalErrorStatus s.status.ok
  endOnErrorStatus cb (.internalError sError) s

def sendClose (cb : Impl → Impl) (s : Impl) : Impl :=
  let s := s.check .sendCloseClosing s.writingClosing
  let s := s.check .sendCloseOnce (!s.hasSentClose)
  let s := { s with hasSentClose := true }
  let s := s.check .sendCloseStatus s.status.ok
  let s := { s with writingEnded := true }
  match s.startBatch grpc .clientSendClose with
  | (true, s) => s
  | (false, s) => setInternalError cb (lit "Failed to close writing.") s

def readNext (cb : Impl → Impl) (s : Impl) : Impl :=
  let s := s.check .readNextStatus s.status.ok
  match s.startBatch grpc .clientReaderRead with
  | (true, s) => s
  | (false, s) =>
    setInternalError cb (lit "Failed to async read bi-directional streaming.") s

def sendNext (cb : Impl → Impl) (s : Impl) : Bool × Impl :=
  let s := s.check .sendNextQueue (!s.msgQueue.isEmpty)
  let s := s.check .sendNextStatus s.status.ok
  match s.msgQueue with
  | [] => (false, s)
  | front :: _ =>
    match s.startBatch grpc (.clientSendMsg front) with
    | (true, s) => (true, s)
    | (false, s) =>
      (false, setInternalError cb (lit "Failed to write bi-directional streaming.") s)

def initIfNot (cb : Impl → Impl) (s : Impl) : Impl :=
  if s.inited then s
  else
    let s := { s with inited := true }
    if !s.status.ok then s
    else
      match s.startBatch grpc .clientSendInitMd with
      | (false, s) => setInternalError cb
          (lit "Failed to send init metadata to init bi-directional streaming.") s
      | (true, s) =>
        match s.startBatch grpc .clientRecvInitMd with
        | (false, s) => setInternalError cb
            (lit "Failed to receive init metadata to init bi-directional streaming.") s
        | (true, s) => s

def write (cb : Impl → Impl) (msg : StdString) (s : Impl) : Bool × Impl :=
  let s := initIfNot grpc cb s
  if !s.status.ok then (false, s.check .writeEnded (s.readingEnded && s.writingEnded))
  else if s.writingClosing || s.writingEnded then (false, s)
  else
    let isSending := !s.msgQueue.isEmpty
    let s := { s with msgQueue := s.msgQueue ++ [msg] }
    if isSending then (true, s) else sendNext grpc cb s

def closeWriting (cb : Impl → Impl) (s : Impl) : Impl :=
  if s.writingClosing then s
  else
    let s := { s with writingClosing := true }
    if !s.status.ok then s
    else if !s.msgQueue.isEmpty then s
    else
      let s := s.check .closeWritingOnce (!s.hasSentClose)
      let s := sendClose grpc cb s
      s.check .closeWritingEnded s.writingEnded

def readEach (cb : Impl → Impl) (hasMsgCb : Bool) (s : Impl) : Impl :=
  if s.readingStarted then s
  else
    let s := initIfNot grpc cb { s with readingStarted := true }
    if !s.status.ok then s
    else readNext grpc cb { s with msgCb := hasMsgCb }

def setErrorStatus (cb : Impl → Impl) (errorStatus : ErrorStatus) (s : Impl) : Impl :=
  if s.status.ok then endOnErrorStatus cb errorStatus.status s
  else s.setStatus errorStatus.status

def onSent (cb : Impl → Impl) (success : Bool) (s : Impl) : Impl :=
  let s := s.check .onSentQueue (!s.msgQueue.isEmpty)
  let s := { s with msgQueue := s.msgQueue.tail }
  if !s.status.ok then s.check .onSentStatusCb (!s.statusCb)
  else if !success then setInternalError cb (lit "Failed to send message.") s
  else if !s.msgQueue.isEmpty then (sendNext grpc cb s).2
  else if !s.writingClosing then s
  else
    let s := sendClose grpc cb s
    let s := s.check .onSentEnded s.writingEnded
    if s.readingEnded then callStatusCb cb s else s

/-- `msgCb` is what the message callback does to the object, and returns. -/
def onRead (msgCb : Impl → Status × Impl) (cb : Impl → Impl) (success : Bool)
    (received : Received) (s : Impl) : Impl :=
  let s := s.check .onReadStarted s.readingStarted
  if !s.status.ok then s.check .onReadStatusCb (!s.statusCb)
  else if !success then setInternalError cb (lit "ClientReaderReadCqTag failed.") s
  else
    match received.recvBuf with
    | none =>
      let s := { s with readingEnded := true }
      if s.writingEnded then callStatusCb cb s else s
    | some recvBuf =>
      match getResultMsg recvBuf [] with
      | (status, sMsg) =>
        if !status.ok then endOnErrorStatus cb status s
        else if s.msgCb then
          match msgCb (s.note (.msgCb sMsg)) with
          | (status, s) =>
            let s := s.note (.msgCbReturns status)
            if !status.ok then endOnErrorStatus cb status s else readNext grpc cb s
        else readNext grpc cb s

end

/-- One public call; `cb` are the calls the status callback makes if this call
happens to invoke it. -/
inductive Op where
  | write (msg : StdString) (cb : List Op)
  | closeWriting (cb : List Op)
  | readEach (hasMsgCb : Bool) (cb : List Op)
  | setErrorStatus (errorStatus : ErrorStatus) (cb : List Op)

mutual

def runOp (grpc : Nat → Bool) : Op → Impl → Impl
  | .write msg cb, s =>
      let r := write grpc (runOps grpc cb) msg s
      r.2.note (.write msg r.1)
  | .closeWriting cb, s => closeWriting grpc (runOps grpc cb) (s.note .closeWriting)
  | .readEach hasMsgCb cb, s => readEach grpc (runOps grpc cb) hasMsgCb s
  | .setErrorStatus errorStatus cb, s =>
      setErrorStatus (runOps grpc cb) errorStatus (s.note (.setErrorStatus errorStatus.status))
termination_by structural op => op

def runOps (grpc : Nat → Bool) : List Op → Impl → Impl
  | [], s => s
  | op :: ops, s => runOps grpc ops (runOp grpc op s)
termination_by structural ops => ops

end

/-- What the callbacks do if a completion invokes them. -/
structure Script where
  msgCb : List Op := []
  msgCbResult : Status := .OK
  statusCb : List Op := []

/-- `DoComplete`: the tags of a message and of a read have callbacks. -/
def doComplete (grpc : Nat → Bool) (script : Script) (tag : CqTag) (success : Bool)
    (received : Received) (s : Impl) : Impl :=
  match tag with
  | .clientSendMsg _ => onSent grpc (runOps grpc script.statusCb) success s
  | .clientReaderRead =>
      onRead grpc (fun s => (script.msgCbResult, runOps grpc script.msgCb s))
        (runOps grpc script.statusCb) success received s
  | _ => s

inductive Label where
  | op (op : Op)
  | complete (index : Nat) (success : Bool) (received : Received) (script : Script)

def step (grpc : Nat → Bool) (s : Impl) : Label → Option Impl
  | .op op => some (runOp grpc op s)
  | .complete index success received script =>
      match s.call.complete index success received with
      | none => none
      | some (tag, call) =>
        some (doComplete grpc script tag success received { s with call := call })

def machine (grpc : Nat → Bool) : Machine Impl Label where
  step := step grpc

end GrpcCbCore.Client.ReaderWriterImpl
