import GrpcCbCore.Common.Call
import GrpcCbCore.Library.Machine

/-! `ServerReader` and `ServerReaderCqTag`. The reader keeps no state: each tag
that completes starts the next one, or ends the stream. -/
namespace GrpcCbCore.Server.Reader
open GrpcCbCore.Library

inductive Site where
  | endOnErrorStatus
  deriving DecidableEq, Repr

inductive Note where
  | onMsgStr (msgStr : StdString)
  | onMsgStrReturns (status : Status)
  | onError (status : Status)
  | onEnd
  | fault (site : Site)
  deriving DecidableEq, Repr

/-- A reader on a call; it is started once. -/
structure ServerReader where
  call : Call Note := {}
  started : Bool := false

namespace ServerReader

def note (n : Note) (s : ServerReader) : ServerReader := { s with call := s.call.note n }

/-- An assert: it leaves a mark in the history only where it fails. -/
def check (site : Site) (holds : Bool) (s : ServerReader) : ServerReader :=
  if holds then s else s.note (.fault site)

def startBatch (grpc : Nat → Bool) (tag : CqTag) (s : ServerReader) : Bool × ServerReader :=
  ((s.call.startBatch grpc tag).1, { s with call := (s.call.startBatch grpc tag).2 })

end ServerReader

section

variable (grpc : Nat → Bool)

def start (s : ServerReader) : ServerReader :=
  let s := { s with started := true }
  match s.startBatch grpc .serverReader with
  | (true, s) => s
  | (false, s) =>
    (s.note (.onError (.internalError (lit "Failed to init client streaming.")))).note .onEnd

def endOnError (status : Status) (s : ServerReader) : ServerReader :=
  let s := s.check .endOnErrorStatus (!status.ok)
  (s.note (.onError status)).note .onEnd

/-- `ServerReaderCqTag::DoComplete`; `onMsgStr` is what the callback returns if it
is called. -/
def doComplete (onMsgStr : Status) (success : Bool) (received : Received) (s : ServerReader) :
    ServerReader :=
  if !success then endOnError (.internalError (lit "ServerReaderCqTag failed.")) s
  else
    match received.recvBuf with
    | none => s.note .onEnd
    | some recvBuf =>
      match getResultMsg recvBuf [] with
      | (status, msg) =>
        if !status.ok then endOnError status s
        else
          let s := (s.note (.onMsgStr msg)).note (.onMsgStrReturns onMsgStr)
          if !onMsgStr.ok then endOnError onMsgStr s
          else
            match s.startBatch grpc .serverReader with
            | (true, s) => s
            | (false, s) =>
              endOnError (.internalError (lit "Failed to read client-side streaming.")) s

end

inductive Label where
  | start
  | complete (index : Nat) (success : Bool) (received : Received) (onMsgStr : Status)

def step (grpc : Nat → Bool) (s : ServerReader) : Label → Option ServerReader
  | .start => if s.started then none else some (start grpc s)
  | .complete index success received onMsgStr =>
      match s.call.complete index success received with
      | none => none
      | some (tag, call) =>
        match tag with
        | .serverReader => some (doComplete grpc onMsgStr success received { s with call := call })
        | _ => some { s with call := call }

def machine (grpc : Nat → Bool) : Machine ServerReader Label where
  step := step grpc

end GrpcCbCore.Server.Reader
