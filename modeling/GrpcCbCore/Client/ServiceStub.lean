import GrpcCbCore.Common.Call
import GrpcCbCore.Library.Machine

/-! The unary calls of `ServiceStub`: `SyncRequest` with `ClientCallCqTag`, and
`AsyncRequest` with `ClientAsyncCallCqTag`. -/
namespace GrpcCbCore.Client.ServiceStub
open GrpcCbCore.Library

inductive Site where
  | getResultMsgRecvBuf
  deriving DecidableEq, Repr

inductive Note where
  | responseCb (resp : StdString)
  | responseCbReturns (status : Status)
  | errorCb (status : Status)
  | fault (site : Site)
  deriving DecidableEq, Repr

/-- `ClientCallCqTag::GetResponse`. -/
def getResponse (received : Received) (response : StdString) (c : Call Note) :
    Option (Status × StdString) × Call Note :=
  if !received.status.ok then (some (received.status, response), c)
  else c.getResultMsg (.fault .getResultMsgRecvBuf) received.recvBuf response

/-- `SyncRequest` on a new call: what it returns and leaves in `response`, if it returns, and
the call. The completion that is plucked is looked at whatever its success. -/
def syncRequest (grpc : Nat → Bool) (request : StdString) (answer : Bool × Received)
    (response : StdString) : Option (Status × StdString) × Call Note :=
  match ({} : Call Note).startBatch grpc (.clientCall request) with
  | (false, c) => (some (.internalError (lit "Failed to request."), response), c)
  | (true, c) => getResponse answer.2 response (c.pluck (.clientCall request) answer)

def callErrorCb (errorCb : Callback) (status : Status) (c : Call Note) : Call Note :=
  match errorCb with
  | some _ => c.note (.errorCb status)
  | none => c

def asyncRequest (grpc : Nat → Bool) (request : StdString) (responseCb errorCb : Callback) :
    Call Note :=
  match ({} : Call Note).startBatch grpc (.clientAsyncCall request responseCb errorCb) with
  | (true, c) => c
  | (false, c) => callErrorCb errorCb (.internalError (lit "Failed to async request.")) c

/-- `ClientAsyncCallCqTag::DoComplete`; `result` is what the response callback returns if
it is called. -/
def doComplete (responseCb errorCb : Callback) (success : Bool) (received : Received)
    (result : Status) (c : Call Note) : Call Note :=
  if !success then
    callErrorCb errorCb (.internalError (lit "ClientAsyncCallCqTag failed.")) c
  else
    match getResponse received [] c with
    | (none, c) => c
    | (some (status, resp), c) =>
      if !status.ok then callErrorCb errorCb status c
      else
        match responseCb with
        | none => c
        | some _ =>
          let c := (c.note (.responseCb resp)).note (.responseCbReturns result)
          if !result.ok then callErrorCb errorCb result c else c

structure Label where
  index : Nat
  success : Bool
  received : Received
  result : Status

def step (c : Call Note) (label : Label) : Option (Call Note) :=
  match c.complete label.index label.success label.received with
  | none => none
  | some (tag, c) =>
    match tag with
    | .clientAsyncCall _ responseCb errorCb =>
        some (doComplete responseCb errorCb label.success label.received label.result c)
    | _ => some c

/-- An asynchronous call, once `AsyncRequest` has returned. -/
def machine : Machine (Call Note) Label where
  step := step

end GrpcCbCore.Client.ServiceStub
