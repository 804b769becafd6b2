import GrpcCbCore.Common.Call
import GrpcCbCore.Library.Chain

/-! A stream of messages as its reader is meant to see it: messages until the
end of the stream or an error. -/
namespace GrpcCbCore
open Library

/-- How the reading of a stream ends. -/
inductive StreamEnd where
  | endOfStream
  | error (status : Status)
  deriving DecidableEq, Repr

abbrev ReadOutcome := Outcome StdString StreamEnd

/-- What a read has brought, its buffer looked at. -/
def bufferOutcome (received : Received) : ReadOutcome :=
  match received.recvBuf with
  | none => .stop .endOfStream
  | some (.readable bytes) => .item bytes
  | some .unreadable => .stop (.error (.internalError (lit "Failed to read recv byte buffer.")))

/-- What a completed read comes to where `failure` is the error of a failed one. -/
def readOutcome (failure : StdString) (success : Bool) (received : Received) : ReadOutcome :=
  if success then bufferOutcome received else .stop (.error (.internalError failure))

end GrpcCbCore
