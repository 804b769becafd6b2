import Mathlib.Data.List.TakeWhile
import GrpcCbCore.Common.Call

/-! The call operation data, and how values pass through it: strings, C strings,
slices and byte buffers on the one side of grpc and on the other. -/
namespace GrpcCbCore

/-- `grpc_slice`: a start pointer and a length. -/
structure Slice where
  bytes : List UInt8 := []
  deriving DecidableEq, Repr

def stringFromCopiedSlice (slice : Slice) : StdString := slice.bytes

def sliceFromCopiedString (str : StdString) : Slice := ⟨str⟩

/-- The memory that a `const char*` points to. -/
abbrev CharPtr := List UInt8

/-- `std::string::c_str`: the bytes, and a zero behind them. -/
def cStr (str : StdString) : CharPtr := str ++ [0]

/-- `std::string(const char*)`: the bytes before the first zero. -/
def stringFromCharPtr (s : CharPtr) : StdString := s.takeWhile (· ≠ 0)

structure RawByteBuffer where
  slices : List Slice
  deriving DecidableEq, Repr

/-- `grpc_byte_buffer_reader_readall`. -/
def RawByteBuffer.readAll (buffer : RawByteBuffer) : Slice := ⟨buffer.slices.flatMap Slice.bytes⟩

/-- What `ByteBufferToString` meets in a raw buffer. -/
def RawByteBuffer.contents (buffer : RawByteBuffer) : ByteBuffer :=
  .readable (stringFromCopiedSlice buffer.readAll)

/-- `CodSendMsg::CopyMsgStr`. -/
def copyMsgStr (sMsg : StdString) : RawByteBuffer := ⟨[sliceFromCopiedString sMsg]⟩

structure CodRecvMsg where
  recvBuf : Option RawByteBuffer := none

structure CodClientRecvStatus where
  statusCode : StatusCode := .ok
  statusDetails : Slice := {}

def CodClientRecvStatus.getStatus (cod : CodClientRecvStatus) : Status :=
  ⟨cod.statusCode, stringFromCopiedSlice cod.statusDetails⟩

structure CodServerSendStatus where
  sendStatusCode : StatusCode := .ok
  sendStatusDetails : StdString := []

/-- `SetStatus`; it asserts that no status was set before. -/
def CodServerSendStatus.setStatus (status : Status) (_ : CodServerSendStatus) :
    CodServerSendStatus where
  sendStatusCode := status.code
  sendStatusDetails := status.details

def CodServerSendStatus.getStatusDetailsBuf (cod : CodServerSendStatus) : CharPtr :=
  cStr cod.sendStatusDetails

/-- What `grpc_op` carries to the other side. -/
inductive GrpcOp where
  | sendInitialMetadata
  | sendMessage (sendMessage : RawByteBuffer)
  | sendCloseFromClient
  | sendStatusFromServer (status : StatusCode) (statusDetails : Slice)
  | recvInitialMetadata
  | recvMessage
  | recvStatusOnClient
  deriving DecidableEq, Repr

/-- The second `CallOperations::ServerSendStatus`: its details are a `std::string`
once more. -/
def serverSendStatusOp (statusCode : StatusCode) (statusDetails : StdString) : GrpcOp :=
  .sendStatusFromServer statusCode (sliceFromCopiedString statusDetails)

/-- The first `CallOperations::ServerSendStatus`: the details buffer that it hands to
the second is made a `std::string` on the way. -/
def serverSendStatus (status : Status) (cod : CodServerSendStatus) : GrpcOp :=
  let cod := cod.setStatus status
  serverSendStatusOp cod.sendStatusCode (stringFromCharPtr cod.getStatusDetailsBuf)

def CallOp.grpcOp : CallOp → GrpcOp
  | .sendInitMd => .sendInitialMetadata
  | .sendMsg message => .sendMessage (copyMsgStr message)
  | .recvInitMd => .recvInitialMetadata
  | .recvMsg => .recvMessage
  | .clientSendClose => .sendCloseFromClient
  | .clientRecvStatus => .recvStatusOnClient
  | .serverSendStatus status => GrpcCbCore.serverSendStatus status {}

/-- The operations that `GetOps` gives to grpc. -/
def CqTag.grpcOps (tag : CqTag) : List GrpcOp := tag.ops.map CallOp.grpcOp

def sentMessage (ops : List GrpcOp) : Option RawByteBuffer :=
  ops.findSome? fun
    | .sendMessage buffer => some buffer
    | _ => none

/-- grpc has carried the message of a batch, if there is one: its bytes, in whatever
slices. -/
def CarriesMessage (ops : List GrpcOp) (cod : CodRecvMsg) : Prop :=
  cod.recvBuf.map RawByteBuffer.readAll = (sentMessage ops).map RawByteBuffer.readAll

def CarriesStatus (ops : List GrpcOp) (cod : CodClientRecvStatus) : Prop :=
  .sendStatusFromServer cod.statusCode cod.statusDetails ∈ ops

/-- What a client's tag has received, as its readers see it. -/
def receivedFrom (message : CodRecvMsg) (status : CodClientRecvStatus) : Received where
  recvBuf := message.recvBuf.map RawByteBuffer.contents
  status := status.getStatus

section strings

variable (str : StdString)

theorem stringFromCharPtr_cStr : stringFromCharPtr (cStr str) = str.takeWhile (· ≠ 0) := by
  unfold stringFromCharPtr cStr
  induction str with
  | nil => rfl
  | cons b str ih => by_cases hzero : b = 0 <;> simp_all

theorem stringFromCharPtr_cStr_eq_iff : stringFromCharPtr (cStr str) = str ↔ 0 ∉ str := by
  rw [stringFromCharPtr_cStr, List.takeWhile_eq_self_iff]
  constructor
  · intro h hzero
    simpa using h 0 hzero
  · intro hzero b hb
    have hne : b ≠ 0 := fun heq => hzero (heq ▸ hb)
    simpa using hne

@[simp] theorem readAll_copyMsgStr : (copyMsgStr str).readAll = ⟨str⟩ := by
  simp [copyMsgStr, RawByteBuffer.readAll, sliceFromCopiedString]

end strings

/-- `CodRecvMsg::GetResultMsg` undoes `CodSendMsg::CopyMsgStr`. -/
theorem getResultMsg_contents {buffer : RawByteBuffer} {msg : StdString}
    (hbytes : buffer.readAll = (copyMsgStr msg).readAll) (result : StdString) :
    getResultMsg buffer.contents result = (.OK, msg) := by
  rw [readAll_copyMsgStr] at hbytes
  simp [getResultMsg, RawByteBuffer.contents, byteBufferToString, hbytes, stringFromCopiedSlice]

/-- `CodClientRecvStatus::GetStatus` undoes `ServerSendStatus` but for the details
behind the first zero. -/
theorem getStatus_serverSendStatus {cod : CodClientRecvStatus} {status : Status}
    (hcarried : .sendStatusFromServer cod.statusCode cod.statusDetails =
      serverSendStatus status {}) :
    cod.getStatus = ⟨status.code, status.details.takeWhile (· ≠ 0)⟩ := by
  simp only [serverSendStatus, serverSendStatusOp, CodServerSendStatus.setStatus,
    CodServerSendStatus.getStatusDetailsBuf, stringFromCharPtr_cStr,
    GrpcOp.sendStatusFromServer.injEq] at hcarried
  rw [CodClientRecvStatus.getStatus, hcarried.1, hcarried.2]
  rfl

end GrpcCbCore
