import GrpcCbCore.Common.Call

/-! `ClientSyncReaderHelper`, through which `ClientSyncReader` and
`ClientSyncReaderWriter` read. Waiting for a batch is an effect of the class's own: its queue
may bring nothing. -/
namespace GrpcCbCore.Client.SyncReaderHelper

variable {m : Type → Type} [Monad m] {Note : Type}

/-- What `SyncReadOne` makes of the batch it has plucked. -/
def readResult (assigned : Status → List Note) (received : Received) (response : StdString)
    (call : Call Note) (status : Status) : Bool × StdString × Call Note × Status :=
  match received.recvBuf with
  | none => (false, response, call, status)
  | some recvBuf =>
    match getResultMsg recvBuf response with
    | (status, response) => (status.ok, response, call.notes (assigned status), status)

/-- `SyncReadOne`, on the call and the status of a class; it returns with `response`. `assigned`
is what its history notes of an assignment to the status, and `pluck` brings what a batch has
received. -/
def syncReadOne (assigned : Status → List Note)
    (pluck : CqTag → Call Note → m (Received × Call Note)) (grpc : Nat → Bool)
    (response : StdString) (call : Call Note) (status : Status) :
    m (Bool × StdString × Call Note × Status) :=
  if !status.ok then pure (false, response, call, status)
  else
    match call.startBatch grpc .clientReaderRead with
    | (false, call) =>
      let status := .internalError (lit "Failed to read server-side streaming.")
      pure (false, response, call.notes (assigned status), status)
    | (true, call) => do
      let (received, call) ← pluck .clientReaderRead call
      return readResult assigned received response call status

/-- `SyncRecvStatus`. -/
def syncRecvStatus (pluck : CqTag → Call Note → m (Received × Call Note)) (grpc : Nat → Bool)
    (call : Call Note) : m (Status × Call Note) :=
  match call.startBatch grpc .clientReaderRecvStatus with
  | (false, call) => pure (.internalError (lit "Failed to receive status."), call)
  | (true, call) => do
    let (received, call) ← pluck .clientReaderRecvStatus call
    return (received.status, call)

theorem syncReadOne_cases (assigned : Status → List Note)
    (pluck : CqTag → Call Note → m (Received × Call Note)) (grpc : Nat → Bool)
    (response : StdString) (call : Call Note) (status : Status) :
    (status.ok = false ∧
      syncReadOne assigned pluck grpc response call status =
        pure (false, response, call, status)) ∨
    (status.ok = true ∧ grpc call.starts = true ∧
      syncReadOne assigned pluck grpc response call status = do
        let (received, call) ← pluck .clientReaderRead (call.startBatch grpc .clientReaderRead).2
        return readResult assigned received response call status) ∨
    (status.ok = true ∧ grpc call.starts = false ∧
      syncReadOne assigned pluck grpc response call status =
        pure (false, response, (call.startBatch grpc .clientReaderRead).2.notes
          (assigned (.internalError (lit "Failed to read server-side streaming."))),
          .internalError (lit "Failed to read server-side streaming."))) := by
  rcases Bool.eq_false_or_eq_true status.ok with hok | hfailed
  · rcases Bool.eq_false_or_eq_true (grpc call.starts) with hgrpc | hgrpc
    · exact .inr (.inl ⟨hok, hgrpc, by simp [syncReadOne, hok, Call.startBatch, hgrpc]⟩)
    · exact .inr (.inr ⟨hok, hgrpc, by simp [syncReadOne, hok, Call.startBatch, hgrpc]⟩)
  · exact .inl ⟨hfailed, by simp [syncReadOne, hfailed]⟩

theorem syncRecvStatus_cases (pluck : CqTag → Call Note → m (Received × Call Note))
    (grpc : Nat → Bool) (call : Call Note) :
    (grpc call.starts = true ∧ syncRecvStatus pluck grpc call = do
      let (received, call) ← pluck .clientReaderRecvStatus
        (call.startBatch grpc .clientReaderRecvStatus).2
      return (received.status, call)) ∨
    (grpc call.starts = false ∧ syncRecvStatus pluck grpc call =
      pure (.internalError (lit "Failed to receive status."),
        (call.startBatch grpc .clientReaderRecvStatus).2)) := by
  rcases Bool.eq_false_or_eq_true (grpc call.starts) with hgrpc | hgrpc
  · exact .inl ⟨hgrpc, by simp [syncRecvStatus, Call.startBatch, hgrpc]⟩
  · exact .inr ⟨hgrpc, by simp [syncRecvStatus, Call.startBatch, hgrpc]⟩

end GrpcCbCore.Client.SyncReaderHelper
