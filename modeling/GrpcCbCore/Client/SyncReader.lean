import GrpcCbCore.Client.SyncReaderHelper
import GrpcCbCore.Common.Stream

/-! `ClientSyncReader`: each batch is plucked from the call's own queue as soon as
it is started, whatever it came to. -/
namespace GrpcCbCore.Client.SyncReader
open GrpcCbCore.Library

/-- What the queue brings for the tags plucked from it: the reads complete in
order, and a pluck that nothing completes does not return. -/
structure CQueueForPluck where
  init : Bool × Received := (true, {})
  reads : List (Bool × Received)
  status : Bool × Received

structure Data where
  call : Call Empty := {}
  cq4p : CQueueForPluck
  status : Status := .OK

/-- `Pluck`, and what the batch has received by then. -/
def pluck (tag : CqTag) (call : Call Empty) :
    StateT CQueueForPluck Option (Received × Call Empty) := fun cq4p =>
  match tag with
  | .clientReaderRead =>
    match cq4p.reads with
    | [] => none
    | answer :: reads => some ((answer.2, call.pluck tag answer), { cq4p with reads := reads })
  | .clientReaderRecvStatus => some ((cq4p.status.2, call.pluck tag cq4p.status), cq4p)
  | _ => some ((cq4p.init.2, call.pluck tag cq4p.init), cq4p)

section

variable (grpc : Nat → Bool)

def clientSyncReader (request : StdString) (cq4p : CQueueForPluck) : Option Data :=
  match ({} : Call Empty).startBatch grpc (.clientReaderInit request) with
  | (true, call) =>
    match (pluck (.clientReaderInit request) call).run cq4p with
    | none => none
    | some ((_, call), cq4p) => some { call := call, cq4p := cq4p }
  | (false, call) => some {
      call := call
      cq4p := cq4p
      status := .internalError (lit "Failed to start client sync reader.") }

def readOne (d : Data) : Option (Bool × StdString × Data) :=
  match (SyncReaderHelper.syncReadOne (fun _ => []) pluck grpc [] d.call d.status).run d.cq4p with
  | none => none
  | some ((result, response, call, status), cq4p) =>
    some (result, response, { call := call, cq4p := cq4p, status := status })

def recvStatus (d : Data) : Option (Status × Data) :=
  if !d.status.ok then some (d.status, d)
  else
    match (SyncReaderHelper.syncRecvStatus pluck grpc d.call).run d.cq4p with
    | none => none
    | some ((status, call), cq4p) => some (status, { d with call := call, cq4p := cq4p })

/-- The caller's loop, `fuel` turns of it at most: `ReadOne` until it returns
false, then `RecvStatus`. -/
def readAll : Nat → Data → Option (List StdString × Status)
  | 0, _ => none
  | fuel + 1, d =>
    match readOne grpc d with
    | none => none
    | some (false, _, d) => (recvStatus grpc d).map fun r => ([], r.1)
    | some (true, response, d) =>
      (readAll fuel d).map fun r => (response :: r.1, r.2)

/-- A whole stream. Each turn plucks a read, so there are no more turns than
reads to come. -/
def readStream (request : StdString) (cq4p : CQueueForPluck) : Option (List StdString × Status) :=
  match clientSyncReader grpc request cq4p with
  | none => none
  | some d => readAll grpc (cq4p.reads.length + 1) d

end

def endStatus (final : Status) : StreamEnd → Status
  | .endOfStream => final
  | .error status => status

def bufferChain (reads : List (Bool × Received)) : Chain StdString StreamEnd :=
  .of (reads.map fun r => bufferOutcome r.2)

def Data.afterRead (grpc : Nat → Bool) (answer : Bool × Received)
    (reads : List (Bool × Received)) (status : Status) (d : Data) : Data where
  call := (d.call.startBatch grpc .clientReaderRead).2.pluck .clientReaderRead answer
  cq4p := { d.cq4p with reads := reads }
  status := status

section specs

variable {grpc : Nat → Bool} {d : Data}

private theorem pluck_read {cq4p : CQueueForPluck} {answer : Bool × Received}
    {reads : List (Bool × Received)} (hreads : cq4p.reads = answer :: reads) (call : Call Empty) :
    (pluck .clientReaderRead call).run cq4p =
      some ((answer.2, call.pluck .clientReaderRead answer), { cq4p with reads := reads }) := by
  simp [pluck, StateT.run, hreads]

private theorem pluck_read_nil {cq4p : CQueueForPluck} (hreads : cq4p.reads = [])
    (call : Call Empty) : (pluck .clientReaderRead call).run cq4p = none := by
  simp [pluck, StateT.run, hreads]

private theorem readOne_cons (hgrpc : grpc d.call.starts = true) (hok : d.status = .OK)
    {answer : Bool × Received} {reads : List (Bool × Received)}
    (hreads : d.cq4p.reads = answer :: reads) :
    readOne grpc d = some (match bufferOutcome answer.2 with
      | .item bytes => (true, bytes, d.afterRead grpc answer reads .OK)
      | .stop reason => (false, [], d.afterRead grpc answer reads (endStatus .OK reason))) := by
  obtain ⟨hfailed, -⟩ | ⟨-, -, hread⟩ | ⟨-, hrefused, -⟩ :=
    SyncReaderHelper.syncReadOne_cases (fun _ => []) pluck grpc [] d.call d.status
  · simp [hok] at hfailed
  · rw [hok] at hread
    simp only [readOne, hok, hread, StateT.run_bind, pluck_read hreads]
    rcases hbuf : answer.2.recvBuf with _ | ⟨bytes⟩ | _ <;>
      simp [SyncReaderHelper.readResult, bufferOutcome, hbuf, getResultMsg, byteBufferToString,
        Data.afterRead, endStatus]
  · simp [hgrpc] at hrefused

private theorem readOne_nil (hgrpc : grpc d.call.starts = true) (hok : d.status = .OK)
    (hreads : d.cq4p.reads = []) : readOne grpc d = none := by
  obtain ⟨hfailed, -⟩ | ⟨-, -, hread⟩ | ⟨-, hrefused, -⟩ :=
    SyncReaderHelper.syncReadOne_cases (fun _ => []) pluck grpc [] d.call d.status
  · simp [hok] at hfailed
  · simp [readOne, hread, pluck_read_nil hreads]
  · simp [hgrpc] at hrefused

private theorem recvStatus_eq (hgrpc : grpc d.call.starts = true) :
    ∃ d', recvStatus grpc d =
      some (if d.status.ok then d.cq4p.status.2.status else d.status, d') := by
  cases hok : d.status.ok with
  | false => simp [recvStatus, hok]
  | true =>
    obtain ⟨-, hstatus⟩ | ⟨hrefused, -⟩ :=
      SyncReaderHelper.syncRecvStatus_cases pluck grpc d.call
    · have hpluck (call : Call Empty) : (pluck .clientReaderRecvStatus call).run d.cq4p =
          some ((d.cq4p.status.2, call.pluck .clientReaderRecvStatus d.cq4p.status), d.cq4p) := rfl
      simp [recvStatus, hok, hstatus, hpluck]
    · simp [hgrpc] at hrefused

/-- After the loop the status is asked for just when it has none of its own. -/
theorem endStatus_of_stop {received : Received} {reason : StreamEnd}
    (hread : bufferOutcome received = .stop reason) (final : Status) :
    (if (endStatus .OK reason).ok then final else endStatus .OK reason) =
      endStatus final reason := by
  rcases received with ⟨_ | ⟨bytes⟩ | _, status⟩
  · cases hread
    rfl
  · cases hread
  · cases hread
    rfl

/-- The loop brings the messages before the first read that shows none, and
returns if there is such a read. -/
theorem readAll_eq (hgrpc : ∀ k, grpc k = true) (hok : d.status = .OK) {fuel : Nat}
    (hfuel : d.cq4p.reads.length < fuel) :
    readAll grpc fuel d = (bufferChain d.cq4p.reads).stop.map fun reason =>
      ((bufferChain d.cq4p.reads).items, endStatus d.cq4p.status.2.status reason) := by
  generalize hreads : d.cq4p.reads = reads at hfuel ⊢
  induction reads generalizing d fuel with
  | nil =>
    cases fuel with
    | zero => simp at hfuel
    | succ fuel => simp [readAll, readOne_nil (hgrpc _) hok hreads, bufferChain]
  | cons answer reads ih =>
    cases fuel with
    | zero => simp at hfuel
    | succ fuel =>
      rw [readAll, readOne_cons (hgrpc _) hok hreads]
      cases hread : bufferOutcome answer.2 with
      | item bytes =>
        have hfewer : reads.length < fuel := by simpa using hfuel
        have hrest := ih (d := d.afterRead grpc answer reads .OK) rfl rfl hfewer
        have hstatus : (d.afterRead grpc answer reads .OK).cq4p.status = d.cq4p.status := rfl
        simp only [hrest, hstatus]
        simp only [bufferChain, List.map_cons, hread, Chain.of_item_cons, Option.map_map]
        rfl
      | stop reason =>
        obtain ⟨d', hrecv⟩ := recvStatus_eq
          (d := d.afterRead grpc answer reads (endStatus .OK reason)) (hgrpc _)
        have hend := endStatus_of_stop hread d.cq4p.status.2.status
        simp only [hrecv, bufferChain, List.map_cons, hread, Chain.of_stop_cons, Option.map_some]
        rw [← hend]
        rfl

theorem readStream_eq (hgrpc : ∀ k, grpc k = true) (request : StdString)
    (cq4p : CQueueForPluck) :
    readStream grpc request cq4p = (bufferChain cq4p.reads).stop.map fun reason =>
      ((bufferChain cq4p.reads).items, endStatus cq4p.status.2.status reason) := by
  have hinit : ∃ d, clientSyncReader grpc request cq4p = some d ∧ d.status = .OK ∧
      d.cq4p = cq4p := by
    simp [clientSyncReader, Call.startBatch, hgrpc, pluck, StateT.run]
  obtain ⟨d, hd, hok, rfl⟩ := hinit
  rw [readStream, hd]
  exact readAll_eq hgrpc hok (Nat.lt_succ_self _)

end specs

end GrpcCbCore.Client.SyncReader
