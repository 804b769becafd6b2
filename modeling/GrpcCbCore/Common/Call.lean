import GrpcCbCore.Common.Status
import GrpcCbCore.Library.History

/-! A call as the completion-queue tags see it: batches of operations started
on it, completions coming back, and the history of both. What grpc itself
decides, whether a start is accepted, is a parameter. -/
namespace GrpcCbCore

/-- One method call on `CallOperations`, with the value it is given. -/
inductive CallOp where
  | sendInitMd
  | sendMsg (message : StdString)
  | recvInitMd
  | recvMsg
  | clientSendClose
  | clientRecvStatus
  | serverSendStatus (status : Status)
  deriving DecidableEq, Repr

abbrev CallOperations := List CallOp

/-- A `std::function`: empty, or a callable known by a number. -/
abbrev Callback := Option Nat

/-- The `CompletionQueueTag` subclasses, with what their `Start` is given and the
callback they were handed to keep. -/
inductive CqTag where
  | clientSendInitMd
  | clientRecvInitMd
  | clientCall (request : StdString)
  | clientAsyncCall (request : StdString) (responseCb errorCb : Callback)
  | clientSendMsg (message : StdString)
  | clientReaderInit (request : StdString)
  | clientReaderRead
  | clientReaderRecvStatus
  | clientReaderAsyncRecvStatus (statusCb : Callback)
  | clientSendClose
  | clientWriterClose
  | serverReader
  | serverReplierReply (msg : StdString) (sendInitMd : Bool)
  | serverReplierReplyError (status : Status) (sendInitMd : Bool)
  | serverWriterWrite (message : StdString) (sendInitMd : Bool)
  | serverWriterSendStatus (status : Status) (sendInitMd : Bool)
  deriving DecidableEq, Repr

namespace CqTag

/-- The batch each tag's `Start` hands to `StartBatch`. -/
def ops : CqTag → CallOperations
  | clientSendInitMd => [.sendInitMd]
  | clientRecvInitMd => [.recvInitMd]
  | clientCall request | clientAsyncCall request _ _ =>
      [.sendMsg request, .sendInitMd, .recvInitMd, .recvMsg, .clientSendClose, .clientRecvStatus]
  | clientSendMsg message => [.sendMsg message]
  | clientReaderInit request => [.sendMsg request, .sendInitMd, .recvInitMd, .clientSendClose]
  | clientReaderRead => [.recvMsg]
  | clientReaderRecvStatus => [.clientRecvStatus]
  | clientReaderAsyncRecvStatus _ => [.clientRecvStatus]
  | clientSendClose => [.clientSendClose]
  | clientWriterClose => [.clientSendClose, .recvInitMd, .recvMsg, .clientRecvStatus]
  | serverReader => [.recvMsg]
  | serverReplierReply msg sendInitMd =>
      (if sendInitMd then [.sendInitMd] else []) ++ [.sendMsg msg, .serverSendStatus .OK]
  | serverReplierReplyError status sendInitMd =>
      (if sendInitMd then [.sendInitMd] else []) ++ [.serverSendStatus status]
  | serverWriterWrite message sendInitMd =>
      (if sendInitMd then [.sendInitMd] else []) ++ [.sendMsg message]
  | serverWriterSendStatus status sendInitMd =>
      (if sendInitMd then [.sendInitMd] else []) ++ [.serverSendStatus status]

/-- The message of a batch with SEND_MESSAGE. -/
def message? (tag : CqTag) : Option StdString :=
  tag.ops.findSome? fun
    | .sendMsg message => some message
    | _ => none

def status? (tag : CqTag) : Option Status :=
  tag.ops.findSome? fun
    | .serverSendStatus status => some status
    | _ => none

def hasInitMd (tag : CqTag) : Bool := tag.ops.contains .sendInitMd

@[simp] theorem message?_clientSendInitMd : clientSendInitMd.message? = none := rfl
@[simp] theorem message?_clientRecvInitMd : clientRecvInitMd.message? = none := rfl
@[simp] theorem message?_clientSendMsg (m : StdString) : (clientSendMsg m).message? = some m := rfl
@[simp] theorem message?_clientReaderRead : clientReaderRead.message? = none := rfl
@[simp] theorem message?_clientSendClose : clientSendClose.message? = none := rfl
@[simp] theorem message?_clientWriterClose : clientWriterClose.message? = none := rfl

@[simp] theorem message?_serverWriterWrite (m : StdString) (md : Bool) :
    (serverWriterWrite m md).message? = some m := by
  cases md <;> rfl

@[simp] theorem message?_serverWriterSendStatus (status : Status) (md : Bool) :
    (serverWriterSendStatus status md).message? = none := by
  cases md <;> rfl

@[simp] theorem status?_serverWriterWrite (m : StdString) (md : Bool) :
    (serverWriterWrite m md).status? = none := by
  cases md <;> rfl

@[simp] theorem status?_serverWriterSendStatus (status : Status) (md : Bool) :
    (serverWriterSendStatus status md).status? = some status := by
  cases md <;> rfl

@[simp] theorem hasInitMd_serverWriterWrite (m : StdString) (md : Bool) :
    (serverWriterWrite m md).hasInitMd = md := by
  cases md <;> simp [hasInitMd, ops]

@[simp] theorem hasInitMd_serverWriterSendStatus (status : Status) (md : Bool) :
    (serverWriterSendStatus status md).hasInitMd = md := by
  cases md <;> simp [hasInitMd, ops]

/-- Where one message is outstanding at most, a message that comes back is that one. -/
theorem only_message {outstanding before after : List CqTag} {flying : Option StdString}
    {tag : CqTag} {m : StdString} (hout : outstanding.filterMap message? = flying.toList)
    (hsplit : outstanding = before ++ tag :: after) (hmsg : tag.message? = some m) :
    flying = some m ∧ (before ++ after).filterMap message? = [] := by
  rw [hsplit, List.filterMap_append, List.filterMap_cons_some hmsg] at hout
  cases hflying : flying with
  | none => simp [hflying] at hout
  | some m' =>
    cases hb : before.filterMap message? <;> cases ha : after.filterMap message? <;> simp_all

end CqTag

/-- `grpc_byte_buffer`: `grpc_byte_buffer_reader_init` succeeds on it, and
`readall` then yields its bytes, or it fails. -/
inductive ByteBuffer where
  | readable (bytes : StdString)
  | unreadable
  deriving DecidableEq, Repr

/-- What a completing batch has written into the tag's operation data. -/
structure Received where
  recvBuf : Option ByteBuffer := none
  status : Status := .OK
  deriving DecidableEq, Repr

/-- The batch of a response brought an OK status and no message. -/
def Missing (received : Received) : Prop :=
  received.status.ok = true ∧ received.recvBuf = none

instance : DecidablePred Missing := fun received =>
  inferInstanceAs (Decidable (received.status.ok = true ∧ received.recvBuf = none))

/-- `ByteBufferToString`: the string it leaves in `to`, if it succeeds. -/
def byteBufferToString : ByteBuffer → Option StdString
  | .readable bytes => some bytes
  | .unreadable => none

/-- `CodRecvMsg::GetResultMsg` on a buffer that is there. -/
def getResultMsg (recvBuf : ByteBuffer) (result : StdString) : Status × StdString :=
  match byteBufferToString recvBuf with
  | some bytes => (.OK, bytes)
  | none => (.internalError (lit "Failed to read recv byte buffer."), result)

inductive Event (Note : Type) where
  | start (tag : CqTag) (accepted : Bool)
  | complete (tag : CqTag) (success : Bool) (received : Received)
  | note (n : Note)
  deriving DecidableEq, Repr

namespace Event

variable {Note : Type}

/-- A batch handed to `StartBatch`, accepted or not. -/
@[simp] def attempt : Event Note → Option CqTag
  | .start tag _ => some tag
  | _ => none

@[simp] def started : Event Note → Option CqTag
  | .start tag true => some tag
  | _ => none

@[simp] def handed : Event Note → Option StdString
  | .start tag _ => tag.message?
  | _ => none

@[simp] def sent : Event Note → Option StdString
  | .start tag true => tag.message?
  | _ => none

@[simp] def finished : Event Note → Option StdString
  | .complete tag _ _ => tag.message?
  | _ => none

@[simp] def delivered : Event Note → Option StdString
  | .complete tag true _ => tag.message?
  | _ => none

@[simp] def undelivered : Event Note → Option StdString
  | .complete tag false _ => tag.message?
  | _ => none

@[simp] def statusAttempt : Event Note → Option Status
  | .start tag _ => tag.status?
  | _ => none

@[simp] def refused : Event Note → Option CqTag
  | .start tag false => some tag
  | _ => none

@[simp] def refusedMessage : Event Note → Option StdString
  | .start tag false => tag.message?
  | _ => none

/-- A start that was refused, or a message that was not delivered. -/
@[simp] def failed : Event Note → Option CqTag
  | .start tag false => some tag
  | .complete tag false _ => tag.message?.map fun _ => tag
  | _ => none

theorem delivered_eq_finished {history : List (Event Note)}
    (hok : Library.collect failed history = []) :
    Library.collect delivered history = Library.collect finished history := by
  induction history with
  | nil => rfl
  | cons e history ih =>
    rw [Library.collect_cons, List.append_eq_nil_iff] at hok
    rw [Library.collect_cons, Library.collect_cons, ih hok.2]
    congr 2
    rcases e with _ | ⟨tag, _ | _, received⟩ | _
    case complete.false =>
      have hnone := Option.toList_eq_nil_iff.mp hok.1
      have hmessage : tag.message? = none := by simpa using hnone
      simp [hmessage]
    all_goals rfl

end Event

/-- `Call`: how many batches were started, the tags grpc still holds, and the
history, in which the owner of the call makes its own notes. -/
structure Call (Note : Type) where
  starts : Nat := 0
  outstanding : List CqTag := []
  log : List (Event Note) := []

namespace Call

variable {Note : Type}

/-- `Call::StartBatch`: `grpc k` is grpc's answer to the `k`-th batch of the call. -/
def startBatch (grpc : Nat → Bool) (tag : CqTag) (c : Call Note) : Bool × Call Note :=
  (grpc c.starts,
    { starts := c.starts + 1
      outstanding := if grpc c.starts then c.outstanding ++ [tag] else c.outstanding
      log := c.log ++ [.start tag (grpc c.starts)] })

def note (n : Note) (c : Call Note) : Call Note :=
  { c with log := c.log ++ [.note n] }

def notes (ns : List Note) (c : Call Note) : Call Note :=
  { c with log := c.log ++ ns.map .note }

/-- A batch completes: its tag comes off the completion queue. -/
def complete (index : Nat) (success : Bool) (received : Received) (c : Call Note) :
    Option (CqTag × Call Note) :=
  match c.outstanding[index]? with
  | none => none
  | some tag => some (tag,
      { c with
        outstanding := c.outstanding.eraseIdx index
        log := c.log ++ [.complete tag success received] })

/-- `Pluck`: the batch of this tag has completed. -/
def pluck (tag : CqTag) (answer : Bool × Received) (c : Call Note) : Call Note :=
  { c with
    outstanding := c.outstanding.erase tag
    log := c.log ++ [.complete tag answer.1 answer.2] }

/-- `CodRecvMsg::GetResultMsg`. Without a buffer its assert fails, of which `fault` is the
mark, and the null pointer is read: no result comes back, and nothing follows. -/
def getResultMsg (fault : Note) (recvBuf : Option ByteBuffer) (result : StdString)
    (c : Call Note) : Option (Status × StdString) × Call Note :=
  match recvBuf with
  | none => (none, c.note fault)
  | some recvBuf => (some (GrpcCbCore.getResultMsg recvBuf result), c)

section api

variable (grpc : Nat → Bool) (tag : CqTag) (n : Note) (c : Call Note)

@[simp] theorem getResultMsg_none (result : StdString) :
    c.getResultMsg n none result = (none, c.note n) := rfl

@[simp] theorem getResultMsg_some (recvBuf : ByteBuffer) (result : StdString) :
    c.getResultMsg n (some recvBuf) result =
      (some (GrpcCbCore.getResultMsg recvBuf result), c) := rfl

@[simp] theorem startBatch_fst : (c.startBatch grpc tag).1 = grpc c.starts := rfl

@[simp] theorem startBatch_starts : (c.startBatch grpc tag).2.starts = c.starts + 1 := rfl

@[simp] theorem startBatch_log :
    (c.startBatch grpc tag).2.log = c.log ++ [.start tag (grpc c.starts)] := rfl

@[simp] theorem startBatch_outstanding :
    (c.startBatch grpc tag).2.outstanding =
      if grpc c.starts then c.outstanding ++ [tag] else c.outstanding := rfl

@[simp] theorem note_log : (c.note n).log = c.log ++ [.note n] := rfl
@[simp] theorem note_outstanding : (c.note n).outstanding = c.outstanding := rfl
@[simp] theorem note_starts : (c.note n).starts = c.starts := rfl

@[simp] theorem notes_nil : c.notes [] = c := by
  simp [notes]

@[simp] theorem notes_note (ns : List Note) : (c.note n).notes ns = c.notes (n :: ns) := by
  simp [note, notes]

@[simp] theorem notes_notes (ns ms : List Note) : (c.notes ns).notes ms = c.notes (ns ++ ms) := by
  simp [notes]

@[simp] theorem notes_starts (ns : List Note) : (c.notes ns).starts = c.starts := rfl
@[simp] theorem notes_log (ns : List Note) : (c.notes ns).log = c.log ++ ns.map .note := rfl
@[simp] theorem notes_outstanding (ns : List Note) :
    (c.notes ns).outstanding = c.outstanding := rfl

end api

/-- A completion takes one tag out of those outstanding and records it. -/
theorem complete_eq_some {index : Nat} {success : Bool} {received : Received} {c c' : Call Note}
    {tag : CqTag} (h : c.complete index success received = some (tag, c')) :
    ∃ before after, c.outstanding = before ++ tag :: after ∧
      c' = { c with
        outstanding := before ++ after
        log := c.log ++ [.complete tag success received] } := by
  unfold complete at h
  cases htag : c.outstanding[index]? with
  | none => simp [htag] at h
  | some found =>
    simp only [htag, Option.some.injEq, Prod.mk.injEq] at h
    obtain ⟨rfl, rfl⟩ := h
    obtain ⟨before, after, hsplit, herase⟩ := Library.exists_eraseIdx htag
    exact ⟨before, after, hsplit, by rw [herase]⟩

theorem complete_subset {index : Nat} {success : Bool} {received : Received} {c c' : Call Note}
    {tag : CqTag} (h : c.complete index success received = some (tag, c')) :
    tag ∈ c.outstanding ∧ ∀ t ∈ c'.outstanding, t ∈ c.outstanding := by
  obtain ⟨before, after, hsplit, rfl⟩ := complete_eq_some h
  rw [hsplit]
  refine ⟨by simp, fun t ht => ?_⟩
  simp only [List.mem_append, List.mem_cons] at ht ⊢
  tauto

theorem complete_length {index : Nat} {success : Bool} {received : Received} {c c' : Call Note}
    {tag : CqTag} (h : c.complete index success received = some (tag, c')) :
    c.outstanding.length = c'.outstanding.length + 1 := by
  obtain ⟨before, after, hsplit, rfl⟩ := complete_eq_some h
  simp [hsplit, Nat.add_assoc]

theorem complete_log {index : Nat} {success : Bool} {received : Received} {c c' : Call Note}
    {tag : CqTag} (h : c.complete index success received = some (tag, c')) :
    c'.log = c.log ++ [.complete tag success received] := by
  obtain ⟨before, after, -, rfl⟩ := complete_eq_some h
  rfl

theorem complete_found {index : Nat} {success : Bool} {received : Received} {c c' : Call Note}
    {tag : CqTag} (h : c.complete index success received = some (tag, c')) :
    c.outstanding[index]? = some tag ∧ c'.starts = c.starts := by
  unfold complete at h
  cases htag : c.outstanding[index]? with
  | none => simp [htag] at h
  | some found =>
    simp only [htag, Option.some.injEq, Prod.mk.injEq] at h
    obtain ⟨rfl, rfl⟩ := h
    exact ⟨rfl, rfl⟩

end Call

end GrpcCbCore
