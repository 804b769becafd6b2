import GrpcCbCore.Client.SyncReaderHelper
import GrpcCbCore.Client.SyncWriterHelper
import GrpcCbCore.Library.Machine

/-! `ClientSyncReaderWriterImpl`. Every batch is plucked as soon as it is started, so
a call of the class returns with nothing outstanding. -/
namespace GrpcCbCore.Client.SyncReaderWriter
open GrpcCbCore.Library

inductive Site where
  | recvInitMdStatus
  deriving DecidableEq, Repr

/-- What the public calls have returned, and what the status was set to. -/
inductive Note where
  | write (request : StdString) (result : Bool)
  | closeWriting
  | readOne (result : Bool) (response : StdString)
  | recvStatus (status : Status)
  | setErrorStatus (status : Status)
  | destroy
  | status (status : Status)
  | fault (site : Site)
  deriving DecidableEq, Repr

/-- `destroyed` is not the object's: behind its destructor no call comes. -/
structure Impl where
  call : Call Note := {}
  status : Status := .OK
  writingClosed : Bool := false
  initMdReceived : Bool := false
  destroyed : Bool := false

namespace Impl

def note (n : Note) (s : Impl) : Impl := { s with call := s.call.note n }

def check (site : Site) (holds : Bool) (s : Impl) : Impl :=
  if holds then s else s.note (.fault site)

def startBatch (grpc : Nat → Bool) (tag : CqTag) (s : Impl) : Bool × Impl :=
  ((s.call.startBatch grpc tag).1, { s with call := (s.call.startBatch grpc tag).2 })

def pluck (tag : CqTag) (answer : Bool × Received) (s : Impl) : Impl :=
  { s with call := s.call.pluck tag answer }

def setStatus (status : Status) (s : Impl) : Impl :=
  { s.note (.status status) with status := status }

def setInternalError (details : StdString) (s : Impl) : Impl :=
  s.setStatus (.internalError details)

end Impl

section

variable (grpc : Nat → Bool)

/-- The constructor; `answer` is what its batch comes to if it is started. -/
def clientSyncReaderWriterImpl (answer : Bool × Received) : Impl :=
  match ({} : Impl).startBatch grpc .clientSendInitMd with
  | (true, s) => s.pluck .clientSendInitMd answer
  | (false, s) => s.setInternalError (lit "Failed to start client sync reader writer.")

def write (request : StdString) (answer : Bool × Received) (s : Impl) : Bool × Impl :=
  match SyncWriterHelper.syncWrite (fun status => [.status status]) grpc request answer s.call
      s.status with
  | (result, call, status) => (result, { s with call := call, status := status })

def closeWriting (answer : Bool × Received) (s : Impl) : Impl :=
  if s.writingClosed then s
  else
    let s := { s with writingClosed := true }
    if !s.status.ok then s
    else
      match s.startBatch grpc .clientSendClose with
      | (true, s) => s.pluck .clientSendClose answer
      | (false, s) => s.setInternalError (lit "Failed to close writing.")

def recvInitMdIfNot (answer : Bool × Received) (s : Impl) : Impl :=
  if s.initMdReceived then s
  else
    let s := { s with initMdReceived := true }
    let s := s.check .recvInitMdStatus s.status.ok
    match s.startBatch grpc .clientRecvInitMd with
    | (true, s) => s.pluck .clientRecvInitMd answer
    | (false, s) => s.setInternalError (lit "Failed to receive init metadata.")

def pluck (answer : Bool × Received) (tag : CqTag) (call : Call Note) :
    Id (Received × Call Note) :=
  (answer.2, call.pluck tag answer)

/-- It returns with `response`; `initAnswer` is what the batch of `RecvInitMdIfNot` comes to if
it is started. -/
def readOne (initAnswer answer : Bool × Received) (response : StdString) (s : Impl) :
    Bool × StdString × Impl :=
  if !s.status.ok then (false, response, s)
  else
    let s := recvInitMdIfNot grpc initAnswer s
    if !s.status.ok then (false, response, s)
    else
      match Id.run (SyncReaderHelper.syncReadOne (fun status => [.status status]) (pluck answer)
          grpc response s.call s.status) with
      | (result, response, call, status) =>
        (result, response, { s with call := call, status := status })

/-- The status that has come in is returned, and not kept. -/
def recvStatus (answer : Bool × Received) (s : Impl) : Status × Impl :=
  if !s.status.ok then (s.status, s)
  else
    match Id.run (SyncReaderHelper.syncRecvStatus (pluck answer) grpc s.call) with
    | (status, call) => (status, { s with call := call })

def setErrorStatus (errorStatus : ErrorStatus) (s : Impl) : Impl :=
  s.setStatus errorStatus.status

end

inductive Label where
  | write (request : StdString) (answer : Bool × Received)
  | closeWriting (answer : Bool × Received)
  | readOne (initAnswer answer : Bool × Received) (response : StdString)
  | recvStatus (answer : Bool × Received)
  | setErrorStatus (errorStatus : ErrorStatus)
  | destroy (answer : Bool × Received)

def perform (grpc : Nat → Bool) (s : Impl) : Label → Impl
  | .write request answer =>
      match write grpc request answer s with
      | (result, s) => s.note (.write request result)
  | .closeWriting answer => (closeWriting grpc answer s).note .closeWriting
  | .readOne initAnswer answer response =>
      match readOne grpc initAnswer answer response s with
      | (result, response, s) => s.note (.readOne result response)
  | .recvStatus answer =>
      match recvStatus grpc answer s with
      | (status, s) => s.note (.recvStatus status)
  | .setErrorStatus errorStatus =>
      (setErrorStatus errorStatus s).note (.setErrorStatus errorStatus.status)
  | .destroy answer => { (closeWriting grpc answer s).note .destroy with destroyed := true }

def step (grpc : Nat → Bool) (s : Impl) (label : Label) : Option Impl :=
  if s.destroyed then none else some (perform grpc s label)

def machine (grpc : Nat → Bool) : Machine Impl Label where
  step := step grpc

section specs

variable (grpc : Nat → Bool) {s : Impl}

/-- What a read leaves behind that has the initial metadata: a refused batch, or a batch
plucked, whose message, if there is one, is the status. -/
def Reads (answer : Bool × Received) (s t : Impl) : Prop :=
  t = (s.startBatch grpc .clientReaderRead).2.setStatus
    (.internalError (lit "Failed to read server-side streaming.")) ∨
  t = (s.startBatch grpc .clientReaderRead).2.pluck .clientReaderRead answer ∨
  ∃ status, t = ((s.startBatch grpc .clientReaderRead).2.pluck .clientReaderRead
    answer).setStatus status

theorem readOne_cases (initAnswer answer : Bool × Received) (response : StdString) (s : Impl) :
    (s.status.ok = false ∧ (readOne grpc initAnswer answer response s).2.2 = s) ∨
    (s.status.ok = true ∧ (recvInitMdIfNot grpc initAnswer s).status.ok = false ∧
      (readOne grpc initAnswer answer response s).2.2 = recvInitMdIfNot grpc initAnswer s) ∨
    (s.status.ok = true ∧ (recvInitMdIfNot grpc initAnswer s).status.ok = true ∧
      Reads grpc answer (recvInitMdIfNot grpc initAnswer s)
        (readOne grpc initAnswer answer response s).2.2) := by
  unfold readOne
  rcases Bool.eq_false_or_eq_true s.status.ok with hok | hfailed
  · generalize recvInitMdIfNot grpc initAnswer s = u
    rcases Bool.eq_false_or_eq_true u.status.ok with hok' | hfailed'
    · refine .inr (.inr ⟨hok, hok', ?_⟩)
      obtain ⟨hfailed, -⟩ | ⟨-, -, hread⟩ | ⟨-, -, hread⟩ := SyncReaderHelper.syncReadOne_cases
        (fun status => [.status status]) (pluck answer) grpc response u.call u.status
      · simp [hok'] at hfailed
      · have hresult : Id.run (SyncReaderHelper.syncReadOne (fun status => [.status status])
            (pluck answer) grpc response u.call u.status) =
              SyncReaderHelper.readResult (fun status => [.status status]) answer.2 response
                ((u.call.startBatch grpc .clientReaderRead).2.pluck .clientReaderRead answer)
                u.status := by
          rw [hread]
          rfl
        rw [if_neg (by simp [hok]), if_neg (by simp [hok']), hresult, SyncReaderHelper.readResult]
        cases answer.2.recvBuf with
        | none => exact .inr (.inl rfl)
        | some recvBuf => exact .inr (.inr ⟨(getResultMsg recvBuf response).1, rfl⟩)
      · rw [if_neg (by simp [hok]), if_neg (by simp [hok']), hread]
        exact .inl rfl
    · exact .inr (.inl ⟨hok, hfailed', by simp [hok, hfailed']⟩)
  · exact .inl ⟨hfailed, by simp [hfailed]⟩

theorem recvStatus_cases (answer : Bool × Received) (s : Impl) :
    (s.status.ok = false ∧ recvStatus grpc answer s = (s.status, s)) ∨
    (s.status.ok = true ∧ recvStatus grpc answer s =
      (.internalError (lit "Failed to receive status."),
        (s.startBatch grpc .clientReaderRecvStatus).2)) ∨
    (s.status.ok = true ∧ recvStatus grpc answer s = (answer.2.status,
      (s.startBatch grpc .clientReaderRecvStatus).2.pluck .clientReaderRecvStatus answer)) := by
  unfold recvStatus
  rcases Bool.eq_false_or_eq_true s.status.ok with hok | hfailed
  · obtain ⟨-, hstatus⟩ | ⟨-, hstatus⟩ :=
      SyncReaderHelper.syncRecvStatus_cases (pluck answer) grpc s.call <;>
      rw [if_neg (by simp [hok]), hstatus]
    · exact .inr (.inr ⟨hok, rfl⟩)
    · exact .inr (.inl ⟨hok, rfl⟩)
  · exact .inl ⟨hfailed, by simp [hfailed]⟩

end specs

theorem step_eq {grpc : Nat → Bool} {s t : Impl} {label : Label}
    (hstep : step grpc s label = some t) : t = perform grpc s label := by
  unfold step at hstep
  split at hstep
  · cases hstep
  · exact (Option.some.inj hstep).symm

end GrpcCbCore.Client.SyncReaderWriter
