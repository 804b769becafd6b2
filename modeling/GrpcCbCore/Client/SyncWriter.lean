import GrpcCbCore.Client.SyncWriterHelper
import GrpcCbCore.Library.Machine

/-! `ClientSyncWriter`. Its copies share one `Data`; every batch is plucked as soon as
it is started. -/
namespace GrpcCbCore.Client.SyncWriter
open GrpcCbCore.Library

inductive Site where
  | getResultMsgRecvBuf
  deriving DecidableEq, Repr

inductive Note where
  | write (request : StdString) (result : Bool)
  | close (status : Status) (response : StdString)
  | fault (site : Site)
  deriving DecidableEq, Repr

/-- `crashed` is not the object's: behind the read of a null response no call comes. -/
structure Data where
  call : Call Note := {}
  status : Status := .OK
  crashed : Bool := false

namespace Data

def note (n : Note) (d : Data) : Data := { d with call := d.call.note n }

def startBatch (grpc : Nat → Bool) (tag : CqTag) (d : Data) : Bool × Data :=
  ((d.call.startBatch grpc tag).1, { d with call := (d.call.startBatch grpc tag).2 })

def pluck (tag : CqTag) (answer : Bool × Received) (d : Data) : Data :=
  { d with call := d.call.pluck tag answer }

def setInternalError (details : StdString) (d : Data) : Data :=
  { d with status := .internalError details }

end Data

section

variable (grpc : Nat → Bool)

/-- The constructor; `answer` is what its batch comes to if it is started. -/
def clientSyncWriter (answer : Bool × Received) : Data :=
  match ({} : Data).startBatch grpc .clientSendInitMd with
  | (true, d) => d.pluck .clientSendInitMd answer
  | (false, d) => d.setInternalError (lit "Failed to start client sync writer.")

def write (request : StdString) (answer : Bool × Received) (d : Data) : Bool × Data :=
  match SyncWriterHelper.syncWrite (fun _ => []) grpc request answer d.call d.status with
  | (result, call, status) => (result, { d with call := call, status := status })

/-- `ClientWriterCloseCqTag::GetResponse`. -/
def getResponse (received : Received) (response : StdString) (d : Data) :
    Option (Status × StdString) × Data :=
  match d.call.getResultMsg (.fault .getResultMsgRecvBuf) received.recvBuf response with
  | (result, call) => (result, { d with call := call })

/-- `Close`; it returns with `response`, if it returns. -/
def close (answer : Bool × Received) (response : StdString) (d : Data) :
    Option (Status × StdString) × Data :=
  if !d.status.ok then (some (d.status, response), d)
  else
    match d.startBatch grpc .clientWriterClose with
    | (false, d) =>
      let d := d.setInternalError (lit "Failed to finish client-side streaming.")
      (some (d.status, response), d)
    | (true, d) =>
      let d := d.pluck .clientWriterClose answer
      if answer.2.status.ok then
        match getResponse answer.2 response d with
        | (none, d) => (none, { d with crashed := true })
        | (some (status, response), d) => (some (status, response), { d with status := status })
      else (some (answer.2.status, response), { d with status := answer.2.status })

end

inductive Label where
  | write (request : StdString) (answer : Bool × Received)
  | close (answer : Bool × Received) (response : StdString)

def step (grpc : Nat → Bool) (d : Data) (label : Label) : Option Data :=
  if d.crashed then none
  else
    match label with
    | .write request answer =>
        match write grpc request answer d with
        | (result, d) => some (d.note (.write request result))
    | .close answer response =>
        match close grpc answer response d with
        | (none, d) => some d
        | (some (status, response), d) => some (d.note (.close status response))

def machine (grpc : Nat → Bool) : Machine Data Label where
  step := step grpc

theorem step_write {grpc : Nat → Bool} {d t : Data} {request : StdString}
    {answer : Bool × Received} (hstep : step grpc d (.write request answer) = some t) :
    t = (write grpc request answer d).2.note
      (.write request (write grpc request answer d).1) := by
  unfold step at hstep
  split at hstep
  · cases hstep
  · exact (Option.some.inj hstep).symm

theorem step_close {grpc : Nat → Bool} {d t : Data} {answer : Bool × Received}
    {response : StdString} (hstep : step grpc d (.close answer response) = some t) :
    (∃ status response' d', close grpc answer response d = (some (status, response'), d') ∧
      t = d'.note (.close status response')) ∨
    close grpc answer response d = (none, t) := by
  unfold step at hstep
  split at hstep
  · cases hstep
  · dsimp only at hstep
    split at hstep
    · next d' heq =>
      cases hstep
      exact .inr heq
    · next status response' d' heq => exact .inl ⟨status, response', d', heq, by cases hstep; rfl⟩

theorem step_close_returns {grpc : Nat → Bool} {d t u : Data} {answer : Bool × Received}
    {response : StdString} {told : Status × StdString}
    (hstep : step grpc d (.close answer response) = some t)
    (hclose : close grpc answer response d = (some told, u)) : t = u.note (.close told.1 told.2) := by
  rcases step_close hstep with ⟨status, response', d', heq, rfl⟩ | heq
  · rw [hclose] at heq
    cases heq
    rfl
  · simp [hclose] at heq

theorem step_close_crashes {grpc : Nat → Bool} {d t u : Data} {answer : Bool × Received}
    {response : StdString} (hstep : step grpc d (.close answer response) = some t)
    (hclose : close grpc answer response d = (none, u)) : t = u := by
  rcases step_close hstep with ⟨status, response', d', heq, -⟩ | heq
  · simp [hclose] at heq
  · rw [hclose] at heq
    cases heq
    rfl

/-- `Close` of a live writer starts one batch, and its status is what it returns; it does not
return if the batch has brought no message. -/
theorem close_starts (grpc : Nat → Bool) (answer : Bool × Received) (response : StdString)
    (d : Data) :
    (d.status.ok = false ∧ close grpc answer response d = (some (d.status, response), d)) ∨
    (d.status.ok = true ∧ ∃ status response' call,
      close grpc answer response d =
        (some (status, response'), { d with call := call, status := status }) ∧
      (call = (d.call.startBatch grpc .clientWriterClose).2 ∧ grpc d.call.starts = false ∧
          status.ok = false ∨
        call = (d.call.startBatch grpc .clientWriterClose).2.pluck .clientWriterClose answer ∧
          grpc d.call.starts = true ∧ ¬ Missing answer.2 ∧
            (answer.2.recvBuf = none → status.ok = false))) ∨
    (d.status.ok = true ∧ grpc d.call.starts = true ∧ Missing answer.2 ∧
      close grpc answer response d = (none, { d with
        call := ((d.call.startBatch grpc .clientWriterClose).2.pluck .clientWriterClose
          answer).note (.fault .getResultMsgRecvBuf)
        crashed := true })) := by
  unfold close
  rcases Bool.eq_false_or_eq_true d.status.ok with hok | hfailed
  case inr => exact .inl ⟨hfailed, by simp [hfailed]⟩
  right
  rw [if_neg (by simp [hok])]
  simp only [Data.startBatch, Call.startBatch_fst]
  rcases Bool.eq_false_or_eq_true (grpc d.call.starts) with hgrpc | hgrpc
  · simp only [hgrpc]
    cases hstatus : answer.2.status.ok with
    | false =>
      exact .inl ⟨hok, _, _, _, rfl, .inr ⟨rfl, trivial, by simp [Missing, hstatus],
        fun _ => hstatus⟩⟩
    | true =>
      cases hbuf : answer.2.recvBuf with
      | none =>
        exact .inr ⟨hok, trivial, ⟨hstatus, hbuf⟩, by simp [getResponse, hbuf, Data.pluck]⟩
      | some recvBuf =>
        exact .inl ⟨hok, (getResultMsg recvBuf response).1, (getResultMsg recvBuf response).2, _,
          by simp [getResponse, hbuf, Data.pluck],
          .inr ⟨rfl, trivial, by simp [Missing, hbuf], by simp⟩⟩
  · simp only [hgrpc]
    exact .inl ⟨hok, _, _, _, rfl, .inl ⟨rfl, trivial, rfl⟩⟩

@[simp] def closeReturn : Event Note → Option Status
  | .note (.close status _) => some status
  | _ => none

end GrpcCbCore.Client.SyncWriter
