import GrpcCbCore.Client.ReaderContract
import GrpcCbCore.Common.Wire

/-! What has completed of a `ClientAsyncReaderImpl`: a step of the reader adds the
completion that it is of, and its operations and callbacks add none. -/
namespace GrpcCbCore.Client.ReaderImpl
open GrpcCbCore.Library

section frames

variable {grpc : Nat → Bool} {s t : Impl}

private theorem check_frame (site : Site) (holds : Bool) :
    (s.check site holds).call.completions = s.call.completions ∧
      (s.check site holds).isStarted = s.isStarted := by
  unfold Impl.check
  split <;> simp [Impl.note]

private theorem callStatusCb_completions (hstarted : s.isStarted = true) (ops : List Op) :
    (callStatusCb (runOps grpc ops) s).call.completions = s.call.completions := by
  unfold callStatusCb
  split
  · rfl
  · next cb _ =>
    rw [runOps_started (s := s.note (.statusCb cb s.status)) hstarted]
    simp [Impl.note]

private theorem readNext_completions (hstarted : s.isStarted = true) (ops : List Op) :
    (readNext grpc (runOps grpc ops) s).call.completions = s.call.completions := by
  obtain ⟨hcompletions, hsame⟩ := check_frame (s := s) .readNextStatus s.status.ok
  rw [← hcompletions]
  rw [← hsame] at hstarted
  unfold readNext
  dsimp only
  generalize s.check .readNextStatus s.status.ok = u at hstarted
  rcases Bool.eq_false_or_eq_true (grpc u.call.starts) with hgrpc | hgrpc
  · simp [Impl.startBatch, hgrpc]
  · simp only [Impl.startBatch, Call.startBatch_fst, hgrpc]
    rw [callStatusCb_completions (by exact hstarted), Call.completions_startBatch]

private theorem init_completions (grpc : Nat → Bool) (hstarted : s.isStarted = true)
    (ops : List Op) : (init grpc (runOps grpc ops) s).2.call.completions = s.call.completions ∧
      ((init grpc (runOps grpc ops) s).1 = true →
        (init grpc (runOps grpc ops) s).2.isStarted = true) := by
  obtain ⟨hcompletions, hsame⟩ := check_frame (s := s) .initStatus s.status.ok
  rw [← hcompletions]
  rw [← hsame] at hstarted
  unfold init
  dsimp only
  generalize s.check .initStatus s.status.ok = u at hstarted
  rcases Bool.eq_false_or_eq_true (grpc u.call.starts) with hgrpc | hgrpc
  · simp [Impl.startBatch, hgrpc, hstarted]
  · simp only [Impl.startBatch, Call.startBatch_fst, hgrpc]
    rw [callStatusCb_completions (by exact hstarted), Call.completions_startBatch]
    simp

theorem start_completions (ops : List Op) (msgCb statusCb : Callback) :
    (start grpc (runOps grpc ops) msgCb statusCb s).call.completions = s.call.completions := by
  unfold start
  split
  · rfl
  · rw [← Call.completions_note s.call (.start msgCb statusCb)]
    dsimp only
    generalize (s.note (.start msgCb statusCb)).status.ok = holds
    generalize hu : ({ s.note (.start msgCb statusCb) with
      isStarted := true, msgCb := msgCb, statusCb := statusCb } : Impl) = u
    have hcall : s.call.note (.start msgCb statusCb) = u.call := by rw [← hu, Impl.note]
    have hstarted : u.isStarted = true := by rw [← hu]
    obtain ⟨hcompletions, hsame⟩ := check_frame (s := u) .startStatus holds
    rw [hcall, ← hcompletions]
    rw [← hsame] at hstarted
    generalize u.check .startStatus holds = v at hstarted
    obtain ⟨hinit, hon⟩ := init_completions grpc hstarted ops
    rw [← hinit]
    generalize init grpc (runOps grpc ops) v = r at hon
    rcases r with ⟨_ | _, w⟩
    · rfl
    · exact readNext_completions (hon rfl) ops

private theorem recvStatus_completions (hstarted : s.isStarted = true) (ops : List Op)
    (statusCb : Callback) :
    (recvStatus grpc (runOps grpc ops) statusCb s).call.completions = s.call.completions := by
  unfold recvStatus
  rcases Bool.eq_false_or_eq_true (grpc s.call.starts) with hgrpc | hgrpc
  · simp [Impl.startBatch, hgrpc]
  · simp only [Impl.startBatch, Call.startBatch_fst, hgrpc]
    cases statusCb with
    | none => simp
    | some cb =>
      dsimp only
      rw [runOps_started (by exact hstarted)]
      simp [Impl.note]

private theorem onRead_completions (hstarted : s.isStarted = true) (script : Script)
    (success : Bool) (received : Received) :
    (onRead grpc (fun s => (script.msgCbResult, runOps grpc script.msgCb s))
      (runOps grpc script.statusCb) success received s).call.completions =
      s.call.completions := by
  obtain ⟨hfirst, hsame⟩ := check_frame (s := s) .onReadStarted s.isStarted
  unfold onRead
  dsimp only
  rw [← hfirst]
  rw [← hsame] at hstarted
  generalize s.check .onReadStarted s.isStarted = u at hstarted
  obtain ⟨hsecond, hsame⟩ := check_frame (s := u) .onReadStatus u.status.ok
  rw [← hsecond]
  rw [← hsame] at hstarted
  generalize u.check .onReadStatus u.status.ok = v at hstarted
  cases success with
  | false =>
    simp only [Bool.not_false, if_true]
    rw [callStatusCb_completions (by exact hstarted)]
  | true =>
    simp only [Bool.not_true, Bool.false_eq_true, if_false]
    cases received.recvBuf with
    | none => exact recvStatus_completions hstarted _ _
    | some recvBuf =>
      dsimp only
      split
      · rw [callStatusCb_completions (by exact hstarted)]
      · cases v.msgCb with
        | none => exact readNext_completions (by exact hstarted) _
        | some cb =>
          dsimp only
          rw [runOps_started (by exact hstarted)]
          split
          · rw [callStatusCb_completions (by exact hstarted)]
            simp [Impl.note]
          · rw [readNext_completions (by exact hstarted)]
            simp [Impl.note]

private theorem recvStatusDoComplete_completions (hstarted : s.isStarted = true) (ops : List Op)
    (statusCb : Callback) (success : Bool) (received : Received) :
    (recvStatusDoComplete (runOps grpc ops) statusCb success received s).call.completions =
      s.call.completions := by
  unfold recvStatusDoComplete
  cases statusCb with
  | none => rfl
  | some cb =>
    dsimp only
    split <;>
    · rw [runOps_started (by exact hstarted)]
      simp [Impl.note]

private theorem doComplete_completions (hstarted : s.isStarted = true) (script : Script)
    (tag : CqTag) (success : Bool) (received : Received) :
    (doComplete grpc script tag success received s).call.completions = s.call.completions := by
  unfold doComplete
  split
  · exact onRead_completions hstarted script success received
  · exact recvStatusDoComplete_completions hstarted script.statusCb _ success received
  · rfl

theorem step_completions (hstarted : s.isStarted = true ∨ s.call.outstanding = [])
    {label : Label} (hstep : step grpc s label = some t) :
    t.call.completions = s.call.completions ∨
    ∃ index success received script tag, label = .complete index success received script ∧
      s.call.outstanding[index]? = some tag ∧
      t.call.completions = s.call.completions ++ [(tag, success, received)] := by
  cases label with
  | op op =>
    left
    cases op with
    | start msgCb statusCb ops =>
      simp only [step, runOp, Option.some.injEq] at hstep
      rw [← hstep]
      exact start_completions ops msgCb statusCb
  | complete index success received script =>
    right
    cases hcall : s.call.complete index success received with
    | none => simp [step, hcall] at hstep
    | some found =>
      obtain ⟨tag, call⟩ := found
      have hfound := (Call.complete_found hcall).1
      rcases hstarted with hstarted | hnone
      · obtain rfl : doComplete grpc script tag success received { s with call := call } = t := by
          simpa [step, hcall] using hstep
        refine ⟨index, success, received, script, tag, rfl, hfound, ?_⟩
        rw [doComplete_completions (by exact hstarted)]
        exact Call.completions_complete hcall
      · simp [hnone] at hfound

end frames

end GrpcCbCore.Client.ReaderImpl
