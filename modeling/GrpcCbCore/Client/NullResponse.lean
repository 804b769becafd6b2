import GrpcCbCore.Client.ServiceStub
import GrpcCbCore.Client.SyncWriter
import GrpcCbCore.Client.WriterClosing

/-! An OK status without a message: where a client decodes the response it has not
received, and what it reports instead of one. -/
namespace GrpcCbCore.Client
open GrpcCbCore.Library

@[simp] def response {Note : Type} : Event Note → Option Received
  | .complete tag _ received => if .recvMsg ∈ tag.ops then some received else none
  | _ => none

def Unanswered {Note : Type} (history : List (Event Note)) : Prop :=
  ∀ received ∈ collect response history, received.recvBuf = none

theorem Unanswered.of_append {Note : Type} {history more : List (Event Note)}
    (h : Unanswered (history ++ more)) : Unanswered history := by
  intro received hmem
  exact h received (by simp [hmem])

theorem Unanswered.of_append_right {Note : Type} {history more : List (Event Note)}
    (h : Unanswered (history ++ more)) : Unanswered more := by
  intro received hmem
  exact h received (by simp [hmem])

namespace ServiceStub

@[simp] def nullDecode : Event Note → Option Unit
  | .note (.fault .getResultMsgRecvBuf) => some ()
  | _ => none

@[simp] def responseCbCall : Event Note → Option StdString
  | .note (.responseCb resp) => some resp
  | _ => none

@[simp] def errorCbCall : Event Note → Option Status
  | .note (.errorCb status) => some status
  | _ => none

/-- `GetResponse` decodes a null buffer, and does not return, where the message is missing;
without a message it returns an error otherwise. -/
theorem getResponse_missing {received : Received} (h : Missing received) (response : StdString)
    (c : Call Note) :
    getResponse received response c = (none, c.note (.fault .getResultMsgRecvBuf)) := by
  simp [getResponse, h.1, h.2]

private theorem getResponse_returns {received : Received} (h : ¬ Missing received)
    (response : StdString) (c : Call Note) :
    ∃ result, getResponse received response c = (some result, c) ∧
      (received.recvBuf = none → result.1.ok = false) := by
  unfold getResponse
  cases hok : received.status.ok with
  | false => exact ⟨(received.status, response), by simp, fun _ => hok⟩
  | true =>
    cases hbuf : received.recvBuf with
    | none => exact absurd ⟨hok, hbuf⟩ h
    | some recvBuf => exact ⟨getResultMsg recvBuf response, by simp, by simp⟩

/-- No null buffer is decoded, and without a message an error is returned. -/
structure SyncSound (result : Option (Status × StdString) × Call Note) : Prop where
  no_null : collect nullDecode result.2.log = []
  reports : Unanswered result.2.log → ∃ returned, result.1 = some returned ∧
    returned.1.ok = false

private theorem getResponse_sound_iff {received : Received} {c : Call Note} (into : StdString)
    (hnull : collect nullDecode c.log = []) (hmem : received ∈ collect response c.log) :
    SyncSound (getResponse received into c) ↔ ¬ Missing received := by
  constructor
  · intro h hmissing
    have hdecoded := h.no_null
    simp [getResponse_missing hmissing] at hdecoded
  · intro hpresent
    obtain ⟨result, heq, hfailed⟩ := getResponse_returns hpresent into c
    rw [heq]
    exact ⟨hnull, fun hnone => ⟨result, rfl, hfailed (hnone received hmem)⟩⟩

private theorem syncRequest_sound_iff (grpc : Nat → Bool) (request : StdString)
    (answer : Bool × Received) (response : StdString) :
    SyncSound (syncRequest grpc request answer response) ↔
      ¬ (grpc 0 = true ∧ Missing answer.2) := by
  unfold syncRequest
  rcases Bool.eq_false_or_eq_true (grpc 0) with hgrpc | hgrpc
  · simp only [Call.startBatch, hgrpc, true_and]
    exact getResponse_sound_iff response rfl (by simp [Call.pluck, CqTag.ops])
  · simp only [Call.startBatch, hgrpc]
    exact ⟨fun _ h => absurd h.1 (by simp), fun _ => ⟨rfl, fun _ => ⟨_, rfl, rfl⟩⟩⟩

section asynchronous

variable {responseCb errorCb : Callback} {success : Bool} {received : Received} {result : Status}
  (c : Call Note)

theorem callErrorCb_eq (errorCb : Callback) (status : Status) :
    callErrorCb errorCb status c = c.notes (errorCb.toList.map fun _ => .errorCb status) := by
  cases errorCb <;> simp [callErrorCb, Call.note, Call.notes]

theorem doComplete_missing (h : Missing received) :
    doComplete responseCb errorCb true received result c =
      c.note (.fault .getResultMsgRecvBuf) := by
  simp [doComplete, getResponse_missing h]

private theorem doComplete_unanswered (hgood : ¬ (success = true ∧ Missing received))
    (hnone : received.recvBuf = none) :
    ∃ status : Status, status.ok = false ∧
      doComplete responseCb errorCb success received result c =
        c.notes (errorCb.toList.map fun _ => .errorCb status) := by
  unfold doComplete
  cases success with
  | false =>
    refine ⟨_, Status.ok_internalError (lit "ClientAsyncCallCqTag failed."), ?_⟩
    simp [callErrorCb_eq]
  | true =>
    obtain ⟨⟨status, resp⟩, heq, hfailed⟩ :=
      getResponse_returns (fun hmissing => hgood ⟨rfl, hmissing⟩) [] c
    refine ⟨status, hfailed hnone, ?_⟩
    have hbad : status.ok = false := hfailed hnone
    simp [heq, hbad, callErrorCb_eq]

private theorem doComplete_answered {buf : ByteBuffer} (hbuf : received.recvBuf = some buf) :
    ∃ ns, doComplete responseCb errorCb success received result c = c.notes ns ∧
      collect nullDecode (ns.map .note) = [] := by
  have hpresent : ¬ Missing received := by simp [Missing, hbuf]
  unfold doComplete
  cases success with
  | false => exact ⟨_, callErrorCb_eq c _ _, by cases errorCb <;> simp⟩
  | true =>
    obtain ⟨⟨status, resp⟩, heq, -⟩ := getResponse_returns hpresent [] c
    simp only [Bool.not_true, Bool.false_eq_true, if_false, heq]
    cases hok : status.ok with
    | false => exact ⟨_, callErrorCb_eq c _ _, by cases errorCb <;> simp⟩
    | true =>
      cases responseCb with
      | none => exact ⟨[], by simp, rfl⟩
      | some cb =>
        cases hresult : result.ok with
        | false =>
          refine ⟨[.responseCb resp, .responseCbReturns result] ++
            errorCb.toList.map fun _ => .errorCb result, ?_, ?_⟩
          · simp [callErrorCb_eq, Call.note, Call.notes]
          · cases errorCb <;> simp
        | true =>
          exact ⟨[.responseCb resp, .responseCbReturns result],
            by simp [Call.note, Call.notes], rfl⟩

end asynchronous

/-- No null buffer is decoded; and without a message the response callback is not
called, and the error callback is called once when the call is over. -/
structure AsyncSound (errorCb : Callback) (c : Call Note) : Prop where
  no_null : collect nullDecode c.log = []
  reports : Unanswered c.log → collect responseCbCall c.log = [] ∧
    (c.outstanding = [] → ∃ status : Status, status.ok = false ∧
      collect errorCbCall c.log = errorCb.toList.map fun _ => status)

section machine

variable {grpc : Nat → Bool} {request : StdString} {responseCb errorCb : Callback}

private theorem asyncRequest_sound : AsyncSound errorCb
    (asyncRequest grpc request responseCb errorCb) := by
  unfold asyncRequest
  rcases Bool.eq_false_or_eq_true (grpc 0) with hgrpc | hgrpc
  · simp only [Call.startBatch, hgrpc]
    exact ⟨rfl, fun _ => ⟨rfl, by simp⟩⟩
  · simp only [Call.startBatch, hgrpc, callErrorCb_eq]
    refine ⟨by cases errorCb <;> rfl, fun _ => ⟨by cases errorCb <;> rfl, fun _ => ?_⟩⟩
    refine ⟨_, Status.ok_internalError (lit "Failed to async request."), ?_⟩
    cases errorCb <;> rfl

private theorem asyncRequest_step {label : Label} {c : Call Note}
    (hstep : step (asyncRequest grpc request responseCb errorCb) label = some c) :
    ∃ call : Call Note, call.outstanding = [] ∧
      call.log = [.start (.clientAsyncCall request responseCb errorCb) true,
        .complete (.clientAsyncCall request responseCb errorCb) label.success label.received] ∧
      c = doComplete responseCb errorCb label.success label.received label.result call := by
  unfold asyncRequest at hstep
  rcases Bool.eq_false_or_eq_true (grpc 0) with hgrpc | hgrpc
  · simp only [Call.startBatch, hgrpc] at hstep
    obtain ⟨index, success, received, result⟩ := label
    cases index with
    | zero =>
      cases hstep
      exact ⟨_, rfl, rfl, rfl⟩
    | succ index => simp [step, Call.complete] at hstep
  · simp only [Call.startBatch, hgrpc, callErrorCb_eq] at hstep
    simp [step, Call.complete] at hstep

variable {label : Label} {call : Call Note}

theorem doComplete_notes (responseCb errorCb : Callback) (label : Label) (call : Call Note) :
    ∃ ns, doComplete responseCb errorCb label.success label.received label.result call =
      call.notes ns := by
  by_cases hbad : label.success = true ∧ Missing label.received
  · exact ⟨[.fault .getResultMsgRecvBuf], by
      rw [hbad.1, doComplete_missing call hbad.2]
      simp [Call.note, Call.notes]⟩
  cases hbuf : label.received.recvBuf with
  | none =>
    obtain ⟨status, -, heq⟩ := doComplete_unanswered call hbad hbuf
    exact ⟨_, heq⟩
  | some buf =>
    obtain ⟨ns, heq, -⟩ := doComplete_answered call hbuf
    exact ⟨ns, heq⟩

private theorem doComplete_sound_iff
    (hlog : call.log = [.start (.clientAsyncCall request responseCb errorCb) true,
      .complete (.clientAsyncCall request responseCb errorCb) label.success label.received]) :
    AsyncSound errorCb
        (doComplete responseCb errorCb label.success label.received label.result call) ↔
      ¬ (label.success = true ∧ Missing label.received) := by
  by_cases hbad : label.success = true ∧ Missing label.received
  · refine ⟨fun h => ?_, fun hgood => absurd hbad hgood⟩
    have hnull := h.no_null
    rw [hbad.1, doComplete_missing call hbad.2] at hnull
    simp [hlog] at hnull
  refine ⟨fun _ => hbad, fun _ => ?_⟩
  cases hbuf : label.received.recvBuf with
  | none =>
    obtain ⟨status, hfailed, heq⟩ := doComplete_unanswered call hbad hbuf
    rw [heq]
    refine ⟨by cases errorCb <;> simp [hlog], fun _ => ⟨by cases errorCb <;> simp [hlog], ?_⟩⟩
    exact fun _ => ⟨status, hfailed, by cases errorCb <;> simp [hlog]⟩
  | some buf =>
    obtain ⟨ns, heq, hnull⟩ := doComplete_answered call hbuf
    rw [heq]
    refine ⟨by simp [hlog, hnull], fun hnone => ?_⟩
    have hmem : label.received ∈ collect response (call.notes ns).log := by
      simp [hlog, CqTag.ops]
    simp [hnone _ hmem] at hbuf

private theorem asyncRequest_sound_iff {ls : List Label} {c : Call Note}
    (hrun : machine.run (asyncRequest grpc request responseCb errorCb) ls = some c) :
    AsyncSound errorCb c ↔ machine.Along
      (fun _ label => ¬ (label.success = true ∧ Missing label.received))
      (asyncRequest grpc request responseCb errorCb) ls := by
  cases ls with
  | nil =>
    cases hrun
    simp [asyncRequest_sound]
  | cons label ls =>
    obtain ⟨u, hstep, hrest⟩ := machine.run_cons.mp hrun
    obtain ⟨call, hempty, hlog, rfl⟩ := asyncRequest_step hstep
    cases ls with
    | nil =>
      cases hrest
      rw [Machine.along_cons hstep, doComplete_sound_iff hlog]
      simp
    | cons next ls =>
      obtain ⟨ns, hns⟩ := doComplete_notes responseCb errorCb label call
      simp [Machine.run, machine, step, Call.complete, hns, hempty] at hrest

end machine

end ServiceStub

namespace SyncWriter

@[simp] def nullDecode : Event Note → Option Unit
  | .note (.fault .getResultMsgRecvBuf) => some ()
  | _ => none

/-- No null buffer is decoded, and `Close` returns OK only with a message received. -/
structure Sound (d : Data) : Prop where
  no_null : collect nullDecode d.call.log = []
  reports : ∀ status ∈ collect closeReturn d.call.log, status.ok = true →
    ¬ Unanswered d.call.log

/-- The close batch is started on an object that has not failed, and brings no message. -/
def Decodes (grpc : Nat → Bool) (d : Data) : Label → Prop
  | .write _ _ => False
  | .close answer _ => d.status.ok = true ∧ grpc d.call.starts = true ∧ Missing answer.2

section specs

variable {grpc : Nat → Bool} {d t : Data}

/-- What a call adds to the history: a null decode just when it is one, and an OK only
behind a message. -/
theorem step_extends {label : Label} (hstep : step grpc d label = some t) :
    ∃ more, t.call.log = d.call.log ++ more ∧
      (collect nullDecode more = [] ↔ ¬ Decodes grpc d label) ∧
      ∀ status ∈ collect closeReturn more, status.ok = true → ¬ Unanswered more := by
  cases label with
  | write request answer =>
    obtain rfl := step_write hstep
    rw [write]
    obtain ⟨-, heq⟩ | ⟨-, hgrpc, heq⟩ | ⟨-, hgrpc, heq⟩ :=
      SyncWriterHelper.syncWrite_cases (fun _ => []) grpc request answer d.call d.status <;>
      simp only [heq]
    · exact ⟨[.note (.write request false)], rfl, by simp [Decodes], by simp⟩
    · exact ⟨[.start (.clientSendMsg request) true,
        .complete (.clientSendMsg request) answer.1 answer.2, .note (.write request true)],
        by simp [Data.note, Call.pluck, hgrpc], by simp [Decodes], by simp⟩
    · exact ⟨[.start (.clientSendMsg request) false, .note (.write request false)],
        by simp [Data.note, hgrpc], by simp [Decodes], by simp⟩
  | close answer response =>
    obtain ⟨hfailed, heq⟩ | ⟨hok, status, response', call, heq, hcall⟩ |
      ⟨hok, hgrpc, hmissing, heq⟩ := close_starts grpc answer response d
    · obtain rfl := step_close_returns hstep heq
      exact ⟨[.note (.close d.status response)], rfl, by simp [Decodes, hfailed],
        by simp [hfailed]⟩
    · obtain rfl := step_close_returns hstep heq
      rcases hcall with ⟨rfl, hgrpc, hbad⟩ | ⟨rfl, hgrpc, hpresent, hbad⟩
      · exact ⟨[.start .clientWriterClose false, .note (.close status response')],
          by simp [Data.note, hgrpc], by simp [Decodes, hgrpc], by simp [hbad]⟩
      · refine ⟨[.start .clientWriterClose true,
          .complete .clientWriterClose answer.1 answer.2, .note (.close status response')],
          by simp [Data.note, Call.pluck, hgrpc], by simp [Decodes, hpresent], ?_⟩
        simp only [collect_cons, closeReturn, Option.toList_none, Option.toList_some,
          collect_nil, List.nil_append, List.append_nil, List.mem_singleton, forall_eq]
        intro hok hnone
        simp [hbad (hnone answer.2 (by simp [CqTag.ops]))] at hok
    · obtain rfl := step_close_crashes hstep heq
      exact ⟨[.start .clientWriterClose true, .complete .clientWriterClose answer.1 answer.2,
        .note (.fault .getResultMsgRecvBuf)], by simp [Call.pluck, hgrpc],
        by simp [Decodes, hok, hgrpc, hmissing], by simp⟩

private theorem step_decodes {label : Label} (hstep : step grpc d label = some t) :
    collect nullDecode t.call.log = [] ↔
      collect nullDecode d.call.log = [] ∧ ¬ Decodes grpc d label := by
  obtain ⟨more, hlog, hnull, -⟩ := step_extends hstep
  rw [hlog, collect_append, List.append_eq_nil_iff, hnull]

def Reported (d : Data) : Prop :=
  ∀ status ∈ collect closeReturn d.call.log, status.ok = true → ¬ Unanswered d.call.log

private theorem step_reported (h : Reported d) {label : Label}
    (hstep : step grpc d label = some t) : Reported t := by
  obtain ⟨more, hlog, -, hnew⟩ := step_extends hstep
  intro status hmem hok hnone
  rw [hlog] at hmem hnone
  rw [collect_append, List.mem_append] at hmem
  rcases hmem with hold | hmem
  · exact h status hold hok hnone.of_append
  · exact hnew status hmem hok hnone.of_append_right

private theorem init_sound (grpc : Nat → Bool) (init : Bool × Received) :
    Sound (clientSyncWriter grpc init) := by
  rcases Bool.eq_false_or_eq_true (grpc 0) with hgrpc | hgrpc
  · constructor <;> simp [clientSyncWriter, Data.startBatch, Data.pluck, Call.pluck, hgrpc]
  · constructor <;> simp [clientSyncWriter, Data.startBatch, Data.setInternalError, hgrpc]

private theorem run_sound_iff {init : Bool × Received} {ls : List Label}
    (hrun : (machine grpc).run (clientSyncWriter grpc init) ls = some d) :
    Sound d ↔ (machine grpc).Along (fun d label => ¬ Decodes grpc d label)
      (clientSyncWriter grpc init) ls := by
  have hinit := init_sound grpc init
  have hreported : Reported d :=
    (machine grpc).invariant (fun _ _ _ h hstep => step_reported h hstep) hinit.reports hrun
  have hnull := (machine grpc).run_iff_along (fun _ _ _ hstep => step_decodes hstep) hrun
  simp only [hinit.no_null, true_and] at hnull
  rw [← hnull]
  exact ⟨fun h => h.no_null, fun h => ⟨h, hreported⟩⟩

end specs

end SyncWriter

namespace WriterImpl

@[simp] def nullDecode : Event Note → Option Unit
  | .note (.fault .getResultMsgRecvBuf) => some ()
  | _ => none

def Impl.decodes (s : Impl) : List Unit := collect nullDecode s.call.log

/-- No null buffer is decoded, and an OK told to the close callback stands on a
message received. -/
structure Sound (s : Impl) : Prop where
  no_null : s.decodes = []
  reports : ∀ told ∈ collect closeCbCall s.call.log, told.1.ok = true → ¬ Unanswered s.call.log

/-- The close batch comes back to a writer that has not failed, and brings no message. -/
def Decodes (s : Impl) : Label → Prop
  | .op _ => False
  | .complete index _ received _ =>
      s.call.outstanding[index]? = some .clientWriterClose ∧ s.status.ok = true ∧ Missing received

def Quiet (f : Impl → Impl) : Prop := ∀ s, (f s).decodes = s.decodes

section specs

variable {grpc : Nat → Bool} {cb : Impl → Impl} (s : Impl)

private theorem note_decodes {n : Note} (hn : nullDecode (.note n) = none) :
    (s.note n).decodes = s.decodes := by
  simp only [Impl.decodes, Impl.note, Call.note_log, collect_append, collect_cons, hn]
  simp

private theorem check_decodes {site : Site} (hsite : nullDecode (.note (.fault site)) = none)
    (holds : Bool) : (s.check site holds).decodes = s.decodes := by
  unfold Impl.check
  split
  · rfl
  · exact note_decodes s hsite

private theorem startBatch_decodes {tag : CqTag} {accepted : Bool} {t : Impl}
    (hstart : s.startBatch grpc tag = (accepted, t)) : t.decodes = s.decodes := by
  obtain rfl : (s.startBatch grpc tag).2 = t := by rw [hstart]
  simp [Impl.decodes, Impl.startBatch]

private theorem callCloseCb_decodes (hcb : Quiet cb) (sMsg : StdString) :
    (callCloseCb cb sMsg s).decodes = s.decodes := by
  unfold callCloseCb
  split
  · have hcalled := hcb (s.note (.closeCb s.status sMsg))
    rw [note_decodes s rfl] at hcalled
    exact hcalled
  · rfl

private theorem tryToCallCloseCb_decodes (hcb : Quiet cb) :
    (tryToCallCloseCb cb s).decodes = s.decodes := by
  unfold tryToCallCloseCb
  dsimp only
  split
  · rw [callCloseCb_decodes _ hcb, check_decodes s rfl]
  · exact check_decodes s rfl _

private theorem sendClose_decodes (hcb : Quiet cb) : (sendClose grpc cb s).decodes = s.decodes := by
  have hchecked : ({ (s.check .sendCloseClosing s.isClosing).check .sendCloseOnce
      (!(s.check .sendCloseClosing s.isClosing).hasSentClose) with
        hasSentClose := true } : Impl).decodes = s.decodes :=
    (check_decodes _ rfl _).trans (check_decodes s rfl _)
  unfold sendClose
  dsimp only
  split
  · next t hstart =>
    rw [startBatch_decodes _ hstart, check_decodes _ rfl]
    exact hchecked
  · next t hstart =>
    rw [callCloseCb_decodes _ hcb]
    refine (startBatch_decodes _ hstart).trans ?_
    rw [check_decodes _ rfl]
    exact hchecked

private theorem sendNext_decodes (hcb : Quiet cb) : (sendNext grpc cb s).2.decodes = s.decodes := by
  have hchecked : ((s.check .sendNextQueue (!s.msgQueue.isEmpty)).check .sendNextStatus
      (s.check .sendNextQueue (!s.msgQueue.isEmpty)).status.ok).decodes = s.decodes :=
    (check_decodes _ rfl _).trans (check_decodes s rfl _)
  unfold sendNext
  dsimp only
  split
  · exact hchecked
  · split
    · next t hstart => rw [startBatch_decodes _ hstart, hchecked]
    · next t hstart =>
      rw [tryToCallCloseCb_decodes _ hcb]
      exact (startBatch_decodes _ hstart).trans hchecked

private theorem write_decodes (hcb : Quiet cb) (request : StdString) :
    (write grpc cb request s).2.decodes = s.decodes := by
  unfold write
  dsimp only
  split
  · rfl
  · split
    · rfl
    · split
      · rfl
      · exact sendNext_decodes _ hcb

private theorem close_decodes (hcb : Quiet cb) (hasCloseCb : Bool) :
    (close grpc cb hasCloseCb s).decodes = s.decodes := by
  unfold close
  dsimp only
  split
  · rfl
  · split
    · exact callCloseCb_decodes _ hcb _
    · split
      · exact sendClose_decodes _ hcb
      · rfl

private theorem onSent_decodes (hcb : Quiet cb) (success : Bool) :
    (onSent grpc cb success s).decodes = s.decodes := by
  have hpopped : ({ s.check .onSentQueue (!s.msgQueue.isEmpty) with
      msgQueue := (s.check .onSentQueue (!s.msgQueue.isEmpty)).msgQueue.tail } : Impl).decodes =
        s.decodes :=
    check_decodes s rfl _
  unfold onSent
  dsimp only
  split
  · rw [check_decodes _ rfl]
    exact hpopped
  · split
    · rw [tryToCallCloseCb_decodes _ hcb]
      exact hpopped
    · split
      · rw [sendNext_decodes _ hcb]
        exact hpopped
      · split
        · rw [sendClose_decodes _ hcb]
          exact hpopped
        · exact hpopped

/-- The one place of a null decode. -/
theorem onClosed_decodes (hcb : Quiet cb) (received : Received) :
    (onClosed cb received s).decodes =
      s.decodes ++ (if s.status.ok = true ∧ Missing received then [()] else []) := by
  unfold onClosed
  cases hok : s.status.ok with
  | false => simp [check_decodes s (rfl : nullDecode (.note (.fault .onClosedCloseCb)) = none)]
  | true =>
    simp only [Bool.not_true, Bool.false_eq_true, if_false, true_and]
    cases hstatus : received.status.ok with
    | false =>
      simp only [Bool.not_false, if_true]
      rw [callCloseCb_decodes _ hcb]
      simp [Impl.decodes, Missing, hstatus]
    | true =>
      simp only [Bool.not_true, Bool.false_eq_true, if_false]
      cases hbuf : received.recvBuf with
      | none => simp [Impl.decodes, Missing, hstatus, hbuf]
      | some buf =>
        rw [Call.getResultMsg_some, callCloseCb_decodes _ hcb]
        simp [Impl.decodes, Missing, hbuf]

mutual

private theorem runOp_quiet (grpc : Nat → Bool) (op : Op) : Quiet (runOp grpc op) := by
  intro s
  cases op with
  | write request cb =>
    rw [runOp, note_decodes _ rfl, write_decodes _ (runOps_quiet grpc cb)]
  | close hasCloseCb cb =>
    rw [runOp, close_decodes _ (runOps_quiet grpc cb), note_decodes _ rfl]
termination_by structural op

private theorem runOps_quiet (grpc : Nat → Bool) (ops : List Op) : Quiet (runOps grpc ops) := by
  intro s
  cases ops with
  | nil => rw [runOps]
  | cons op ops => rw [runOps, runOps_quiet grpc ops, runOp_quiet grpc op]
termination_by structural ops

end

variable {s} {t : Impl}

private theorem step_decodes {label : Label} (hstep : step grpc s label = some t) :
    t.decodes = [] ↔ s.decodes = [] ∧ ¬ Decodes s label := by
  cases label with
  | op op =>
    obtain rfl := step_op hstep
    simp [runOp_quiet grpc op s, Decodes]
  | complete index success received ops =>
    obtain ⟨tag, call, hcall, rfl⟩ := step_complete hstep
    have hfound := (Call.complete_found hcall).1
    have hquiet := runOps_quiet grpc ops
    have hsame : ({ s with call := call } : Impl).decodes = s.decodes := by
      simp [Impl.decodes, Call.complete_log hcall]
    unfold doComplete
    split
    · simp [onSent_decodes _ hquiet, hsame, Decodes, hfound]
    · simp [onClosed_decodes _ hquiet, hsame, Decodes, hfound]
    · simp_all [Decodes]

private theorem verdict_unanswered {received : Received} (hnone : received.recvBuf = none)
    {told : Status × StdString} (htold : some told = verdict received) : told.1.ok = false := by
  unfold verdict at htold
  cases hok : received.status.ok with
  | false =>
    obtain rfl : told = (received.status, []) := by simpa [hok] using htold
    exact hok
  | true => simp [hok, hnone] at htold

/-- An OK is told only with a message received. -/
theorem run_reports {ls : List Label}
    (hrun : (machine grpc).run (clientAsyncWriterImpl grpc) ls = some s) :
    ∀ told ∈ collect closeCbCall s.call.log, told.1.ok = true → ¬ Unanswered s.call.log := by
  intro told hmem hok hnone
  rcases (run_closes hrun).called with ⟨huncalled, -⟩ | ⟨-, -, only, honly, hfailed, hclean⟩
  · simp [huncalled] at hmem
  · obtain rfl : told = only := by simpa [honly] using hmem
    by_cases hbroken : collect Event.failed s.call.log = []
    · obtain ⟨received, hreceived, htells⟩ := hclean hbroken
      have hresponse : received ∈ collect response s.call.log := by
        have hclosed : received ∈ collect closeReceived s.call.log := by simp [hreceived]
        obtain ⟨e, he, hread⟩ := List.mem_filterMap.mp hclosed
        refine List.mem_filterMap.mpr ⟨e, he, ?_⟩
        rcases e with _ | ⟨⟨⟩, success, got⟩ | _ <;> simp_all [CqTag.ops]
      simp [verdict_unanswered (hnone received hresponse) htells] at hok
    · simp [Status.ok, hfailed hbroken] at hok

private theorem run_sound_iff {ls : List Label}
    (hrun : (machine grpc).run (clientAsyncWriterImpl grpc) ls = some s) :
    Sound s ↔ (machine grpc).Along (fun s label => ¬ Decodes s label)
      (clientAsyncWriterImpl grpc) ls := by
  have hinit : (clientAsyncWriterImpl grpc).decodes = [] := by
    rcases Bool.eq_false_or_eq_true (grpc 0) with hgrpc | hgrpc <;>
      simp [clientAsyncWriterImpl, Impl.startBatch, Impl.decodes, Impl.setInternalError, hgrpc]
  have hnull := (machine grpc).run_iff_along (fun _ _ _ hstep => step_decodes hstep) hrun
  simp only [hinit, true_and] at hnull
  rw [← hnull]
  exact ⟨fun h => h.no_null, fun h => ⟨h, run_reports hrun⟩⟩

end specs

end WriterImpl

/-- The exact condition of all four consumers of a response: the completion is not an
OK status without a message, or it is not looked at. -/
theorem null_decode_iff (grpc : Nat → Bool) :
    (∀ request answer response,
      ServiceStub.SyncSound (ServiceStub.syncRequest grpc request answer response) ↔
        ¬ (grpc 0 = true ∧ Missing answer.2)) ∧
    (∀ request responseCb errorCb ls c,
      ServiceStub.machine.run (ServiceStub.asyncRequest grpc request responseCb errorCb) ls =
          some c →
        (ServiceStub.AsyncSound errorCb c ↔ ServiceStub.machine.Along
          (fun _ label => ¬ (label.success = true ∧ Missing label.received))
          (ServiceStub.asyncRequest grpc request responseCb errorCb) ls)) ∧
    (∀ init ls d,
      (SyncWriter.machine grpc).run (SyncWriter.clientSyncWriter grpc init) ls = some d →
        (SyncWriter.Sound d ↔ (SyncWriter.machine grpc).Along
          (fun d label => ¬ SyncWriter.Decodes grpc d label)
          (SyncWriter.clientSyncWriter grpc init) ls)) ∧
    (∀ ls s, (WriterImpl.machine grpc).run (WriterImpl.clientAsyncWriterImpl grpc) ls = some s →
      (WriterImpl.Sound s ↔ (WriterImpl.machine grpc).Along
        (fun s label => ¬ WriterImpl.Decodes s label)
        (WriterImpl.clientAsyncWriterImpl grpc) ls)) :=
  ⟨ServiceStub.syncRequest_sound_iff grpc,
    fun _ _ _ _ _ hrun => ServiceStub.asyncRequest_sound_iff hrun,
    fun _ _ _ hrun => SyncWriter.run_sound_iff hrun,
    fun _ _ hrun => WriterImpl.run_sound_iff hrun⟩

/-- An OK status without a message, for each of the four. -/
theorem ok_without_message :
    collect ServiceStub.nullDecode
        (ServiceStub.syncRequest (fun _ => true) [1] (true, {}) []).2.log = [()] ∧
    (∃ c, ServiceStub.machine.run (ServiceStub.asyncRequest (fun _ => true) [1] (some 0) (some 1))
        [⟨0, true, {}, .OK⟩] = some c ∧
      collect ServiceStub.nullDecode c.log = [()]) ∧
    (∃ d, (SyncWriter.machine fun _ => true).run
        (SyncWriter.clientSyncWriter (fun _ => true) (true, {})) [.close (true, {}) []] = some d ∧
      collect SyncWriter.nullDecode d.call.log = [()]) ∧
    (∃ s, (WriterImpl.machine fun _ => true).run
        (WriterImpl.clientAsyncWriterImpl fun _ => true)
        [.op (.close true []), .complete 1 true {} []] = some s ∧ s.decodes = [()]) :=
  ⟨rfl, ⟨_, rfl, rfl⟩, ⟨_, rfl, rfl⟩, ⟨_, rfl, rfl⟩⟩

/-- A server's error where there could be a response, closed by two copies of a writer. -/
def refusedResponse : List SyncWriter.Label :=
  [.write [1] (true, {}), .close (true, { status := .internalError [2] }) [],
    .close (true, {}) []]

theorem null_decode_iff_refused :
    ∃ d, (SyncWriter.machine fun _ => true).run
        (SyncWriter.clientSyncWriter (fun _ => true) (true, {})) refusedResponse = some d ∧
      SyncWriter.Sound d := by
  have hrun : (SyncWriter.machine fun _ => true).run
      (SyncWriter.clientSyncWriter (fun _ => true) (true, {})) refusedResponse = some _ := rfl
  refine ⟨_, hrun, ((null_decode_iff fun _ => true).2.2.1 _ _ _ hrun).mpr ?_⟩
  rw [refusedResponse, Machine.along_cons rfl, Machine.along_cons rfl, Machine.along_cons rfl]
  refine ⟨fun h => h, ?_, ?_, Machine.along_nil _ _⟩
  · rintro ⟨-, -, hok, -⟩
    cases hok
  · rintro ⟨hok, -, -⟩
    cases hok

end GrpcCbCore.Client
