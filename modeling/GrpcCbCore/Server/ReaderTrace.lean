import GrpcCbCore.Server.Reader
import GrpcCbCore.Common.Stream

/-! The callbacks of `ServerReader` are the trace of its chain of reads: the
messages, an error if one ended it, and the end. -/
namespace GrpcCbCore.Server.Reader
open GrpcCbCore.Library

/-- How the stream ends; a read that cannot be started ends it too. -/
inductive Ending where
  | startRefused
  | stream (reason : StreamEnd)
  deriving DecidableEq, Repr

@[simp] def sights : Event Note → List (Outcome StdString Ending)
  | .start .serverReader false => [.stop .startRefused]
  | .complete .serverReader success received =>
      [(readOutcome (lit "ServerReaderCqTag failed.") success received).mapStop .stream]
  | .note (.onMsgStrReturns status) => if status.ok then [] else [.stop (.stream (.error status))]
  | _ => []

def chain (history : List (Event Note)) : Chain StdString Ending := .shown sights history

/-- The error that ended the stream; the first read is started by `Start`, the
others by the tags. -/
def Ending.error? (items : List StdString) : Ending → Option Status
  | .startRefused => some (.internalError
      (if items = [] then lit "Failed to init client streaming."
        else lit "Failed to read client-side streaming."))
  | .stream .endOfStream => none
  | .stream (.error status) => some status

/-- The callbacks that a chain of reads is to make. -/
def trace (c : Chain StdString Ending) : List Note :=
  c.items.map .onMsgStr ++
    match c.stop with
    | none => []
    | some ending => (ending.error? c.items).toList.map .onError ++ [.onEnd]

@[simp] def callback : Event Note → Option Note
  | .note (.onMsgStr msgStr) => some (.onMsgStr msgStr)
  | .note (.onError status) => some (.onError status)
  | .note .onEnd => some .onEnd
  | _ => none

@[simp] def fault : Event Note → Option Site
  | .note (.fault site) => some site
  | _ => none

@[simp] def readStarted : Event Note → Option Unit
  | .start .serverReader true => some ()
  | _ => none

@[simp] def readDone : Event Note → Option Unit
  | .complete .serverReader _ _ => some ()
  | _ => none

/-- A read is started in an open chain, after every read before it has completed. -/
def Lawful (before : List (Event Note)) : Event Note → Prop
  | .start .serverReader _ => (chain before).stop = none ∧
      (collect readStarted before).length = (collect readDone before).length
  | .complete .serverReader _ _ => (chain before).stop = none
  | _ => True

structure Past (call : Call Note) : Prop where
  lawful : AtEach Lawful call.log
  faultless : collect fault call.log = []

/-- Between two reads, or behind the last. -/
structure Idle (call : Call Note) (stop : Option Ending) : Prop extends Past call where
  stop : (chain call.log).stop = stop
  free : call.outstanding = []
  callbacks : collect callback call.log = (chain call.log).items.map .onMsgStr
  settled : (collect readStarted call.log).length = (collect readDone call.log).length

structure Reading (call : Call Note) : Prop extends Past call where
  stop : (chain call.log).stop = none
  read : call.outstanding = [.serverReader]
  callbacks : collect callback call.log = (chain call.log).items.map .onMsgStr
  settled : (collect readStarted call.log).length = (collect readDone call.log).length + 1

structure Ended (call : Call Note) : Prop extends Past call where
  free : call.outstanding = []
  stop : (chain call.log).stop ≠ none
  callbacks : collect callback call.log = trace (chain call.log)

@[simp] theorem chain_append (history after : List (Event Note)) :
    chain (history ++ after) = (chain history).more (after.flatMap sights) := by
  simp [chain]

section idle

variable {grpc : Nat → Bool} {call call' : Call Note} {index : Nat} {success : Bool}
  {received : Received}

theorem Idle.read (h : Idle call none) (hgrpc : grpc call.starts = true) :
    Reading (call.startBatch grpc .serverReader).2 where
  lawful := h.lawful.snoc ⟨h.stop, h.settled⟩
  faultless := by simpa using h.faultless
  stop := by simpa [hgrpc] using h.stop
  read := by simp [hgrpc, h.free]
  callbacks := by simpa [hgrpc] using h.callbacks
  settled := by simp [hgrpc, h.settled]

/-- An event that no callback has part in and no read begins or ends with may stop the
reads, and does no more. -/
theorem Idle.silent {stop : Option Ending} (h : Idle call none) {e : Event Note}
    (hlog : call'.log = call.log ++ [e])
    (hsilent : callback e = none ∧ fault e = none ∧ readStarted e = none ∧ readDone e = none)
    (hlawful : Lawful call.log e) (hsights : sights e = stop.toList.map .stop)
    (hfree : call'.outstanding = []) : Idle call' stop := by
  obtain ⟨hcallback, hfault, hstarted, hdone⟩ := hsilent
  have hchain : chain call'.log = { chain call.log with stop } := by
    rw [hlog, chain_append, List.flatMap_singleton, hsights, Chain.more_toList h.stop]
  refine ⟨⟨?_, ?_⟩, ?_, hfree, ?_, ?_⟩
  · rw [hlog]
    exact h.lawful.snoc hlawful
  · rw [hlog, collect_snoc_none _ _ hfault, h.faultless]
  · rw [hchain]
  · rw [hchain, hlog, collect_snoc_none _ _ hcallback, h.callbacks]
  · rw [hlog, collect_snoc_none _ _ hstarted, collect_snoc_none _ _ hdone, h.settled]

theorem Idle.read_refused (h : Idle call none) (hgrpc : grpc call.starts = false) :
    Idle (call.startBatch grpc .serverReader).2 (some .startRefused) := by
  apply h.silent (e := .start .serverReader false)
  · simp [hgrpc]
  · simp
  · exact ⟨h.stop, h.settled⟩
  · rfl
  · simp [hgrpc, h.free]

theorem Idle.returns (h : Idle call none) {status : Status} (hok : status.ok = true) :
    Idle (call.note (.onMsgStrReturns status)) none := by
  apply h.silent (e := .note (.onMsgStrReturns status))
  · rfl
  · simp
  · trivial
  · simp [hok]
  · exact h.free

theorem Idle.fails (h : Idle call none) {status : Status} (hfailed : status.ok = false) :
    Idle (call.note (.onMsgStrReturns status)) (some (.stream (.error status))) := by
  apply h.silent (e := .note (.onMsgStrReturns status))
  · rfl
  · simp
  · trivial
  · simp [hfailed]
  · exact h.free

theorem Idle.ends {ending : Ending} (h : Idle call (some ending)) (error : Option Status)
    (herror : ending.error? (chain call.log).items = error) :
    Ended (call.notes (error.toList.map .onError ++ [.onEnd])) := by
  have hchain : chain (call.log ++ (error.toList.map Note.onError ++ [Note.onEnd]).map .note) =
      chain call.log := by
    cases error <;> simp
  refine ⟨⟨?_, ?_⟩, by simp [h.free], ?_, ?_⟩
  · rw [Call.notes_log]
    apply h.lawful.append
    cases error <;> simp [Lawful]
  · cases error <;> simpa using h.faultless
  · rw [Call.notes_log, hchain, h.stop]
    simp
  · rw [Call.notes_log, hchain, trace, h.stop, collect_append, h.callbacks]
    cases error <;> simp [herror]

theorem Reading.stops (h : Reading call) (reason : StreamEnd)
    (hcall : call.complete index success received = some (.serverReader, call'))
    (hread : readOutcome (lit "ServerReaderCqTag failed.") success received = .stop reason) :
    Idle call' (some (.stream reason)) := by
  obtain ⟨before, after, hsplit, rfl⟩ := Call.complete_eq_some hcall
  have hempty : before ++ after = [] := by
    rw [h.read] at hsplit
    cases before <;> simp_all
  have hlawful : Lawful call.log (.complete .serverReader success received) := h.stop
  refine ⟨⟨h.lawful.snoc hlawful, ?_⟩, ?_, hempty, ?_, ?_⟩
  · simpa using h.faultless
  · simp [hread, Outcome.mapStop, Chain.next_stop h.stop]
  · simpa [hread, Outcome.mapStop, Chain.next_stop h.stop] using h.callbacks
  · simpa using h.settled

theorem Reading.brings (h : Reading call) {bytes : StdString}
    (hcall : call.complete index true received = some (.serverReader, call'))
    (hbuf : received.recvBuf = some (.readable bytes)) :
    Idle (call'.note (.onMsgStr bytes)) none ∧
      (chain (call'.note (.onMsgStr bytes)).log).items ≠ [] := by
  obtain ⟨before, after, hsplit, rfl⟩ := Call.complete_eq_some hcall
  have hempty : before ++ after = [] := by
    rw [h.read] at hsplit
    cases before <;> simp_all
  have hread : readOutcome (lit "ServerReaderCqTag failed.") true received = .item bytes := by
    simp [readOutcome, bufferOutcome, hbuf]
  have hlawful : Lawful call.log (.complete .serverReader true received) := h.stop
  refine ⟨⟨⟨(h.lawful.snoc hlawful).snoc trivial, ?_⟩, ?_, hempty, ?_, ?_⟩, ?_⟩
  · simpa using h.faultless
  · simp [hread, Outcome.mapStop, Chain.next_item h.stop, h.stop]
  · simp [hread, Outcome.mapStop, Chain.next_item h.stop, h.callbacks]
  · simpa using h.settled
  · simp [hread, Outcome.mapStop, Chain.next_item h.stop]

end idle

namespace ServerReader

@[simp] theorem check_true (site : Site) (s : ServerReader) : s.check site true = s := rfl

@[simp] theorem note_call (n : Note) (s : ServerReader) : (s.note n).call = s.call.note n := rfl
@[simp] theorem note_started (n : Note) (s : ServerReader) : (s.note n).started = s.started := rfl

end ServerReader

/-- A reader that was started waits for a read, or has ended. -/
inductive Phase (s : ServerReader) : Prop
  | reading (hstarted : s.started = true) (h : Reading s.call)
  | ended (hstarted : s.started = true) (h : Ended s.call)

section specs

variable {grpc : Nat → Bool} {s t : ServerReader}

private theorem endOnError_phase (hstarted : s.started = true) {ending : Ending} {status : Status}
    (hfailed : status.ok = false) (h : Idle s.call (some ending))
    (herror : ending.error? (chain s.call.log).items = some status) :
    Phase (endOnError status s) := by
  have heq : endOnError status s = (s.note (.onError status)).note .onEnd := by
    simp [endOnError, hfailed]
  rw [heq]
  refine .ended hstarted ?_
  simpa [Call.note, Call.notes] using h.ends _ herror

private theorem next_phase (hstarted : s.started = true) (h : Idle s.call none)
    (hitems : (chain s.call.log).items ≠ []) :
    Phase (match s.startBatch grpc .serverReader with
      | (true, s) => s
      | (false, s) =>
        endOnError (.internalError (lit "Failed to read client-side streaming.")) s) := by
  rcases Bool.eq_false_or_eq_true (grpc s.call.starts) with hgrpc | hgrpc
  · simp only [ServerReader.startBatch, Call.startBatch_fst, hgrpc]
    exact .reading hstarted (h.read hgrpc)
  · simp only [ServerReader.startBatch, Call.startBatch_fst, hgrpc]
    apply endOnError_phase
    · exact hstarted
    · exact Status.ok_internalError _
    · exact h.read_refused hgrpc
    · simp [Ending.error?, hgrpc, Chain.next_stop h.stop, hitems]

theorem start_phase (hnew : s.call = {}) : Phase (start grpc s) := by
  have hidle : Idle s.call none := by
    rw [hnew]
    exact ⟨⟨AtEach.nil, rfl⟩, rfl, rfl, rfl, rfl⟩
  have hitems : (chain s.call.log).items = [] := by
    rw [hnew]
    rfl
  unfold start
  rcases Bool.eq_false_or_eq_true (grpc s.call.starts) with hgrpc | hgrpc
  · simp only [ServerReader.startBatch, Call.startBatch_fst, hgrpc]
    exact .reading rfl (hidle.read hgrpc)
  · have hended := (hidle.read_refused hgrpc).ends
      (some (.internalError (lit "Failed to init client streaming.")))
      (by simp [Ending.error?, hgrpc, Chain.next_stop hidle.stop, hitems])
    simp only [ServerReader.startBatch, Call.startBatch_fst, hgrpc]
    refine .ended rfl ?_
    simpa [Call.note, Call.notes] using hended

theorem doComplete_phase (hstarted : s.started = true) (h : Reading s.call) {index : Nat}
    {success : Bool} {received : Received} {call : Call Note}
    (hcall : s.call.complete index success received = some (.serverReader, call))
    (onMsgStr : Status) :
    Phase (doComplete grpc onMsgStr success received { s with call := call }) := by
  unfold doComplete
  cases success with
  | false =>
    have hidle := h.stops (.error _) hcall rfl
    apply endOnError_phase
    · exact hstarted
    · exact Status.ok_internalError _
    · exact hidle
    · rfl
  | true =>
    rw [if_neg (by simp)]
    cases hbuf : received.recvBuf with
    | none =>
      have hidle := h.stops .endOfStream hcall
        (by simp [readOutcome, bufferOutcome, hbuf])
      refine .ended hstarted ?_
      simpa [Call.note, Call.notes] using hidle.ends none rfl
    | some recvBuf =>
      cases recvBuf with
      | unreadable =>
        have hidle := h.stops
          (.error (.internalError (lit "Failed to read recv byte buffer."))) hcall
          (by simp [readOutcome, bufferOutcome, hbuf])
        simp only [getResultMsg, byteBufferToString, Status.ok_internalError, Bool.not_false,
          if_true]
        apply endOnError_phase
        · exact hstarted
        · exact Status.ok_internalError _
        · exact hidle
        · rfl
      | readable bytes =>
        obtain ⟨hidle, hitems⟩ := h.brings hcall hbuf
        simp only [getResultMsg, byteBufferToString, Status.ok_OK, Bool.not_true,
          Bool.false_eq_true, if_false]
        cases hresult : onMsgStr.ok with
        | false =>
          rw [if_pos (by rfl)]
          apply endOnError_phase
          · exact hstarted
          · exact hresult
          · exact hidle.fails hresult
          · rfl
        | true =>
          rw [if_neg (by simp)]
          apply next_phase
          · exact hstarted
          · exact hidle.returns hresult
          · simpa [hresult] using hitems

theorem step_phase (h : Phase s) {label : Label} (hstep : step grpc s label = some t) :
    Phase t := by
  have hstarted : s.started = true := by
    cases h <;> assumption
  cases label with
  | start => simp [step, hstarted] at hstep
  | complete index success received onMsgStr =>
    cases hcall : s.call.complete index success received with
    | none => simp [step, hcall] at hstep
    | some found =>
      obtain ⟨tag, call⟩ := found
      have hmem := (Call.complete_subset hcall).1
      cases h with
      | reading _ h =>
        obtain rfl : tag = .serverReader := by simpa [h.read] using hmem
        obtain rfl : doComplete grpc onMsgStr success received { s with call := call } = t := by
          simpa [step, hcall] using hstep
        exact doComplete_phase hstarted h hcall onMsgStr
      | ended _ h => simp [h.free] at hmem

theorem run_phase {ls : List Label} (hrun : (machine grpc).run {} ls = some s) :
    s = {} ∨ Phase s := by
  refine (machine grpc).invariant (I := fun s => s = {} ∨ Phase s) ?_ (.inl rfl) hrun
  rintro s label t (rfl | h) hstep
  · right
    cases label with
    | start =>
      obtain rfl : start grpc {} = t := by simpa [machine, step] using hstep
      exact start_phase rfl
    | complete => simp [machine, step, Call.complete] at hstep
  · exact .inr (step_phase h hstep)

end specs

/-- One read at a time; the callbacks made are the trace of the chain of reads; and
the end was told just when no read is outstanding. -/
structure TraceLaw (s : ServerReader) : Prop where
  one_read : s.call.outstanding.count .serverReader ≤ 1
  lawful : AtEach Lawful s.call.log
  callbacks : collect callback s.call.log = trace (chain s.call.log)
  ended : s.started = true →
    (.onEnd ∈ collect callback s.call.log ↔ .serverReader ∉ s.call.outstanding)

theorem callback_trace {grpc : Nat → Bool} {ls : List Label} {s : ServerReader}
    (hrun : (machine grpc).run {} ls = some s) : TraceLaw s := by
  rcases run_phase hrun with rfl | ⟨hstarted, h⟩ | ⟨hstarted, h⟩
  · exact ⟨by simp, AtEach.nil, rfl, by simp⟩
  · refine ⟨by simp [h.read], h.lawful, ?_, fun _ => ?_⟩
    · rw [h.callbacks, trace, h.stop]
      simp
    · simp [h.callbacks, h.read]
  · refine ⟨by simp [h.free], h.lawful, h.callbacks, fun _ => ?_⟩
    obtain ⟨ending, hending⟩ := Option.ne_none_iff_exists'.mp h.stop
    simp [h.callbacks, h.free, trace, hending]

/-- A message, then a read that cannot be started. -/
def refusedLabels : List Label :=
  [.start, .complete 0 true { recvBuf := some (.readable [7]) } .OK]

theorem callback_trace_refused :
    ∃ s, (machine fun k => k = 0).run {} refusedLabels = some s ∧
      collect callback s.call.log = [.onMsgStr [7],
        .onError (.internalError (lit "Failed to read client-side streaming.")), .onEnd] ∧
      TraceLaw s := by
  have hrun : (machine fun k => k = 0).run {} refusedLabels = some _ := rfl
  exact ⟨_, hrun, rfl, callback_trace hrun⟩

end GrpcCbCore.Server.Reader
