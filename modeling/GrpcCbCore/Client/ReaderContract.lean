import GrpcCbCore.Client.ReaderImpl
import GrpcCbCore.Common.Stream

/-! The callbacks of `ClientAsyncReaderImpl`. The reads are a chain: each is
started when the one before has brought a message that `msg_cb` accepts. What
stops the chain is told to `status_cb`, or asked of the server at the end. -/
namespace GrpcCbCore.Client.ReaderImpl
open GrpcCbCore.Library

@[simp] def sights : Event Note → List ReadOutcome
  | .start (.clientReaderInit _) false =>
      [.stop (.error (.internalError (lit "Failed to start async client reader.")))]
  | .start .clientReaderRead false =>
      [.stop (.error (.internalError (lit "Failed to async read server-side streaming.")))]
  | .complete .clientReaderRead success received =>
      [readOutcome (lit "ClientReaderReadCqTag failed.") success received]
  | .note (.msgCbReturns status) => if status.ok then [] else [.stop (.error status)]
  | _ => []

def chain (history : List (Event Note)) : Chain StdString StreamEnd := .shown sights history

@[simp] def heard : Event Note → Option (Nat × StdString)
  | .note (.msgCb cb sMsg) => some (cb, sMsg)
  | _ => none

@[simp] def told : Event Note → Option (Nat × Status)
  | .note (.statusCb cb status) => some (cb, status)
  | _ => none

@[simp] def fault : Event Note → Option Site
  | .note (.fault site) => some site
  | _ => none

@[simp] def readStarted : Event Note → Option Unit
  | .start .clientReaderRead true => some ()
  | _ => none

@[simp] def readDone : Event Note → Option (Bool × Received)
  | .complete .clientReaderRead success received => some (success, received)
  | _ => none

@[simp] def recvStatusAttempt : Event Note → Option Bool
  | .start (.clientReaderAsyncRecvStatus _) ok => some ok
  | _ => none

@[simp] def recvStatusResult : Event Note → Option Status
  | .start (.clientReaderAsyncRecvStatus _) false =>
      some (.internalError (lit "Failed to receive status."))
  | .complete (.clientReaderAsyncRecvStatus _) false _ =>
      some (.internalError (lit "Failed to receive status."))
  | .complete (.clientReaderAsyncRecvStatus _) true received => some received.status
  | _ => none

/-- What there is to tell: the error that stopped the reads, or at the end of
the stream what the receive-status batch came to. -/
def verdict (history : List (Event Note)) : Option Status :=
  match (chain history).stop with
  | none => none
  | some (.error status) => some status
  | some .endOfStream => (collect recvStatusResult history).head?

def busy : CqTag → Bool
  | .clientReaderRead | .clientReaderAsyncRecvStatus _ => true
  | _ => false

def heardBy (msgCb : Callback) (items : List StdString) : List (Nat × StdString) :=
  match msgCb with
  | none => []
  | some cb => items.map (cb, ·)

/-- A read is started in an open chain, after every read before it has
completed; the status is asked for at the end of the stream, once; and once
`status_cb` was called no callback is. -/
def Lawful (before : List (Event Note)) : Event Note → Prop
  | .start .clientReaderRead _ => (chain before).stop = none ∧
      (collect readStarted before).length = (collect readDone before).length
  | .complete .clientReaderRead _ _ => (chain before).stop = none
  | .start (.clientReaderAsyncRecvStatus _) _ => (chain before).stop = some .endOfStream ∧
      collect recvStatusAttempt before = []
  | .note (.msgCb _ _) | .note (.statusCb _ _) => collect told before = []
  | _ => True

structure Past (call : Call Note) (msgCb : Callback) : Prop where
  lawful : AtEach Lawful call.log
  heard : collect heard call.log = heardBy msgCb (chain call.log).items
  faultless : collect fault call.log = []

/-- Before the status was asked for or told. -/
structure Untold (call : Call Note) (msgCb : Callback) : Prop extends Past call msgCb where
  untold : collect told call.log = []
  unasked : collect recvStatusAttempt call.log = []
  unreceived : collect recvStatusResult call.log = []

structure Idle (call : Call Note) (msgCb : Callback) (stop : Option StreamEnd) : Prop
    extends Untold call msgCb where
  stop : (chain call.log).stop = stop
  free : call.outstanding.filter busy = []
  settled : (collect readStarted call.log).length = (collect readDone call.log).length

structure Reading (call : Call Note) (msgCb : Callback) : Prop extends Untold call msgCb where
  stop : (chain call.log).stop = none
  read : call.outstanding.filter busy = [.clientReaderRead]
  settled : (collect readStarted call.log).length = (collect readDone call.log).length + 1

structure Receiving (call : Call Note) (msgCb statusCb : Callback) : Prop
    extends Past call msgCb where
  stop : (chain call.log).stop = some .endOfStream
  receive : call.outstanding.filter busy = [.clientReaderAsyncRecvStatus statusCb]
  untold : collect told call.log = []
  unreceived : collect recvStatusResult call.log = []

structure Done (call : Call Note) (msgCb statusCb : Callback) : Prop extends Past call msgCb where
  free : call.outstanding.filter busy = []
  tells : ∃ v, verdict call.log = some v ∧ collect told call.log = statusCb.toList.map (·, v)

/-- A reader once it was started with these callbacks. -/
inductive Phase (s : Impl) (msgCb statusCb : Callback) : Prop
  | reading (hstarted : s.isStarted = true) (hok : s.status.ok = true) (hmsgCb : s.msgCb = msgCb)
      (hstatusCb : s.statusCb = statusCb) (h : Reading s.call msgCb)
  | receiving (hstarted : s.isStarted = true) (h : Receiving s.call msgCb statusCb)
  | done (hstarted : s.isStarted = true) (h : Done s.call msgCb statusCb)

@[simp] theorem chain_append (history after : List (Event Note)) :
    chain (history ++ after) = (chain history).more (after.flatMap sights) := by
  simp [chain]

section idle

variable {grpc : Nat → Bool} {call : Call Note} {msgCb : Callback} {stop : Option StreamEnd}

private theorem heardBy_item (msgCb : Callback) (items : List StdString) (m : StdString) :
    heardBy msgCb (items ++ [m]) = heardBy msgCb items ++ heardBy msgCb [m] := by
  cases msgCb <;> simp [heardBy]

theorem Idle.read (h : Idle call msgCb none) (hgrpc : grpc call.starts = true) :
    Reading (call.startBatch grpc .clientReaderRead).2 msgCb where
  lawful := h.lawful.snoc ⟨h.stop, h.settled⟩
  heard := by simpa [hgrpc] using h.heard
  faultless := by simpa using h.faultless
  untold := by simpa using h.untold
  unasked := by simpa using h.unasked
  unreceived := by simpa [hgrpc] using h.unreceived
  stop := by simpa [hgrpc] using h.stop
  read := by simp [hgrpc, h.free, busy]
  settled := by simp [hgrpc, h.settled]

/-- An event that no callback has part in, and that no batch begins or ends with that the
reader waits for. -/
def Silent (e : Event Note) : Prop :=
  heard e = none ∧ told e = none ∧ fault e = none ∧ readStarted e = none ∧ readDone e = none ∧
    recvStatusAttempt e = none ∧ recvStatusResult e = none

/-- Such an event may stop the reads, and does no more. -/
theorem Idle.silent (h : Idle call msgCb none) {call' : Call Note} {e : Event Note}
    (hlog : call'.log = call.log ++ [e]) (hsilent : Silent e) (hlawful : Lawful call.log e)
    (hsights : sights e = stop.toList.map .stop) (hfree : call'.outstanding.filter busy = []) :
    Idle call' msgCb stop := by
  obtain ⟨hheard, htold, hfault, hstarted, hdone, hattempt, hresult⟩ := hsilent
  have hchain : chain call'.log = { chain call.log with stop } := by
    rw [hlog, chain_append, List.flatMap_singleton, hsights, Chain.more_toList h.stop]
  refine ⟨⟨⟨?_, ?_, ?_⟩, ?_, ?_, ?_⟩, ?_, hfree, ?_⟩
  · rw [hlog]
    exact h.lawful.snoc hlawful
  · rw [hchain, hlog, collect_snoc_none _ _ hheard, h.heard]
  · rw [hlog, collect_snoc_none _ _ hfault, h.faultless]
  · rw [hlog, collect_snoc_none _ _ htold, h.untold]
  · rw [hlog, collect_snoc_none _ _ hattempt, h.unasked]
  · rw [hlog, collect_snoc_none _ _ hresult, h.unreceived]
  · rw [hchain]
  · rw [hlog, collect_snoc_none _ _ hstarted, collect_snoc_none _ _ hdone, h.settled]

theorem Idle.read_refused (h : Idle call msgCb none) (hgrpc : grpc call.starts = false) :
    Idle (call.startBatch grpc .clientReaderRead).2 msgCb
      (some (.error (.internalError (lit "Failed to async read server-side streaming.")))) := by
  apply h.silent (e := .start .clientReaderRead false)
  · simp [hgrpc]
  · simp [Silent]
  · exact ⟨h.stop, h.settled⟩
  · rfl
  · simpa [hgrpc] using h.free

theorem Idle.init (h : Idle call msgCb none) (request : StdString)
    (hgrpc : grpc call.starts = true) :
    Idle (call.startBatch grpc (.clientReaderInit request)).2 msgCb none := by
  apply h.silent (e := .start (.clientReaderInit request) true)
  · simp [hgrpc]
  · simp [Silent]
  · trivial
  · rfl
  · simpa [hgrpc, busy] using h.free

theorem Idle.init_refused (h : Idle call msgCb none) (request : StdString)
    (hgrpc : grpc call.starts = false) :
    Idle (call.startBatch grpc (.clientReaderInit request)).2 msgCb
      (some (.error (.internalError (lit "Failed to start async client reader.")))) := by
  apply h.silent (e := .start (.clientReaderInit request) false)
  · simp [hgrpc]
  · simp [Silent]
  · trivial
  · rfl
  · simpa [hgrpc] using h.free

theorem Idle.returns (h : Idle call msgCb none) {status : Status} (hok : status.ok = true) :
    Idle (call.note (.msgCbReturns status)) msgCb none := by
  apply h.silent (e := .note (.msgCbReturns status))
  · rfl
  · simp [Silent]
  · trivial
  · simp [hok]
  · exact h.free

theorem Idle.fails (h : Idle call msgCb none) {status : Status} (hfailed : status.ok = false) :
    Idle (call.note (.msgCbReturns status)) msgCb (some (.error status)) := by
  apply h.silent (e := .note (.msgCbReturns status))
  · rfl
  · simp [Silent]
  · trivial
  · simp [hfailed]
  · exact h.free

theorem Idle.tell {status : Status} (h : Idle call msgCb (some (.error status))) (cb : Nat) :
    Done (call.note (.statusCb cb status)) msgCb (some cb) where
  lawful := h.lawful.snoc h.untold
  heard := by simpa using h.heard
  faultless := by simpa using h.faultless
  free := by simpa using h.free
  tells := ⟨status, by simp [verdict, h.stop], by simp [h.untold]⟩

theorem Idle.done {status : Status} (h : Idle call msgCb (some (.error status))) :
    Done call msgCb none where
  toPast := h.toPast
  free := h.free
  tells := ⟨status, by simp [verdict, h.stop], h.untold⟩

theorem Idle.ask (h : Idle call msgCb (some .endOfStream)) (statusCb : Callback)
    (hgrpc : grpc call.starts = true) :
    Receiving (call.startBatch grpc (.clientReaderAsyncRecvStatus statusCb)).2 msgCb statusCb where
  lawful := h.lawful.snoc ⟨h.stop, h.unasked⟩
  heard := by simpa using h.heard
  faultless := by simpa using h.faultless
  stop := by simpa using h.stop
  receive := by simp [hgrpc, h.free, busy]
  untold := by simpa using h.untold
  unreceived := by simpa [hgrpc] using h.unreceived

theorem Idle.ask_refused (h : Idle call msgCb (some .endOfStream)) (statusCb : Callback)
    (hgrpc : grpc call.starts = false) :
    Done ((call.startBatch grpc (.clientReaderAsyncRecvStatus statusCb)).2.notes
      (statusCb.toList.map fun cb =>
        .statusCb cb (.internalError (lit "Failed to receive status.")))) msgCb statusCb := by
  have hasked : AtEach Lawful
      (call.startBatch grpc (.clientReaderAsyncRecvStatus statusCb)).2.log :=
    h.lawful.snoc ⟨h.stop, h.unasked⟩
  cases statusCb with
  | none =>
    rw [Option.toList_none, List.map_nil, Call.notes_nil]
    exact {
      lawful := hasked
      heard := by simpa using h.heard
      faultless := by simpa using h.faultless
      free := by simpa [hgrpc] using h.free
      tells := ⟨.internalError (lit "Failed to receive status."),
        by simp [verdict, h.stop, hgrpc, h.unreceived], by simp [h.untold]⟩ }
  | some cb =>
    exact {
      lawful := hasked.snoc (by simpa [Lawful] using h.untold)
      heard := by simpa using h.heard
      faultless := by simpa using h.faultless
      free := by simpa [hgrpc] using h.free
      tells := ⟨.internalError (lit "Failed to receive status."),
        by simp [verdict, h.stop, hgrpc, h.unreceived], by simp [h.untold]⟩ }

private theorem busy_complete {index : Nat} {success : Bool} {received : Received}
    {tag waited : CqTag} {call' : Call Note} (hout : call.outstanding.filter busy = [waited])
    (hcall : call.complete index success received = some (tag, call')) (htag : busy tag = true) :
    tag = waited ∧ call'.outstanding.filter busy = [] := by
  obtain ⟨before, after, hsplit, rfl⟩ := Call.complete_eq_some hcall
  rw [hsplit, List.filter_append, List.filter_cons_of_pos htag] at hout
  cases hbefore : before.filter busy with
  | nil =>
    simp only [hbefore, List.nil_append, List.cons.injEq] at hout
    exact ⟨hout.1, by simp [hbefore, hout.2]⟩
  | cons t rest => simp [hbefore] at hout

private theorem busy_silent {index : Nat} {success : Bool} {received : Received} {tag : CqTag}
    {call' : Call Note} (hcall : call.complete index success received = some (tag, call'))
    (htag : busy tag = false) :
    call'.outstanding.filter busy = call.outstanding.filter busy := by
  obtain ⟨before, after, hsplit, rfl⟩ := Call.complete_eq_some hcall
  rw [hsplit, List.filter_append, List.filter_append, List.filter_cons_of_neg (by simp [htag])]

end idle

section reading

variable {call call' : Call Note} {msgCb statusCb : Callback} {index : Nat} {success : Bool}
  {received : Received}

theorem Reading.stops (h : Reading call msgCb) {reason : StreamEnd}
    (hcall : call.complete index success received = some (.clientReaderRead, call'))
    (hread : readOutcome (lit "ClientReaderReadCqTag failed.") success received = .stop reason) :
    Idle call' msgCb (some reason) := by
  have hlog := Call.complete_log hcall
  have hsight : sights (.complete .clientReaderRead success received) = [.stop reason] := by
    rw [sights, hread]
  refine ⟨⟨⟨?_, ?_, ?_⟩, ?_, ?_, ?_⟩, ?_, (busy_complete h.read hcall rfl).2, ?_⟩
  · rw [hlog]
    exact h.lawful.snoc h.stop
  · simpa [hlog, hread, Chain.next_stop h.stop] using h.heard
  · simpa [hlog] using h.faultless
  · simpa [hlog] using h.untold
  · simpa [hlog] using h.unasked
  · simpa [hlog] using h.unreceived
  · simp [hlog, hread, Chain.next_stop h.stop]
  · simpa [hlog] using h.settled

theorem Reading.brings (h : Reading call msgCb) {bytes : StdString}
    (hcall : call.complete index true received = some (.clientReaderRead, call'))
    (hbuf : received.recvBuf = some (.readable bytes)) :
    Idle (call'.notes (msgCb.toList.map fun cb => .msgCb cb bytes)) msgCb none := by
  have hlog := Call.complete_log hcall
  have hread : readOutcome (lit "ClientReaderReadCqTag failed.") true received = .item bytes := by
    simp [readOutcome, bufferOutcome, hbuf]
  have hlawful : AtEach Lawful call'.log := by
    rw [hlog]
    exact h.lawful.snoc h.stop
  have huntold : collect told call'.log = [] := by simpa [hlog] using h.untold
  cases msgCb with
  | none =>
    refine ⟨⟨⟨?_, ?_, ?_⟩, ?_, ?_, ?_⟩, ?_, ?_, ?_⟩
    · simpa using hlawful
    · simpa [hlog, heardBy] using h.heard
    · simpa [hlog] using h.faultless
    · simpa using huntold
    · simpa [hlog] using h.unasked
    · simpa [hlog] using h.unreceived
    · simp [hlog, hread, Chain.next_item h.stop, h.stop]
    · simpa using (busy_complete h.read hcall rfl).2
    · simpa [hlog] using h.settled
  | some cb =>
    refine ⟨⟨⟨?_, ?_, ?_⟩, ?_, ?_, ?_⟩, ?_, ?_, ?_⟩
    · exact hlawful.snoc huntold
    · simp [hlog, hread, Chain.next_item h.stop, heardBy_item, h.heard]
      rfl
    · simpa [hlog] using h.faultless
    · simpa using huntold
    · simpa [hlog] using h.unasked
    · simpa [hlog] using h.unreceived
    · simp [hlog, hread, Chain.next_item h.stop, h.stop]
    · simpa using (busy_complete h.read hcall rfl).2
    · simpa [hlog] using h.settled

theorem Receiving.completes (h : Receiving call msgCb statusCb) {v : Status}
    (hcall : call.complete index success received =
      some (.clientReaderAsyncRecvStatus statusCb, call'))
    (hv : recvStatusResult (.complete (.clientReaderAsyncRecvStatus statusCb) success received :
      Event Note) = some v) :
    Done (call'.notes (statusCb.toList.map fun cb => .statusCb cb v)) msgCb statusCb := by
  have hlog := Call.complete_log hcall
  have hlawful : AtEach Lawful call'.log := by
    rw [hlog]
    exact h.lawful.snoc trivial
  have huntold : collect told call'.log = [] := by simpa [hlog] using h.untold
  have hverdict : (collect recvStatusResult call'.log).head? = some v := by
    rw [hlog, collect_append, h.unreceived, collect_cons, hv]
    rfl
  have hstop : (chain call'.log).stop = some .endOfStream := by simpa [hlog] using h.stop
  have hfree := (busy_complete h.receive hcall rfl).2
  cases statusCb with
  | none =>
    rw [Option.toList_none, List.map_nil, Call.notes_nil]
    refine ⟨⟨hlawful, ?_, ?_⟩, hfree, v, ?_, by simpa using huntold⟩
    · simpa [hlog] using h.heard
    · simpa [hlog] using h.faultless
    · rw [verdict, hstop]
      exact hverdict
  | some cb =>
    refine ⟨⟨hlawful.snoc huntold, ?_, ?_⟩, by simpa using hfree, v, ?_, by simp [huntold]⟩
    · simpa [hlog] using h.heard
    · simpa [hlog] using h.faultless
    · simpa [verdict, hstop] using hverdict

end reading

namespace Impl

@[simp] theorem check_true (site : Site) (s : Impl) : s.check site true = s := rfl

@[simp] theorem note_call (n : Note) (s : Impl) : (s.note n).call = s.call.note n := rfl
@[simp] theorem note_status (n : Note) (s : Impl) : (s.note n).status = s.status := rfl
@[simp] theorem note_msgCb (n : Note) (s : Impl) : (s.note n).msgCb = s.msgCb := rfl
@[simp] theorem note_statusCb (n : Note) (s : Impl) : (s.note n).statusCb = s.statusCb := rfl
@[simp] theorem note_isStarted (n : Note) (s : Impl) : (s.note n).isStarted = s.isStarted := rfl
@[simp] theorem note_request (n : Note) (s : Impl) : (s.note n).request = s.request := rfl

end Impl

section specs

variable {grpc : Nat → Bool} {s t : Impl} {msgCb statusCb : Callback}

private theorem runOp_started (hstarted : s.isStarted = true) (op : Op) : runOp grpc op s = s := by
  cases op
  simp [runOp, start, hstarted]

theorem runOps_started (hstarted : s.isStarted = true) (ops : List Op) :
    runOps grpc ops s = s := by
  induction ops with
  | nil => simp [runOps]
  | cons op ops ih => rw [runOps, runOp_started hstarted, ih]

private theorem callStatusCb_phase (hstarted : s.isStarted = true)
    (hstatusCb : s.statusCb = statusCb)
    (h : Idle s.call msgCb (some (.error s.status))) (ops : List Op) :
    Phase (callStatusCb (runOps grpc ops) s) msgCb statusCb := by
  subst hstatusCb
  unfold callStatusCb
  split
  · next hnone =>
    rw [hnone]
    exact .done hstarted h.done
  · next cb hcb =>
    rw [hcb, runOps_started (by exact hstarted)]
    exact .done hstarted (h.tell cb)

private theorem readNext_phase (hstarted : s.isStarted = true) (hok : s.status.ok = true)
    (hmsgCb : s.msgCb = msgCb) (hstatusCb : s.statusCb = statusCb) (h : Idle s.call msgCb none)
    (ops : List Op) : Phase (readNext grpc (runOps grpc ops) s) msgCb statusCb := by
  unfold readNext
  rcases Bool.eq_false_or_eq_true (grpc s.call.starts) with hgrpc | hgrpc
  · simp only [hok, Impl.check_true, Impl.startBatch, Call.startBatch_fst, hgrpc]
    exact .reading hstarted hok hmsgCb hstatusCb (h.read hgrpc)
  · simp only [hok, Impl.check_true, Impl.startBatch, Call.startBatch_fst, hgrpc]
    apply callStatusCb_phase
    · exact hstarted
    · exact hstatusCb
    · exact h.read_refused hgrpc

private theorem recvStatus_phase (hstarted : s.isStarted = true)
    (h : Idle s.call msgCb (some .endOfStream)) (ops : List Op) :
    Phase (recvStatus grpc (runOps grpc ops) statusCb s) msgCb statusCb := by
  unfold recvStatus
  rcases Bool.eq_false_or_eq_true (grpc s.call.starts) with hgrpc | hgrpc
  · simp only [Impl.startBatch, Call.startBatch_fst, hgrpc]
    exact .receiving hstarted (h.ask statusCb hgrpc)
  · have hdone := h.ask_refused statusCb hgrpc
    simp only [Impl.startBatch, Call.startBatch_fst, hgrpc]
    cases statusCb with
    | none => exact .done hstarted (by simpa using hdone)
    | some cb =>
      dsimp only
      rw [runOps_started (by exact hstarted)]
      exact .done hstarted hdone

theorem start_phase (hfresh : s.isStarted = false) (hok : s.status.ok = true)
    (hnew : s.call = {}) (ops : List Op) :
    Phase (start grpc (runOps grpc ops) msgCb statusCb s) msgCb statusCb := by
  have hidle : Idle (s.call.note (.start msgCb statusCb)) msgCb none := by
    rw [hnew]
    refine ⟨⟨⟨?_, ?_, rfl⟩, rfl, rfl, rfl⟩, rfl, rfl, rfl⟩
    · exact AtEach.nil.snoc trivial
    · cases msgCb <;> rfl
  unfold start
  simp only [hfresh, Bool.false_eq_true, if_false]
  rw [Impl.note_status, hok, Impl.check_true]
  unfold init
  rw [hok, Impl.check_true]
  rcases Bool.eq_false_or_eq_true (grpc s.call.starts) with hgrpc | hgrpc
  · simp only [Impl.startBatch, Call.startBatch_fst, Impl.note_call, Call.note_starts, hgrpc]
    apply readNext_phase rfl (by exact hok) rfl rfl
    exact hidle.init s.request hgrpc
  · simp only [Impl.startBatch, Call.startBatch_fst, Impl.note_call, Call.note_starts, hgrpc]
    apply callStatusCb_phase rfl rfl
    exact hidle.init_refused s.request hgrpc

private theorem onRead_phase (hstarted : s.isStarted = true) (hok : s.status.ok = true)
    (hmsgCb : s.msgCb = msgCb) (hstatusCb : s.statusCb = statusCb) (h : Reading s.call msgCb)
    {index : Nat} {success : Bool} {received : Received} {call : Call Note}
    (hcall : s.call.complete index success received = some (.clientReaderRead, call))
    (script : Script) :
    Phase (onRead grpc (fun s => (script.msgCbResult, runOps grpc script.msgCb s))
      (runOps grpc script.statusCb) success received { s with call := call }) msgCb statusCb := by
  simp only [onRead, hstarted, hok, Impl.check_true]
  cases success with
  | false =>
    apply callStatusCb_phase
    · rfl
    · exact hstatusCb
    · exact h.stops hcall (by simp [readOutcome])
  | true =>
    simp only [Bool.not_true, Bool.false_eq_true, if_false]
    cases hbuf : received.recvBuf with
    | none =>
      rw [hstatusCb]
      apply recvStatus_phase
      · rfl
      · exact h.stops hcall (by simp [readOutcome, bufferOutcome, hbuf])
    | some recvBuf =>
      cases recvBuf with
      | unreadable =>
        simp only [getResultMsg, byteBufferToString, Status.ok_internalError, Bool.not_false,
          if_true]
        apply callStatusCb_phase
        · rfl
        · exact hstatusCb
        · exact h.stops hcall (by simp [readOutcome, bufferOutcome, hbuf])
      | readable bytes =>
        have hidle := h.brings hcall hbuf
        simp only [getResultMsg, byteBufferToString, Status.ok_OK, Bool.not_true,
          Bool.false_eq_true, if_false, hmsgCb]
        cases msgCb with
        | none =>
          apply readNext_phase
          · rfl
          · rfl
          · rfl
          · exact hstatusCb
          · simpa using hidle
        | some cb =>
          dsimp only
          rw [runOps_started rfl]
          cases hresult : script.msgCbResult.ok with
          | false =>
            rw [if_pos (by rfl)]
            apply callStatusCb_phase
            · rfl
            · exact hstatusCb
            · exact Idle.fails hidle hresult
          | true =>
            rw [if_neg (by simp)]
            apply readNext_phase
            · rfl
            · exact hresult
            · rfl
            · exact hstatusCb
            · exact Idle.returns hidle hresult

private theorem idle_complete {tag : CqTag} (htag : busy tag = false) (history : List (Event Note))
    (success : Bool) (received : Received) :
    chain (history ++ [.complete tag success received]) = chain history ∧
      collect readDone (history ++ [.complete tag success received]) = collect readDone history ∧
      collect recvStatusResult (history ++ [.complete tag success received]) =
        collect recvStatusResult history := by
  cases tag with
  | clientReaderRead => simp [busy] at htag
  | clientReaderAsyncRecvStatus statusCb => simp [busy] at htag
  | _ => simp

theorem Phase.silent (h : Phase s msgCb statusCb) {index : Nat} {success : Bool}
    {received : Received} {tag : CqTag} {call : Call Note}
    (hcall : s.call.complete index success received = some (tag, call))
    (htag : busy tag = false) : Phase { s with call := call } msgCb statusCb := by
  have hlog := Call.complete_log hcall
  have hbusy := busy_silent hcall htag
  obtain ⟨hchain, hdone, hresult⟩ := idle_complete htag s.call.log success received
  rw [← hlog] at hchain hdone hresult
  have hpast (hpast : Past s.call msgCb) : Past call msgCb := by
    refine ⟨?_, ?_, ?_⟩
    · rw [hlog]
      apply hpast.lawful.snoc
      cases tag <;> simp_all [Lawful, busy]
    · rw [hchain]
      simpa [hlog] using hpast.heard
    · simpa [hlog] using hpast.faultless
  cases h with
  | reading hstarted hok hmsgCb hstatusCb h =>
    refine .reading hstarted hok hmsgCb hstatusCb
      ⟨⟨hpast h.toPast, ?_, ?_, ?_⟩, by rw [hchain, h.stop], hbusy.trans h.read, ?_⟩
    · simpa [hlog] using h.untold
    · simpa [hlog] using h.unasked
    · rw [hresult, h.unreceived]
    · rw [hdone, ← h.settled]
      simp [hlog]
  | receiving hstarted h =>
    refine .receiving hstarted
      ⟨hpast h.toPast, by rw [hchain, h.stop], hbusy.trans h.receive, ?_, ?_⟩
    · simpa [hlog] using h.untold
    · rw [hresult, h.unreceived]
  | done hstarted h =>
    obtain ⟨v, hverdict, htold⟩ := h.tells
    refine .done hstarted ⟨hpast h.toPast, hbusy.trans h.free, v, ?_, by simpa [hlog] using htold⟩
    rw [← hverdict, verdict, verdict, hchain, hresult]

/-- Each call and each completion keeps a started reader in one of its phases. -/
theorem step_phase (h : Phase s msgCb statusCb) {label : Label}
    (hstep : step grpc s label = some t) : Phase t msgCb statusCb := by
  have hstarted : s.isStarted = true := by
    cases h <;> assumption
  cases label with
  | op op =>
    obtain rfl : s = t := by simpa [step, runOp_started hstarted] using hstep
    exact h
  | complete index success received script =>
    cases hcall : s.call.complete index success received with
    | none => simp [step, hcall] at hstep
    | some found =>
      obtain ⟨tag, call⟩ := found
      obtain rfl : doComplete grpc script tag success received { s with call := call } = t := by
        simpa [step, hcall] using hstep
      cases hbusy : busy tag with
      | false =>
        have hsilent := h.silent hcall hbusy
        cases tag with
        | clientReaderRead => simp [busy] at hbusy
        | clientReaderAsyncRecvStatus statusCb => simp [busy] at hbusy
        | _ => exact hsilent
      | true =>
        cases h with
        | reading _ hok hmsgCb hstatusCb h =>
          obtain ⟨rfl, -⟩ := busy_complete h.read hcall hbusy
          exact onRead_phase hstarted hok hmsgCb hstatusCb h hcall script
        | receiving _ h =>
          obtain ⟨rfl, -⟩ := busy_complete h.receive hcall hbusy
          have hdone {v : Status} := h.completes hcall (v := v)
          cases statusCb with
          | none =>
            simp only [Option.toList_none, List.map_nil, Call.notes_nil] at hdone
            cases success <;> exact .done hstarted (hdone rfl)
          | some cb =>
            simp only [doComplete, recvStatusDoComplete]
            cases success with
            | false =>
              rw [if_neg (by simp), runOps_started (by exact hstarted)]
              exact .done hstarted (hdone rfl)
            | true =>
              rw [if_pos rfl, runOps_started (by exact hstarted)]
              exact .done hstarted (hdone rfl)
        | done _ h =>
          have hmem : tag ∈ s.call.outstanding.filter busy :=
            List.mem_filter.mpr ⟨(Call.complete_subset hcall).1, hbusy⟩
          simp [h.free] at hmem

end specs

section runs

variable {grpc : Nat → Bool} {request : StdString} {ls : List Label} {s : Impl}
  {msgCb statusCb : Callback}

def Label.start? : Label → Option (Callback × Callback)
  | .op (.start msgCb statusCb _) => some (msgCb, statusCb)
  | .complete _ _ _ _ => none

/-- The first `Start` of a run is the one that counts. -/
theorem run_phase (hrun : (machine grpc).run (clientAsyncReaderImpl request) ls = some s)
    (hfirst : ls.findSome? Label.start? = some (msgCb, statusCb)) : Phase s msgCb statusCb := by
  cases ls with
  | nil => simp at hfirst
  | cons label rest =>
    obtain ⟨u, hu, hrest⟩ := (machine grpc).run_cons.mp hrun
    cases label with
    | complete => simp [machine, step, clientAsyncReaderImpl, Call.complete] at hu
    | op op =>
      obtain ⟨msgCb', statusCb', ops⟩ := op
      obtain ⟨rfl, rfl⟩ : msgCb' = msgCb ∧ statusCb' = statusCb := by
        simpa [List.findSome?_cons, Label.start?] using hfirst
      have hphase : Phase u msgCb' statusCb' := by
        obtain rfl : runOp grpc (.start msgCb' statusCb' ops) (clientAsyncReaderImpl request) =
          u := by simpa [machine, step] using hu
        rw [runOp]
        exact start_phase rfl rfl rfl ops
      exact (machine grpc).invariant (I := fun s => Phase s msgCb' statusCb')
        (fun _ _ _ h hstep => step_phase h hstep) hphase hrest

theorem run_unstarted (hrun : (machine grpc).run (clientAsyncReaderImpl request) ls = some s)
    (hfirst : ls.findSome? Label.start? = none) : s = clientAsyncReaderImpl request := by
  cases ls with
  | nil => simpa using hrun.symm
  | cons label rest =>
    obtain ⟨u, hu, -⟩ := (machine grpc).run_cons.mp hrun
    cases label with
    | complete => simp [machine, step, clientAsyncReaderImpl, Call.complete] at hu
    | op op =>
      obtain ⟨msgCb, statusCb, ops⟩ := op
      simp [Label.start?] at hfirst

/-- The callback contract of a reader whose first `Start` had these callbacks. -/
structure Contract (callbacks : Option (Callback × Callback)) (call : Call Note) : Prop where
  one_read : call.outstanding.count .clientReaderRead ≤ 1
  lawful : AtEach Lawful call.log
  messages : collect heard call.log = heardBy (callbacks.bind Prod.fst) (chain call.log).items
  told_once : (collect told call.log).length ≤ 1
  told_first : ∀ t ∈ collect told call.log, callbacks.bind Prod.snd = some t.1
  tells : ∀ msgCb statusCb, callbacks = some (msgCb, statusCb) →
    call.outstanding.filter busy = [] →
    ∃ v, verdict call.log = some v ∧ collect told call.log = statusCb.toList.map (·, v)

private theorem count_read_eq {outstanding waited : List CqTag}
    (h : outstanding.filter busy = waited) :
    outstanding.count .clientReaderRead = waited.count .clientReaderRead := by
  rw [← h, List.count_filter rfl]

theorem Phase.contract (h : Phase s msgCb statusCb) :
    Contract (some (msgCb, statusCb)) s.call := by
  cases h with
  | reading _ _ _ _ h =>
    refine ⟨by simp [count_read_eq h.read], h.lawful, h.heard, by simp [h.untold],
      by simp [h.untold], ?_⟩
    simp [h.read]
  | receiving _ h =>
    refine ⟨by simp [count_read_eq h.receive], h.lawful, h.heard, by simp [h.untold],
      by simp [h.untold], ?_⟩
    simp [h.receive]
  | done _ h =>
    obtain ⟨v, hverdict, htold⟩ := h.tells
    refine ⟨by simp [count_read_eq h.free], h.lawful, h.heard, ?_, ?_, ?_⟩
    · cases statusCb <;> simp [htold]
    · intro t ht
      rw [htold] at ht
      cases statusCb <;> simp_all
    · intro msgCb' statusCb' hcallbacks _
      cases hcallbacks
      exact ⟨v, hverdict, htold⟩

theorem Phase.faultless (h : Phase s msgCb statusCb) : collect fault s.call.log = [] := by
  cases h with
  | reading _ _ _ _ h => exact h.toPast.faultless
  | receiving _ h => exact h.toPast.faultless
  | done _ h => exact h.toPast.faultless

theorem asserts_hold (hrun : (machine grpc).run (clientAsyncReaderImpl request) ls = some s) :
    collect fault s.call.log = [] := by
  cases hfirst : ls.findSome? Label.start? with
  | none =>
    rw [run_unstarted hrun hfirst]
    rfl
  | some callbacks => exact (run_phase hrun hfirst).faultless

/-- The callback contract holds in every state of every run. -/
theorem callback_contract
    (hrun : (machine grpc).run (clientAsyncReaderImpl request) ls = some s) :
    Contract (ls.findSome? Label.start?) s.call := by
  cases hfirst : ls.findSome? Label.start? with
  | some callbacks => exact (run_phase hrun hfirst).contract
  | none =>
    rw [run_unstarted hrun hfirst]
    exact ⟨by simp [clientAsyncReaderImpl], AtEach.nil, rfl, by simp [clientAsyncReaderImpl],
      by simp [clientAsyncReaderImpl], by simp⟩

end runs

/-- Two messages, the second of which `msg_cb` does not accept. -/
def rejectedLabels : List Label :=
  [.op (.start (some 1) (some 2) []), .op (.start (some 3) none []),
    .complete 1 true { recvBuf := some (.readable [7]) } {},
    .complete 1 true { recvBuf := some (.readable [8]) }
      { msgCbResult := .internalError [], statusCb := [.start none none []] }]

theorem callback_contract_rejected :
    ∃ s, (machine fun _ => true).run (clientAsyncReaderImpl [5]) rejectedLabels = some s ∧
      collect heard s.call.log = [(1, [7]), (1, [8])] ∧
      collect told s.call.log = [(2, .internalError [])] ∧
      Contract (rejectedLabels.findSome? Label.start?) s.call := by
  have hrun : (machine fun _ => true).run (clientAsyncReaderImpl [5]) rejectedLabels = some _ :=
    rfl
  exact ⟨_, hrun, rfl, rfl, callback_contract hrun⟩

end GrpcCbCore.Client.ReaderImpl
