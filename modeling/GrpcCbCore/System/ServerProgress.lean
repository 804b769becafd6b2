import GrpcCbCore.Server.Outcomes
import GrpcCbCore.Server.WriterProgress
import GrpcCbCore.System.ServerStreaming

/-! A server stream that is closed, and on which nothing has failed, comes to its end by
itself: the server's calls return, and the client hears all and is told the status. -/
namespace GrpcCbCore.System.ServerStreaming
open GrpcCbCore.Library GrpcCbCore.Client

@[simp] def sentStatus : Event Server.WriterImpl.Note → Option Status
  | .start tag true => tag.status?
  | _ => none

/-- grpc brings the status of a batch that it has accepted from the server. -/
def BringsStatus (history : List (Event Server.WriterImpl.Note)) (received : Received) : Prop :=
  ∃ tag cod, .start tag true ∈ history ∧ CarriesStatus tag.grpcOps cod ∧
    received.status = cod.getStatus

/-- What has begun goes on at the server. What the client waits for completes with success:
the next message, or behind the last one the end of the stream, and then the status; and
`msg_cb` returns OK. -/
def Good (s : State) : Label → Prop
  | .inl label => Server.WriterImpl.Completes s.1 label
  | .inr (.op _) => False
  | .inr (.complete index success received script) =>
      success = true ∧ script.msgCbResult.ok = true ∧
      match s.2.call.outstanding[index]? with
      | some .clientReaderRead => received.recvBuf ≠ some .unreadable ∧
          Carries (collect Event.sent s.1.impl.call.log)
            (collect sentStatus s.1.impl.call.log ≠ []) (taken s.2).length received
      | some (.clientReaderAsyncRecvStatus _) => BringsStatus s.1.impl.call.log received
      | _ => True

/-- A status as the client receives it. -/
def cut (status : Status) : Status := ⟨status.code, status.details.takeWhile (· ≠ 0)⟩

def next (statusCb : Callback) : CqTag → Received → List CqTag
  | .clientReaderRead, received =>
      if received.recvBuf.isSome then [.clientReaderRead]
      else [.clientReaderAsyncRecvStatus statusCb]
  | _, _ => []

section status

variable {tag : CqTag}

private theorem cut_of_carries {cod : CodClientRecvStatus}
    (hcarried : CarriesStatus tag.grpcOps cod) :
    ∃ status, tag.status? = some status ∧ cod.getStatus = cut status := by
  obtain ⟨op, hop, hgrpc⟩ := List.mem_map.mp hcarried
  cases op with
  | serverSendStatus status =>
    exact ⟨status, Server.status?_of_mem hop, getStatus_serverSendStatus hgrpc.symm⟩
  | _ => simp [CallOp.grpcOp] at hgrpc

private theorem exists_carries {status : Status} (htag : tag.status? = some status) :
    ∃ cod, CarriesStatus tag.grpcOps cod := by
  obtain ⟨op, hop, hstatus⟩ := List.exists_of_findSome?_eq_some htag
  cases op with
  | serverSendStatus status =>
    exact ⟨⟨_, _⟩, List.mem_map.mpr ⟨_, hop, rfl⟩⟩
  | _ => simp at hstatus

end status

/-- What is left to do: the server's batches and calls, the messages the client has not got,
and the batches it waits for. -/
def work (s : State) : Nat :=
  Server.WriterImpl.left s.1 +
    ((collect Server.WriterImpl.accepted s.1.impl.call.log).length -
      (ReaderImpl.chain s.2.call.log).items.length) +
    s.2.call.outstanding.length +
    (if (ReaderImpl.chain s.2.call.log).stop = none then 1 else 0)

/-- The stream is on its way: closed, unbroken, and read by a client that has met no error. -/
structure Flows (server client : Nat → Bool) (msgCb statusCb : Callback) (s : State)
    (p : Pipe StdString Status StreamEnd.endOfStream) : Prop where
  writes : Server.WriterImpl.Underway server s.1 p.lane
  asked : p.lane.closing.isSome = true
  reads : p.chain = ReaderImpl.chain s.2.call.log
  phase : ReaderImpl.Phase s.2 msgCb statusCb
  unbroken : p.chain.stop = none ∨ p.chain.stop = some .endOfStream
  status : ∀ v ∈ collect ReaderImpl.recvStatusResult s.2.call.log,
    ∃ word, p.lane.closing = some word ∧ v = cut word
  grants : ∀ k, s.2.call.starts ≤ k → client k = true

section reader

variable {grpc : Nat → Bool} {s t : ReaderImpl.Impl} {msgCb statusCb : Callback}
  {index : Nat} {received : Received} {call : Call ReaderImpl.Note} {tag : CqTag}

/-- The client has met nothing new on the way from one call to the other, and has started
these batches. -/
structure Starts (batches : List CqTag) (call call' : Call ReaderImpl.Note) : Prop where
  chain : ReaderImpl.chain call'.log = ReaderImpl.chain call.log
  results : collect ReaderImpl.recvStatusResult call'.log =
    collect ReaderImpl.recvStatusResult call.log
  outstanding : call'.outstanding = call.outstanding ++ batches
  starts : call.starts ≤ call'.starts

/-- A read that goes well: it brings a message, which `msg_cb` accepts, and the next read is
started; or it is the end, and the status is asked for. -/
theorem read_starts (h : ReaderImpl.Phase s msgCb statusCb)
    (hcall : s.call.complete index true received = some (.clientReaderRead, call))
    (hgrpc : grpc call.starts = true) (hreadable : received.recvBuf ≠ some .unreadable)
    {script : ReaderImpl.Script} (hresult : script.msgCbResult.ok = true) :
    Starts (next statusCb .clientReaderRead received) call
      (ReaderImpl.doComplete grpc script .clientReaderRead true received
        { s with call := call }).call := by
  have hmem : .clientReaderRead ∈ s.call.outstanding.filter ReaderImpl.busy :=
    List.mem_filter.mpr ⟨(Call.complete_subset hcall).1, rfl⟩
  cases h with
  | receiving hstarted h => simp [h.receive] at hmem
  | done hstarted h => simp [h.free] at hmem
  | reading hstarted hok hmsgCb hstatusCb h =>
    simp only [ReaderImpl.doComplete, ReaderImpl.onRead, hstarted, hok,
      ReaderImpl.Impl.check_true, Bool.not_true, Bool.false_eq_true, if_false]
    rcases hbuf : received.recvBuf with _ | bytes | _
    · simp only [ReaderImpl.recvStatus, ReaderImpl.Impl.startBatch, Call.startBatch_fst, hgrpc,
        hstatusCb]
      constructor <;> simp [hgrpc, next, hbuf]
    · simp only [getResultMsg, byteBufferToString, Status.ok_OK, Bool.not_true,
        Bool.false_eq_true, if_false, hmsgCb]
      cases msgCb with
      | none =>
        simp only [ReaderImpl.readNext, Status.ok_OK, ReaderImpl.Impl.check_true,
          ReaderImpl.Impl.startBatch, Call.startBatch_fst, hgrpc]
        constructor <;> simp [hgrpc, next, hbuf]
      | some cb =>
        dsimp only
        rw [ReaderImpl.runOps_started rfl, if_neg (by simp [hresult])]
        simp only [ReaderImpl.readNext, hresult, ReaderImpl.Impl.check_true,
          ReaderImpl.Impl.startBatch, Call.startBatch_fst, ReaderImpl.Impl.note_call,
          Call.note_starts, hgrpc]
        constructor <;> simp [hgrpc, hresult, next, hbuf]
    · exact absurd hbuf hreadable

private theorem status_starts (h : ReaderImpl.Phase s msgCb statusCb) (other : Callback)
    (success : Bool) (script : ReaderImpl.Script) :
    Starts [] call (ReaderImpl.doComplete grpc script (.clientReaderAsyncRecvStatus other)
      success received { s with call := call }).call := by
  have hstarted : s.isStarted = true := by cases h <;> assumption
  simp only [ReaderImpl.doComplete, ReaderImpl.recvStatusDoComplete]
  cases other with
  | none => constructor <;> simp
  | some cb =>
    dsimp only
    split
    · rw [ReaderImpl.runOps_started (by exact hstarted)]
      constructor <;> simp
    · rw [ReaderImpl.runOps_started (by exact hstarted)]
      constructor <;> simp

private theorem doComplete_starts (h : ReaderImpl.Phase s msgCb statusCb)
    (hcall : s.call.complete index true received = some (tag, call))
    (hgrpc : grpc call.starts = true)
    (hreadable : tag = .clientReaderRead → received.recvBuf ≠ some .unreadable)
    {script : ReaderImpl.Script} (hresult : script.msgCbResult.ok = true) :
    Starts (next statusCb tag received) call
      (ReaderImpl.doComplete grpc script tag true received { s with call := call }).call := by
  cases tag with
  | clientReaderRead => exact read_starts h hcall hgrpc (hreadable rfl) hresult
  | clientReaderAsyncRecvStatus other => exact status_starts h other true script
  | _ => constructor <;> simp [next, ReaderImpl.doComplete]

/-- What a completion that goes well does to the client's call. -/
structure Completes (statusCb : Callback) (tag : CqTag) (received : Received)
    (call call' : Call ReaderImpl.Note) : Prop where
  chain : ReaderImpl.chain call'.log = (ReaderImpl.chain call.log).more
    (ReaderImpl.sights (.complete tag true received))
  results : collect ReaderImpl.recvStatusResult call'.log =
    collect ReaderImpl.recvStatusResult call.log ++
      (ReaderImpl.recvStatusResult (.complete tag true received)).toList
  outstanding : call'.outstanding.length + 1 =
    call.outstanding.length + (next statusCb tag received).length
  starts : call.starts ≤ call'.starts

private theorem step_completes (h : ReaderImpl.Phase s msgCb statusCb)
    (hgrpc : grpc s.call.starts = true) (htag : s.call.outstanding[index]? = some tag)
    (hreadable : tag = .clientReaderRead → received.recvBuf ≠ some .unreadable)
    {script : ReaderImpl.Script} (hresult : script.msgCbResult.ok = true)
    (hstep : ReaderImpl.step grpc s (.complete index true received script) = some t) :
    Completes statusCb tag received s.call t.call := by
  cases hcall : s.call.complete index true received with
  | none => simp [ReaderImpl.step, hcall] at hstep
  | some found =>
    obtain ⟨tag', call⟩ := found
    obtain ⟨htag', hstarts⟩ := Call.complete_found hcall
    obtain rfl : tag = tag' := by simpa [htag] using htag'
    obtain rfl : ReaderImpl.doComplete grpc script tag true received { s with call := call } =
      t := by simpa [ReaderImpl.step, hcall] using hstep
    have hlog := Call.complete_log hcall
    have hlength := Call.complete_length hcall
    have hnow : grpc call.starts = true := by rw [hstarts, hgrpc]
    have hafter := doComplete_starts h hcall hnow hreadable hresult
    constructor
    · rw [hafter.chain, hlog, ReaderImpl.chain_append, List.flatMap_singleton]
    · rw [hafter.results, hlog, collect_append, collect_cons, collect_nil, List.append_nil]
    · rw [hafter.outstanding, List.length_append, hlength]
      omega
    · rw [← hstarts]
      exact hafter.starts

private theorem reading_of_read (h : ReaderImpl.Phase s msgCb statusCb)
    (hmem : .clientReaderRead ∈ s.call.outstanding) : ReaderImpl.Reading s.call msgCb := by
  have hbusy : .clientReaderRead ∈ s.call.outstanding.filter ReaderImpl.busy :=
    List.mem_filter.mpr ⟨hmem, rfl⟩
  cases h with
  | reading _ _ _ _ h => exact h
  | receiving _ h => simp [h.receive] at hbusy
  | done _ h => simp [h.free] at hbusy

end reader

section sent

variable {grpc : Nat → Bool} {w : Server.WriterImpl.World} {l : Lane StdString Status}

private theorem closing_of_sent (h : Server.WriterImpl.Underway grpc w l) {status : Status}
    (hsent : status ∈ collect sentStatus w.impl.call.log) :
    l.closing = some status ∧ l.closeSent = true := by
  obtain ⟨e, hmem, he⟩ := List.mem_filterMap.mp hsent
  have hattempt : Event.statusAttempt e = some status := by
    rcases e with ⟨tag, _ | _⟩ | _ | _ <;> simp_all
  have hfound : status ∈ collect Event.statusAttempt w.impl.call.log :=
    List.mem_filterMap.mpr ⟨e, hmem, hattempt⟩
  rw [h.refines.statusAttempt] at hfound
  cases hclosed : l.closeSent with
  | false => simp [hclosed] at hfound
  | true => simpa [hclosed] using hfound

theorem carries_lane (h : Server.WriterImpl.Underway grpc w l) {taken : Nat}
    {received : Received} (hcarries : Carries (collect Event.sent w.impl.call.log)
      (collect sentStatus w.impl.call.log ≠ []) taken received) :
    Carries l.started (l.closeSent = true) taken received := by
  rw [h.refines.sent] at hcarries
  refine hcarries.imp fun hsent => ?_
  obtain ⟨status, hmem⟩ := List.exists_mem_of_ne_nil _ hsent
  exact (closing_of_sent h hmem).2

theorem sent_of_rested (h : Server.WriterImpl.Underway grpc w l)
    (hasked : l.closing.isSome = true) (hrested : Server.WriterImpl.Rested w) :
    ∃ word, (collect Server.WriterImpl.closeCall w.impl.call.log).head? = some word ∧
      l.closing = some word ∧ l.closeSent = true ∧
      word ∈ collect sentStatus w.impl.call.log := by
  obtain ⟨word, hword⟩ := Option.isSome_iff_exists.mp hasked
  have hfirst := h.refines.firstClose h.live
  rw [hword] at hfirst
  have hattempt := hrested.closed
  rw [hfirst, Option.toList_some] at hattempt
  have hsent : word ∈ collect sentStatus w.impl.call.log := by
    have hfound : word ∈ collect Event.statusAttempt w.impl.call.log := by simp [hattempt]
    obtain ⟨e, hmem, he⟩ := List.mem_filterMap.mp hfound
    have hclean := List.filterMap_eq_nil_iff.mp h.clean e hmem
    refine List.mem_filterMap.mpr ⟨e, hmem, ?_⟩
    rcases e with ⟨tag, _ | _⟩ | _ | _ <;> simp_all
  exact ⟨word, hfirst, hword, (closing_of_sent h hsent).2, hsent⟩

end sent

section progress

variable {server client : Nat → Bool} {msgCb statusCb : Callback} {s t : State}
  {p : Pipe StdString Status StreamEnd.endOfStream}

theorem Flows.cut_of_brings (h : Flows server client msgCb statusCb s p) {received : Received}
    (hbrings : BringsStatus s.1.impl.call.log received) :
    ∃ word, p.lane.closing = some word ∧ received.status = cut word := by
  obtain ⟨tag, cod, hstart, hcarried, hreceived⟩ := hbrings
  obtain ⟨status, htag, hcut⟩ := cut_of_carries hcarried
  have hsent : status ∈ collect sentStatus s.1.impl.call.log :=
    List.mem_filterMap.mpr ⟨_, hstart, htag⟩
  exact ⟨status, (closing_of_sent h.writes hsent).1, hreceived.trans hcut⟩

theorem Flows.items_taken (h : Flows server client msgCb statusCb s p) :
    p.chain.items = taken s.2 := by
  rw [h.reads, ServerStreaming.items_taken h.phase.contract.lawful]
  rfl

theorem Flows.server_step (h : Flows server client msgCb statusCb s p)
    {label : Server.WriterImpl.Label} (hgood : Good s (.inl label))
    (hstep : (machine server client).step s (.inl label) = some t) :
    (∃ q, Flows server client msgCb statusCb t q) ∧ work t < work s := by
  obtain ⟨hstep, hsame⟩ := Machine.beside_inl hstep
  obtain ⟨l, hsteps, hwrites, hleft⟩ := h.writes.goes_on hgood hstep
  obtain ⟨hasked, haccepted⟩ := hsteps.asked h.asked
  constructor
  · refine ⟨p.sends hsteps, hwrites, ?_, ?_, ?_, h.unbroken, ?_, ?_⟩
    · rw [Pipe.sends_lane, hasked]
      exact h.asked
    · rw [hsame, ← h.reads, Pipe.sends_chain]
    · rw [hsame]
      exact h.phase
    · rw [hsame, Pipe.sends_lane, hasked]
      exact h.status
    · rw [hsame]
      exact h.grants
  · simp only [work, hsame]
    rw [hwrites.refines.accepted, haccepted, h.writes.refines.accepted]
    omega

theorem Flows.permits (h : Flows server client msgCb statusCb s p) {received : Received}
    (hcarries : Carries (collect Event.sent s.1.impl.call.log)
      (collect sentStatus s.1.impl.call.log ≠ []) (taken s.2).length received) (error : StdString) :
    p.Permits (readOutcome error true received) := by
  have hlane := carries_lane h.writes hcarries
  rw [← h.items_taken] at hlane
  rcases hbuf : received.recvBuf with _ | bytes | _ <;>
    simp only [Carries, hbuf] at hlane <;>
    simp only [readOutcome, bufferOutcome, hbuf, if_true, Pipe.Permits]
  · exact fun _ => ⟨hlane.1, p.carried.eq_of_length hlane.2⟩
  · exact hlane
  · simp

theorem Flows.read_step (h : Flows server client msgCb statusCb s p) {received : Received}
    (hsame : t.1 = s.1) (hphase : ReaderImpl.Phase t.2 msgCb statusCb)
    (hmem : .clientReaderRead ∈ s.2.call.outstanding)
    (hreadable : received.recvBuf ≠ some .unreadable)
    (hcarries : Carries (collect Event.sent s.1.impl.call.log)
      (collect sentStatus s.1.impl.call.log ≠ []) (taken s.2).length received)
    (hdone : Completes statusCb .clientReaderRead received s.2.call t.2.call) :
    (∃ q, Flows server client msgCb statusCb t q) ∧ work t < work s := by
  have hopen := (reading_of_read h.phase hmem).stop
  have hopen' : p.chain.stop = none := by rw [h.reads, hopen]
  have hpermits := h.permits hcarries (lit "ClientReaderReadCqTag failed.")
  have hchain := hdone.chain
  rw [ReaderImpl.sights, Chain.more_cons, Chain.more_nil] at hchain
  have hpending := p.next_pending (fun _ => hpermits) hopen'
  have hlength := hdone.outstanding
  have hnext : (next statusCb .clientReaderRead received).length = 1 := by
    simp only [next]
    split <;> rfl
  constructor
  · refine ⟨p.next _ fun _ => hpermits, ?_, h.asked, ?_, hphase, ?_, ?_, ?_⟩
    · rw [hsame]
      exact h.writes
    · rw [Pipe.next_chain, hchain, h.reads]
    · rcases hbuf : received.recvBuf with _ | bytes | _
      · right
        simp [readOutcome, bufferOutcome, hbuf, Chain.next_stop hopen']
      · left
        simp [readOutcome, bufferOutcome, hbuf, Chain.next_item hopen', hopen']
      · exact absurd hbuf hreadable
    · rw [hdone.results]
      simpa using h.status
    · exact fun k hk => h.grants k (Nat.le_trans hdone.starts hk)
  · simp only [Pipe.pending, Pipe.next_chain, Pipe.next_lane, h.reads, ← hchain] at hpending
    simp only [work, hsame, h.writes.refines.accepted]
    omega

theorem Flows.other_step (h : Flows server client msgCb statusCb s p) {received : Received}
    (hsame : t.1 = s.1) (hphase : ReaderImpl.Phase t.2 msgCb statusCb) {tag : CqTag}
    (htag : tag ≠ .clientReaderRead)
    (hstatus : ∀ v, ReaderImpl.recvStatusResult (.complete tag true received) = some v →
      ∃ word, p.lane.closing = some word ∧ v = cut word)
    (hdone : Completes statusCb tag received s.2.call t.2.call) :
    (∃ q, Flows server client msgCb statusCb t q) ∧ work t < work s := by
  have hsights : ReaderImpl.sights (.complete tag true received) = [] := by
    cases tag <;> simp at htag ⊢
  have hnext : next statusCb tag received = [] := by
    cases tag <;> simp [next] at htag ⊢
  have hchain := hdone.chain
  rw [hsights, Chain.more_nil] at hchain
  have hlength := hdone.outstanding
  rw [hnext, List.length_nil] at hlength
  constructor
  · refine ⟨p, ?_, h.asked, h.reads.trans hchain.symm, hphase, h.unbroken, ?_, ?_⟩
    · rw [hsame]
      exact h.writes
    · intro v hv
      rw [hdone.results, List.mem_append, Option.mem_toList] at hv
      exact hv.elim (h.status v) (hstatus v)
    · exact fun k hk => h.grants k (Nat.le_trans hdone.starts hk)
  · simp only [work, hsame, hchain]
    omega

theorem Flows.client_step (h : Flows server client msgCb statusCb s p) {index : Nat}
    {success : Bool} {received : Received} {script : ReaderImpl.Script}
    (hgood : Good s (.inr (.complete index success received script)))
    (hstep : (machine server client).step s (.inr (.complete index success received script)) =
      some t) :
    (∃ q, Flows server client msgCb statusCb t q) ∧ work t < work s := by
  obtain ⟨rfl, hresult, hgood⟩ := hgood
  obtain ⟨hstep, hsame⟩ := Machine.beside_inr hstep
  have hread : ReaderImpl.step client s.2 (.complete index true received script) = some t.2 :=
    hstep
  have hphase := ReaderImpl.step_phase h.phase hread
  have hgrant := h.grants _ (Nat.le_refl _)
  cases htag : s.2.call.outstanding[index]? with
  | none => simp [ReaderImpl.step, Call.complete, htag] at hread
  | some tag =>
    rw [htag] at hgood
    have hdone (hreadable : tag = .clientReaderRead → received.recvBuf ≠ some .unreadable) :=
      step_completes h.phase hgrant htag hreadable hresult hread
    cases tag with
    | clientReaderRead =>
      exact h.read_step hsame hphase (List.mem_of_getElem? htag) hgood.1 hgood.2
        (hdone fun _ => hgood.1)
    | clientReaderAsyncRecvStatus other =>
      apply h.other_step hsame hphase (by simp) _ (hdone (by simp))
      rintro v ⟨⟩
      exact h.cut_of_brings hgood
    | _ => exact h.other_step hsame hphase (by simp) (by simp) (hdone (by simp))

private theorem step_flows (h : Flows server client msgCb statusCb s p) {label : Label}
    (hgood : Good s label) (hstep : (machine server client).step s label = some t) :
    (∃ q, Flows server client msgCb statusCb t q) ∧ work t < work s := by
  rcases label with label | op | ⟨index, success, received, script⟩
  · exact h.server_step hgood hstep
  · exact hgood.elim
  · exact h.client_step hgood hstep

/-- Both sides have come to rest: the client has heard all that was accepted, and was told
the status of the first `Close`, as it is received. -/
structure Done (msgCb statusCb : Callback) (s : State) : Prop where
  server : Server.WriterImpl.Rested s.1
  client : s.2.call.outstanding = []
  heard : collect ReaderImpl.heard s.2.call.log =
    ReaderImpl.heardBy msgCb (collect Server.WriterImpl.accepted s.1.impl.call.log)
  told : ∃ word, (collect Server.WriterImpl.closeCall s.1.impl.call.log).head? = some word ∧
    collect ReaderImpl.told s.2.call.log = statusCb.toList.map (·, cut word)

theorem Flows.answers (h : Flows server client msgCb statusCb s p) {word : Status}
    (hsent : word ∈ collect sentStatus s.1.impl.call.log) {tag : CqTag}
    (htag : s.2.call.outstanding[0]? = some tag) :
    ∃ received, Good s (.inr (.complete 0 true received {})) := by
  have hsome : collect sentStatus s.1.impl.call.log ≠ [] := List.ne_nil_of_mem hsent
  cases tag with
  | clientReaderRead =>
    have htaken : (taken s.2).length ≤ (collect Event.sent s.1.impl.call.log).length := by
      rw [← h.items_taken, h.writes.refines.sent]
      exact p.carried.length_le
    obtain ⟨recvBuf, hreadable, hcarried⟩ := exists_carried hsome htaken
    refine ⟨{ recvBuf := recvBuf }, rfl, rfl, ?_⟩
    rw [htag]
    exact ⟨hreadable, hcarried .OK⟩
  | clientReaderAsyncRecvStatus other =>
    obtain ⟨e, hmem, he⟩ := List.mem_filterMap.mp hsent
    rcases e with ⟨tag, _ | _⟩ | _ | _
    case start.true =>
      obtain ⟨cod, hcarried⟩ := exists_carries he
      refine ⟨{ status := cod.getStatus }, rfl, rfl, ?_⟩
      rw [htag]
      exact ⟨tag, cod, hmem, hcarried, rfl⟩
    all_goals simp at he
  | _ =>
    refine ⟨{}, rfl, rfl, ?_⟩
    rw [htag]
    trivial

theorem Flows.done (h : Flows server client msgCb statusCb s p)
    (hstuck : (machine server client).Stuck Good s) : Done msgCb statusCb s := by
  have hrested : Server.WriterImpl.Rested s.1 := by
    apply h.writes.rested
    intro label t hgood hstep
    apply hstuck (.inl label) (t, s.2) hgood
    simp [machine, Machine.beside, hstep]
  obtain ⟨word, hfirst, hclosing, hclosed, hsent⟩ := sent_of_rested h.writes h.asked hrested
  have hnone : s.2.call.outstanding = [] := by
    cases hout : s.2.call.outstanding with
    | nil => rfl
    | cons tag rest =>
      obtain ⟨received, hgood⟩ := h.answers hsent (by rw [hout]; rfl)
      obtain ⟨t, ht⟩ : ∃ t, ReaderImpl.step client s.2 (.complete 0 true received {}) =
          some t := by simp [ReaderImpl.step, Call.complete, hout]
      refine absurd ?_ (hstuck _ (s.1, t) hgood)
      simp [machine, Machine.beside, ReaderImpl.machine, ht]
  cases h.phase with
  | reading _ _ _ _ hreading =>
    have hread := hreading.read
    simp [hnone] at hread
  | receiving _ hreceiving =>
    have hreceive := hreceiving.receive
    simp [hnone] at hreceive
  | done _ hdone =>
    obtain ⟨v, hverdict, htold⟩ := hdone.tells
    have hstop : p.chain.stop = some .endOfStream := by
      refine h.unbroken.resolve_left fun hopen => ?_
      rw [h.reads] at hopen
      simp [ReaderImpl.verdict, hopen] at hverdict
    constructor
    · exact hrested
    · exact hnone
    · rw [hdone.heard, ← h.reads, p.items_of_ended hstop, h.writes.refines.accepted]
    · refine ⟨word, hfirst, ?_⟩
      have hstop' : (ReaderImpl.chain s.2.call.log).stop = some .endOfStream := by
        rw [← h.reads, hstop]
      rw [ReaderImpl.verdict, hstop'] at hverdict
      obtain ⟨word', hclosing', hcut⟩ := h.status v (List.mem_of_mem_head? hverdict)
      obtain rfl : word' = word := by simpa [hclosing] using hclosing'.symm
      rw [htold, hcut]

end progress

section runs

variable {server client : Nat → Bool} {n : Nat} {request : StdString} {ls : List Label}
  {s : State} {msgCb statusCb : Callback}

/-- A run to a state in which the client still reads is one of a stream that flows. -/
theorem run_flows
    (hrun : (machine server client).run (initial n request) ls = some s)
    (hcarried : (machine server client).Along Carried (initial n request) ls)
    (hcallbacks : (ls.filterMap Sum.getRight?).findSome? ReaderImpl.Label.start? =
      some (msgCb, statusCb))
    (hreads : .clientReaderRead ∈ s.2.call.outstanding)
    (hclosed : collect Server.WriterImpl.closeCall s.1.impl.call.log ≠ [])
    (hclean : collect Event.refused s.1.impl.call.log = [])
    (hserver : Server.WriterImpl.Grants server s.1.impl)
    (hclient : ∀ k, s.2.call.starts ≤ k → client k = true) :
    ∃ p, Flows server client msgCb statusCb s p := by
  obtain ⟨p, h⟩ := run_joins hrun hcarried
  obtain ⟨hwriter, hreader⟩ := Machine.beside_run hrun
  have hphase : ReaderImpl.Phase s.2 msgCb statusCb := ReaderImpl.run_phase hreader hcallbacks
  have hreading := reading_of_read hphase hreads
  have hitems : (ReaderImpl.chain s.2.call.log).items = p.chain.items := by
    rw [ServerStreaming.items_taken hphase.contract.lawful, h.reads]
    rfl
  have hwrites : Server.WriterImpl.Underway server s.1 p.lane :=
    ⟨h.writes, Server.WriterImpl.run_ages hwriter, hclean, hserver⟩
  have hasked : p.lane.closing.isSome = true := by
    have hfirst := h.writes.firstClose hwrites.live
    cases hcall : collect Server.WriterImpl.closeCall s.1.impl.call.log with
    | nil => exact absurd hcall hclosed
    | cons word _ =>
      rw [hcall] at hfirst
      simp [← hfirst]
  refine ⟨{
      lane := p.lane
      chain := ReaderImpl.chain s.2.call.log
      carried := by
        rw [hitems]
        exact p.carried
      whole := by simp [hreading.stop] }, hwrites, hasked, rfl, hphase, .inl hreading.stop, ?_,
    hclient⟩
  simp [hreading.unreceived]

end runs

/-- From every state that a server stream can be in once it is closed, if nothing was refused
and the client is still reading: whatever the order in which the threads go on and grpc
completes what it carries, after a bounded number of steps both sides have come to rest, the
client has heard every message that was accepted, in order, and its status callback was told
the status of the first `Close`, up to the first zero in its details. -/
theorem comes_to_end {server client : Nat → Bool} {n : Nat} {request : StdString}
    {ls : List Label} {s : State} {msgCb statusCb : Callback}
    (hrun : (machine server client).run (initial n request) ls = some s)
    (hcarried : (machine server client).Along Carried (initial n request) ls)
    (hcallbacks : (ls.filterMap Sum.getRight?).findSome? ReaderImpl.Label.start? =
      some (msgCb, statusCb))
    (hreads : .clientReaderRead ∈ s.2.call.outstanding)
    (hclosed : collect Server.WriterImpl.closeCall s.1.impl.call.log ≠ [])
    (hclean : collect Event.refused s.1.impl.call.log = [])
    (hserver : Server.WriterImpl.Grants server s.1.impl)
    (hclient : ∀ k, s.2.call.starts ≤ k → client k = true) :
    (machine server client).Finishes Good (Done msgCb statusCb) (work s) s := by
  have hflows : ∃ p, Flows server client msgCb statusCb s p :=
    run_flows hrun hcarried hcallbacks hreads hclosed hclean hserver hclient
  apply Machine.finishes (I := fun s => ∃ p, Flows server client msgCb statusCb s p)
  · rintro s label t ⟨p, h⟩ hgood hstep
    exact (step_flows h hgood hstep).1
  · rintro s label t ⟨p, h⟩ hgood hstep
    exact (step_flows h hgood hstep).2
  · rintro s ⟨p, h⟩ hstuck
    exact h.done hstuck
  · exact hflows

/-- Two messages and a close, by two threads, before the client's first read has completed. -/
def closedEarly : List Label :=
  [.inr (.op (.start (some 7) (some 8) [])), .inl (.call 0 (.asyncWrite [1])), .inl (.run 0),
    .inl (.call 0 (.syncWrite [2])), .inl (.run 0),
    .inl (.call 1 (.asyncClose (.internalError [0, 1]))), .inl (.run 1)]

theorem comes_to_end_closedEarly :
    ∃ s, (machine (fun _ => true) fun _ => true).run (initial 2 [5]) closedEarly = some s ∧
      (machine (fun _ => true) fun _ => true).Finishes Good (Done (some 7) (some 8)) 10 s := by
  have hrun : (machine (fun _ => true) fun _ => true).run (initial 2 [5]) closedEarly =
      some _ := rfl
  have hcarried : (machine (fun _ => true) fun _ => true).Along Carried (initial 2 [5])
      closedEarly := by
    rw [closedEarly]
    iterate 7 rw [Machine.along_cons rfl]
    exact ⟨trivial, trivial, trivial, trivial, trivial, trivial, trivial, Machine.along_nil _ _⟩
  exact ⟨_, hrun, comes_to_end hrun hcarried rfl (by decide) (by decide) (by decide)
    (fun _ _ => rfl) fun _ _ => rfl⟩

end GrpcCbCore.System.ServerStreaming
