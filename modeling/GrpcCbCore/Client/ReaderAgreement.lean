import GrpcCbCore.Client.ReaderContract
import GrpcCbCore.Client.SyncReader
import Mathlib.Data.Prod.Basic

/-! The two readers of a server stream. They read the same messages and report the
same status, but for a read that completes without success: the asynchronous
reader ends with an error of its own, the synchronous one looks at the buffer. -/
namespace GrpcCbCore.Client.ReaderImpl
open GrpcCbCore.Library SyncReader

/-- The events of a run in which every start is accepted, `msg_cb` returns OK and
the status received is the server's. -/
def smooth (final : Status) : Event Note → Bool
  | .start _ ok => ok
  | .note (.msgCbReturns status) => status.ok
  | .complete (.clientReaderAsyncRecvStatus _) success received =>
      success && received.status = final
  | _ => true

def readChain (reads : List (Bool × Received)) : Chain StdString StreamEnd :=
  .of (reads.map fun r => readOutcome (lit "ClientReaderReadCqTag failed.") r.1 r.2)

/-- The first unsuccessful read before the end of the stream, if there is one,
brings no message, and the server's status is what is made of it. -/
def Agrees (reads : List (Bool × Received)) (final : Status) : Prop :=
  ∀ before received after, reads = before ++ (false, received) :: after →
    (∀ r ∈ before, r.1 = true ∧ ∃ bytes, r.2.recvBuf = some (.readable bytes)) →
    received.recvBuf = none ∧ final = .internalError (lit "ClientReaderReadCqTag failed.")

private theorem chain_of_smooth {final : Status} {history : List (Event Note)}
    (h : ∀ e ∈ history, smooth final e = true) :
    chain history = readChain (collect readDone history) := by
  have hsights (e : Event Note) (he : smooth final e = true) : sights e = (readDone e).toList.map
      fun r => readOutcome (lit "ClientReaderReadCqTag failed.") r.1 r.2 := by
    unfold sights
    split <;> simp_all [smooth]
  have hflat : history.flatMap sights = (collect readDone history).map
      fun r => readOutcome (lit "ClientReaderReadCqTag failed.") r.1 r.2 := by
    induction history with
    | nil => rfl
    | cons e history ih =>
      rw [List.flatMap_cons, collect_cons, List.map_append, hsights e (h e (by simp)),
        ih fun x hx => h x (List.mem_cons_of_mem e hx)]
  rw [chain, Chain.shown, hflat, readChain]

/-- In such a run what is told is how the reads ended, or what the server says. -/
theorem verdict_of_smooth {final v : Status} {history : List (Event Note)}
    (h : ∀ e ∈ history, smooth final e = true) (hverdict : verdict history = some v) :
    ∃ reason, (readChain (collect readDone history)).stop = some reason ∧
      v = endStatus final reason := by
  have hresult : ∀ status ∈ collect recvStatusResult history, status = final := by
    intro status hmem
    obtain ⟨e, he, hstatus⟩ := List.mem_filterMap.mp hmem
    have hsmooth := h e he
    unfold recvStatusResult at hstatus
    split at hstatus <;> simp_all [smooth]
  rw [← chain_of_smooth h]
  unfold verdict at hverdict
  split at hverdict
  · simp at hverdict
  · next status hstop => exact ⟨_, hstop, by simpa [endStatus] using hverdict.symm⟩
  · next hstop => exact ⟨_, hstop, hresult v (List.mem_of_mem_head? hverdict)⟩

section agrees

variable {answer : Bool × Received} {reads : List (Bool × Received)} {final : Status}

private theorem agrees_item {bytes : StdString} {received : Received}
    (hbuf : received.recvBuf = some (.readable bytes)) :
    Agrees ((true, received) :: reads) final ↔ Agrees reads final := by
  constructor
  · intro h before bad after hsplit hbefore
    refine h ((true, received) :: before) bad after (by rw [hsplit]; rfl) ?_
    intro r hr
    rcases List.mem_cons.mp hr with rfl | hr
    · exact ⟨rfl, bytes, hbuf⟩
    · exact hbefore r hr
  · intro h before bad after hsplit hbefore
    cases before with
    | nil => simp at hsplit
    | cons r before =>
      obtain ⟨-, hrest⟩ := List.cons.inj hsplit
      exact h before bad after hrest fun r hr => hbefore r (List.mem_cons_of_mem _ hr)

private theorem agrees_stop {reason : StreamEnd} {received : Received}
    (hread : bufferOutcome received = .stop reason) :
    Agrees ((true, received) :: reads) final := by
  intro before bad after hsplit hbefore
  cases before with
  | nil => simp at hsplit
  | cons r before =>
    obtain ⟨rfl, -⟩ := List.cons.inj hsplit
    obtain ⟨-, bytes, hbuf⟩ := hbefore (true, received) (by simp)
    dsimp only at hbuf
    simp [bufferOutcome, hbuf] at hread

private theorem agrees_failed {received : Received} :
    Agrees ((false, received) :: reads) final ↔
      received.recvBuf = none ∧
        final = .internalError (lit "ClientReaderReadCqTag failed.") := by
  constructor
  · exact fun h => h [] received reads rfl (by simp)
  · intro h before bad after hsplit hbefore
    cases before with
    | nil =>
      obtain ⟨hbad, -⟩ := List.cons.inj hsplit
      cases hbad
      exact h
    | cons r before =>
      obtain ⟨rfl, -⟩ := List.cons.inj hsplit
      have hfalse := (hbefore _ List.mem_cons_self).1
      simp at hfalse

private theorem bufferChain_eq_iff {reason : StreamEnd}
    (hstop : (readChain reads).stop = some reason) :
    ((bufferChain reads).stop.map fun r => ((bufferChain reads).items, endStatus final r)) =
        some ((readChain reads).items, endStatus final reason) ↔ Agrees reads final := by
  induction reads with
  | nil => simp [readChain] at hstop
  | cons answer reads ih =>
    obtain ⟨success, received⟩ := answer
    cases success with
    | true =>
      cases hread : bufferOutcome received with
      | stop reason' =>
        have hagrees : Agrees ((true, received) :: reads) final := agrees_stop hread
        obtain rfl : reason' = reason := by
          simpa [readChain, readOutcome, hread] using hstop
        simp [readChain, bufferChain, readOutcome, hread, hagrees]
      | item bytes =>
        obtain ⟨_ | ⟨bytes'⟩ | _, status⟩ := received
        case some.readable =>
          rw [agrees_item rfl, ← ih (by simpa [readChain, readOutcome, hread] using hstop)]
          simp only [bufferChain, readChain, List.map_cons, hread, readOutcome, if_true,
            Chain.of_item_cons, Option.map_eq_some_iff, Prod.mk.injEq, List.cons.injEq,
            true_and]
        all_goals cases hread
    | false =>
      obtain rfl : reason = .error (.internalError (lit "ClientReaderReadCqTag failed.")) := by
        simpa [readChain, readOutcome] using hstop.symm
      rw [agrees_failed]
      obtain ⟨_ | ⟨bytes⟩ | _, status⟩ := received
      · simp [readChain, bufferChain, readOutcome, bufferOutcome, endStatus]
      · simp [readChain, bufferChain, readOutcome, bufferOutcome]
      · have hne : lit "Failed to read recv byte buffer." ≠
            lit "ClientReaderReadCqTag failed." := by decide
        simp [readChain, bufferChain, readOutcome, bufferOutcome, endStatus,
          Status.internalError, hne]

end agrees

/-- The two readers agree on a stream just when its first unsuccessful read, if
they get to one, brings no message and the server's status happens to be the error
that the asynchronous reader makes of it. -/
theorem readers_agree_iff {grpc syncGrpc : Nat → Bool} {request : StdString} {ls : List Label}
    {s : Impl} {msgCb statusCb : Nat} {cq4p : CQueueForPluck} {final : Status}
    (hrun : (machine grpc).run (clientAsyncReaderImpl request) ls = some s)
    (hfirst : ls.findSome? Label.start? = some (some msgCb, some statusCb))
    (hsmooth : ∀ e ∈ s.call.log, smooth final e = true)
    (hrest : s.call.outstanding.filter busy = [])
    (hreads : collect readDone s.call.log <+: cq4p.reads)
    (hfinal : cq4p.status.2.status = final) (hgrpc : ∀ k, syncGrpc k = true) :
    (∃ responses status, readStream syncGrpc request cq4p = some (responses, status) ∧
      collect heard s.call.log = responses.map (msgCb, ·) ∧
      collect told s.call.log = [(statusCb, status)]) ↔ Agrees cq4p.reads final := by
  have hcontract := callback_contract hrun
  rw [hfirst] at hcontract
  obtain ⟨v, hverdict, htold⟩ := hcontract.tells _ _ rfl hrest
  obtain ⟨reason, hstop, rfl⟩ := verdict_of_smooth hsmooth hverdict
  have hheard : collect heard s.call.log =
      (readChain (collect readDone s.call.log)).items.map (msgCb, ·) := by
    rw [← chain_of_smooth hsmooth]
    exact hcontract.messages
  -- behind the stop of its chain the asynchronous reader has read nothing
  have hall : readChain cq4p.reads = readChain (collect readDone s.call.log) := by
    obtain ⟨more, hmore⟩ := hreads
    rw [readChain, ← hmore, List.map_append, Chain.of_append_stopped]
    · rfl
    · rw [show Chain.of _ = readChain (collect readDone s.call.log) from rfl, hstop]
      simp
  rw [← hall] at hstop hheard
  rw [← bufferChain_eq_iff hstop, readStream_eq hgrpc, hfinal, hheard, htold]
  constructor
  · rintro ⟨responses, status, hstream, hitems, hstatus⟩
    rw [hstream, List.map_injective_iff.mpr (Prod.mk_right_injective msgCb) hitems]
    simpa using hstatus.symm
  · exact fun h => ⟨_, _, h, rfl, by simp⟩

section delivery

variable {s : Impl} {request : StdString} {msgCb statusCb : Nat}

structure Waits (request : StdString) (msgCb statusCb : Nat) (s : Impl) : Prop where
  started : s.isStarted = true
  status : s.status = .OK
  msgCb : s.msgCb = some msgCb
  statusCb : s.statusCb = some statusCb
  outstanding : s.call.outstanding = [.clientReaderInit request, .clientReaderRead]

def deliver (final : Status) : List (Bool × Received) → List Label
  | [] => []
  | answer :: reads => .complete 1 answer.1 answer.2 {} ::
    match readOutcome (lit "ClientReaderReadCqTag failed.") answer.1 answer.2 with
    | .item _ => deliver final reads
    | .stop .endOfStream => [.complete 1 true { status := final } {}]
    | .stop (.error _) => []

/-- What a run has added to the history: the reads of the stream that it took. -/
structure Delivers (final : Status) (s t : Impl) (reads : List (Bool × Received)) : Prop where
  rest : t.call.outstanding.filter busy = []
  smooth : ∀ e ∈ t.call.log, e ∈ s.call.log ∨ smooth final e = true
  reads : ∃ done, collect readDone t.call.log = collect readDone s.call.log ++ done ∧
    done <+: reads

private theorem step_item (h : Waits request msgCb statusCb s) (bytes : StdString)
    (status : Status) :
    ∃ u, step (fun _ => true) s (.complete 1 true ⟨some (.readable bytes), status⟩ {}) = some u ∧
      Waits request msgCb statusCb u ∧ u.call.log = (((s.call.log ++
        [.complete .clientReaderRead true ⟨some (.readable bytes), status⟩]) ++
        [.note (.msgCb msgCb bytes)]) ++ [.note (.msgCbReturns .OK)]) ++
        [.start .clientReaderRead true] := by
  obtain ⟨⟨starts, outstanding, log⟩, request', ok, m, c, started⟩ := s
  obtain ⟨rfl, rfl, rfl, rfl, rfl⟩ := h
  exact ⟨_, rfl, ⟨rfl, rfl, rfl, rfl, rfl⟩, rfl⟩

private theorem step_error (h : Waits request msgCb statusCb s) {success : Bool}
    {received : Received}
    {error : Status} (hread : readOutcome (lit "ClientReaderReadCqTag failed.") success received =
      .stop (.error error)) :
    ∃ u, step (fun _ => true) s (.complete 1 success received {}) = some u ∧
      u.call.outstanding = [.clientReaderInit request] ∧ u.call.log = (s.call.log ++
        [.complete .clientReaderRead success received]) ++ [.note (.statusCb statusCb error)] := by
  obtain ⟨⟨starts, outstanding, log⟩, request', ok, m, c, started⟩ := s
  obtain ⟨rfl, rfl, rfl, rfl, rfl⟩ := h
  cases success with
  | false =>
    cases hread
    exact ⟨_, rfl, rfl, rfl⟩
  | true =>
    obtain ⟨_ | ⟨bytes⟩ | _, status⟩ := received
    · cases hread
    · cases hread
    · cases hread
      exact ⟨_, rfl, rfl, rfl⟩

private theorem run_end (h : Waits request msgCb statusCb s) (status final : Status) :
    ∃ u, (machine fun _ => true).run s [.complete 1 true ⟨none, status⟩ {},
        .complete 1 true { status := final } {}] = some u ∧
      u.call.outstanding = [.clientReaderInit request] ∧ u.call.log = (((s.call.log ++
        [.complete .clientReaderRead true ⟨none, status⟩]) ++
        [.start (.clientReaderAsyncRecvStatus (some statusCb)) true]) ++
        [.complete (.clientReaderAsyncRecvStatus (some statusCb)) true { status := final }]) ++
        [.note (.statusCb statusCb final)] := by
  obtain ⟨⟨starts, outstanding, log⟩, request', ok, m, c, started⟩ := s
  obtain ⟨rfl, rfl, rfl, rfl, rfl⟩ := h
  exact ⟨_, rfl, rfl, rfl⟩

private theorem smooth_append {final : Status} {history more : List (Event Note)}
    (h : ∀ e ∈ more, smooth final e = true) :
    ∀ e ∈ history ++ more, e ∈ history ∨ smooth final e = true := by
  intro e he
  rcases List.mem_append.mp he with he | he
  · exact .inl he
  · exact .inr (h e he)

private theorem delivers (h : Waits request msgCb statusCb s) {reads : List (Bool × Received)}
    (hstop : (readChain reads).stop ≠ none) (final : Status) :
    ∃ t, (machine fun _ => true).run s (deliver final reads) = some t ∧
      Delivers final s t reads := by
  induction reads generalizing s with
  | nil => exact absurd rfl hstop
  | cons answer reads ih =>
    obtain ⟨success, received⟩ := answer
    cases hread : readOutcome (lit "ClientReaderReadCqTag failed.") success received with
    | item bytes =>
      obtain ⟨rfl, status, rfl⟩ : success = true ∧
          ∃ status, received = ⟨some (.readable bytes), status⟩ := by
        cases success with
        | false => cases hread
        | true =>
          obtain ⟨_ | ⟨bytes'⟩ | _, status⟩ := received
          all_goals cases hread
          exact ⟨rfl, status, rfl⟩
      obtain ⟨u, hu, hwaits, hlog⟩ := step_item h bytes status
      obtain ⟨t, hrun, hrest, hsmooth, done, hdone, hreads⟩ := ih hwaits
        (by simpa [readChain, hread] using hstop)
      refine ⟨t, ?_, hrest, ?_, _ :: done, ?_, List.prefix_cons_inj _ |>.mpr hreads⟩
      · rw [deliver, hread]
        exact (Machine.run_cons _).mpr ⟨u, hu, hrun⟩
      · intro e he
        rcases hsmooth e he with he | he
        · rw [hlog] at he
          simp only [List.append_assoc] at he
          exact smooth_append (by simp [smooth]) e he
        · exact .inr he
      · simp [hdone, hlog]
    | stop reason =>
      cases reason with
      | error error =>
        obtain ⟨u, hu, hout, hlog⟩ := step_error h hread
        refine ⟨u, ?_, by simp [hout, busy], ?_, [(success, received)], ?_, by simp⟩
        · rw [deliver, hread]
          exact (Machine.run_cons _).mpr ⟨u, hu, rfl⟩
        · rw [hlog]
          simp only [List.append_assoc]
          exact smooth_append (by simp [smooth])
        · simp [hlog]
      | endOfStream =>
        obtain ⟨rfl, status, rfl⟩ : success = true ∧ ∃ status, received = ⟨none, status⟩ := by
          cases success with
          | false => cases hread
          | true =>
            obtain ⟨_ | ⟨bytes'⟩ | _, status⟩ := received
            all_goals cases hread
            exact ⟨rfl, status, rfl⟩
        obtain ⟨u, hu, hout, hlog⟩ := run_end h status final
        refine ⟨u, ?_, by simp [hout, busy], ?_, [(true, ⟨none, status⟩)], ?_, by simp⟩
        · rw [deliver, hread]
          exact hu
        · rw [hlog]
          simp only [List.append_assoc]
          exact smooth_append (by simp [smooth])
        · simp [hlog]

/-- So the agreement is about every stream that stops the asynchronous reader. -/
theorem stream_delivered (request : StdString) (msgCb statusCb : Nat)
    {reads : List (Bool × Received)} (hstop : (readChain reads).stop ≠ none) (final : Status) :
    ∃ ls s, (machine fun _ => true).run (clientAsyncReaderImpl request) ls = some s ∧
      ls.findSome? Label.start? = some (some msgCb, some statusCb) ∧
      (∀ e ∈ s.call.log, smooth final e = true) ∧ s.call.outstanding.filter busy = [] ∧
      collect readDone s.call.log <+: reads := by
  obtain ⟨u, hu, hwaits, hlog⟩ : ∃ u, (machine fun _ => true).step (clientAsyncReaderImpl request)
      (.op (.start (some msgCb) (some statusCb) [])) = some u ∧
      Waits request msgCb statusCb u ∧ u.call.log = [.note (.start (some msgCb) (some statusCb)),
        .start (.clientReaderInit request) true, .start .clientReaderRead true] :=
    ⟨_, rfl, ⟨rfl, rfl, rfl, rfl, rfl⟩, rfl⟩
  obtain ⟨t, ht, hrest, hsmooth, done, hdone, hreads⟩ := delivers hwaits hstop final
  refine ⟨_, t, (Machine.run_cons _).mpr ⟨u, hu, ht⟩, rfl, ?_, hrest, ?_⟩
  · intro e he
    rcases hsmooth e he with he | he
    · rw [hlog] at he
      simp only [List.mem_cons, List.not_mem_nil, or_false] at he
      rcases he with rfl | rfl | rfl <;> simp [smooth]
    · exact he
  · rw [hdone, hlog]
    simpa using hreads

end delivery

/-- A stream of one message, and the server's status behind it. -/
def oneMessage : CQueueForPluck where
  reads := [(true, { recvBuf := some (.readable [7]) }), (true, {})]
  status := (true, { status := ⟨.notFound, [1]⟩ })

def oneMessageLabels : List Label :=
  [.op (.start (some 1) (some 2) []), .complete 1 true { recvBuf := some (.readable [7]) } {},
    .complete 1 true {} {}, .complete 1 true { status := ⟨.notFound, [1]⟩ } {}]

theorem readers_agree_one_message :
    ∃ s, (machine fun _ => true).run (clientAsyncReaderImpl [5]) oneMessageLabels = some s ∧
      ((∃ responses status, readStream (fun _ => true) [5] oneMessage = some (responses, status) ∧
        collect heard s.call.log = responses.map (1, ·) ∧
        collect told s.call.log = [(2, status)]) ↔
          Agrees oneMessage.reads ⟨.notFound, [1]⟩) := by
  have hrun : (machine fun _ => true).run (clientAsyncReaderImpl [5]) oneMessageLabels =
      some _ := rfl
  refine ⟨_, hrun, readers_agree_iff hrun rfl ?_ rfl ?_ rfl fun _ => rfl⟩
  · exact List.all_eq_true.mp rfl
  · exact ⟨[], rfl⟩

def failedRead : CQueueForPluck where
  reads := [(false, {})]
  status := (true, { status := ⟨.unavailable, [1]⟩ })

/-- The asynchronous reader ends it with an error of its own, the synchronous one
asks the server. -/
theorem failed_read_disagrees :
    ∃ s, (machine fun _ => true).run (clientAsyncReaderImpl [5])
        [.op (.start (some 1) (some 2) []), .complete 1 false {} {}] = some s ∧
      (∀ e ∈ s.call.log, smooth ⟨.unavailable, [1]⟩ e = true) ∧
      s.call.outstanding.filter busy = [] ∧
      collect readDone s.call.log = failedRead.reads ∧
      collect told s.call.log = [(2, .internalError (lit "ClientReaderReadCqTag failed."))] ∧
      readStream (fun _ => true) [5] failedRead = some ([], ⟨.unavailable, [1]⟩) ∧
      ¬ ∃ responses status, readStream (fun _ => true) [5] failedRead = some (responses, status) ∧
        collect heard s.call.log = responses.map (1, ·) ∧
        collect told s.call.log = [(2, status)] := by
  refine ⟨_, rfl, List.all_eq_true.mp rfl, rfl, rfl, rfl, rfl, ?_⟩
  rintro ⟨responses, status, hstream, -, htold⟩
  have hsync : readStream (fun _ => true) [5] failedRead = some ([], ⟨.unavailable, [1]⟩) := rfl
  cases hsync.symm.trans hstream
  cases htold

end GrpcCbCore.Client.ReaderImpl
