import GrpcCbCore.Client.WriterDelivery
import GrpcCbCore.Server.ReaderTrace
import GrpcCbCore.Common.Wire
import GrpcCbCore.Library.Beside
import GrpcCbCore.Library.Pipe

/-! A client stream from end to end: a `ClientAsyncWriter`, grpc, and the
`ServerReader` of the call, each step of either side interleaved with those of the
other. Together they are a pipe. -/
namespace GrpcCbCore.System.ClientStreaming
open GrpcCbCore.Library GrpcCbCore.Server

abbrev State := Client.WriterImpl.Impl × Reader.ServerReader

abbrev Label := Client.WriterImpl.Label ⊕ Reader.Label

/-- `client` and `server` are what grpc answers to the starts of either side. -/
def machine (client server : Nat → Bool) : Machine State Label :=
  (Client.WriterImpl.machine client).beside (Reader.machine server)

def initial (client : Nat → Bool) : State := (Client.WriterImpl.clientAsyncWriterImpl client, {})

def taken (reader : Reader.ServerReader) : List StdString :=
  collect (Event.brought .serverReader) reader.call.log

/-- grpc carries the stream: a read that the server completes without an error has what
the client's batches hold. -/
def Carried (s : State) : Label → Prop
  | .inr (.complete _ true received _) =>
      Carries (collect Event.sent s.1.call.log) (.start .clientWriterClose true ∈ s.1.call.log)
        (taken s.2).length received
  | _ => True

section reader

variable {grpc : Nat → Bool} {s t : Reader.ServerReader}

abbrev ended : Reader.Ending := .stream .endOfStream

theorem taken_of_open (h : (Reader.chain s.call.log).stop = none) :
    (Reader.chain s.call.log).items = taken s := by
  apply Chain.shown_open h
  intro e
  rcases e with ⟨tag, _ | _⟩ | ⟨tag, _ | _, recvBuf, status⟩ | n
  case complete.true =>
    cases tag <;> rcases recvBuf with _ | _ | _ <;> rfl
  case complete.false => cases tag <;> rfl
  case note =>
    cases n with
    | onMsgStrReturns status => cases h : status.ok <;> simp [Reader.sights, h]
    | _ => rfl
  all_goals cases tag <;> rfl

private theorem endOnError_chain (status : Status) :
    Reader.chain (Reader.endOnError status s).call.log = Reader.chain s.call.log := by
  cases h : status.ok <;> simp [Reader.endOnError, Reader.ServerReader.check, h]

private theorem start_breaks :
    (Reader.chain s.call.log).Breaks ended (Reader.chain (Reader.start grpc s).call.log) := by
  unfold Reader.start
  rcases Bool.eq_false_or_eq_true (grpc s.call.starts) with hgrpc | hgrpc
  · exact .inl (by simp [Reader.ServerReader.startBatch, hgrpc])
  · exact .inr ⟨.startRefused, by simp, by simp [Reader.ServerReader.startBatch, hgrpc]⟩

private theorem doComplete_breaks (onMsgStr : Status) (success : Bool) (received : Received) :
    (Reader.chain s.call.log).Breaks ended
      (Reader.chain (Reader.doComplete grpc onMsgStr success received s).call.log) := by
  unfold Reader.doComplete
  cases success with
  | false => exact .inl (by simp [endOnError_chain])
  | true =>
    rw [if_neg (by simp)]
    cases hbuf : received.recvBuf with
    | none => exact .inl (by simp)
    | some recvBuf =>
      cases recvBuf with
      | unreadable => exact .inl (by simp [getResultMsg, byteBufferToString, endOnError_chain])
      | readable bytes =>
        simp only [getResultMsg, byteBufferToString, Status.ok_OK, Bool.not_true,
          Bool.false_eq_true, if_false]
        cases hresult : onMsgStr.ok with
        | false =>
          exact .inr ⟨.stream (.error onMsgStr), by simp, by simp [endOnError_chain, hresult]⟩
        | true =>
          rcases Bool.eq_false_or_eq_true (grpc s.call.starts) with hgrpc | hgrpc
          · exact .inl (by simp [Reader.ServerReader.startBatch, hgrpc, hresult])
          · exact .inr ⟨.startRefused, by simp, by
              simp [Reader.ServerReader.startBatch, hgrpc, hresult, endOnError_chain]⟩

def outcome (success : Bool) (received : Received) : Outcome StdString Reader.Ending :=
  (readOutcome (lit "ServerReaderCqTag failed.") success received).mapStop .stream

/-- A step of the reader answers a request, or none, and may break the chain. -/
theorem step_breaks {label : Reader.Label} (hstep : Reader.step grpc s label = some t) :
    (Reader.chain s.call.log).Breaks ended (Reader.chain t.call.log) ∨
    ∃ index success received onMsgStr, label = .complete index success received onMsgStr ∧
      ((Reader.chain s.call.log).next (outcome success received)).Breaks ended
        (Reader.chain t.call.log) := by
  cases label with
  | start =>
    simp only [Reader.step] at hstep
    split at hstep
    · cases hstep
    · cases hstep
      exact .inl start_breaks
  | complete index success received onMsgStr =>
    cases hcall : s.call.complete index success received with
    | none => simp [Reader.step, hcall] at hstep
    | some found =>
      obtain ⟨tag, call⟩ := found
      have hlog := Call.complete_log hcall
      by_cases htag : tag = .serverReader
      · subst htag
        obtain rfl : Reader.doComplete grpc onMsgStr success received { s with call := call } =
            t := by simpa [Reader.step, hcall] using hstep
        refine .inr ⟨index, success, received, onMsgStr, rfl, ?_⟩
        have hbreaks : (Reader.chain call.log).Breaks ended (Reader.chain
            (Reader.doComplete grpc onMsgStr success received
              { s with call := call }).call.log) :=
          doComplete_breaks onMsgStr success received
        simpa [hlog, outcome] using hbreaks
      · have ht : { s with call := call } = t := by
          cases tag <;> first | exact absurd rfl htag | simpa [Reader.step, hcall] using hstep
        subst ht
        refine .inl (.inl ?_)
        cases tag <;> first | exact absurd rfl htag | simp [hlog]

end reader

/-- The pipe of the two sides. -/
structure Joins (s : State) (p : Pipe StdString Unit ended) : Prop where
  writes : Client.WriterImpl.Refines s.1 p.lane
  reads : p.chain = Reader.chain s.2.call.log

section joins

variable {client server : Nat → Bool} {s t : State} {p : Pipe StdString Unit ended}

theorem permits_read {s : Reader.ServerReader} (hreads : p.chain = Reader.chain s.call.log)
    {sent : List StdString} {closed : Prop} (hsent : sent = p.lane.started)
    (hclosed : closed → p.lane.closeSent = true) {success : Bool} {received : Received}
    (hcarried : success = true → Carries sent closed (taken s).length received)
    (hopen : p.chain.stop = none) : p.Permits (outcome success received) := by
  cases success with
  | false =>
    intro hend
    simp [ended] at hend
  | true =>
    have hitems : p.chain.items = taken s := by
      rw [hreads] at hopen ⊢
      exact taken_of_open hopen
    have hcarried := hcarried rfl
    simp only [Carries, ← hitems, hsent] at hcarried
    rcases hbuf : received.recvBuf with _ | bytes | _
    · simp only [hbuf] at hcarried
      obtain ⟨hclose, hlength⟩ := hcarried
      have hend : outcome true received = .stop ended := by
        simp [outcome, readOutcome, bufferOutcome, hbuf, Outcome.mapStop]
      rw [hend]
      intro _
      exact ⟨hclosed hclose, p.carried.eq_of_length hlength⟩
    · simpa [outcome, readOutcome, bufferOutcome, hbuf, Outcome.mapStop, Pipe.Permits]
        using hcarried
    · simp [outcome, readOutcome, bufferOutcome, hbuf, Outcome.mapStop, Pipe.Permits]

theorem exists_read {s t : Reader.ServerReader} (hreads : p.chain = Reader.chain s.call.log)
    {sent : List StdString} {closed : Prop} (hsent : sent = p.lane.started)
    (hclosed : closed → p.lane.closeSent = true) {label : Reader.Label}
    (hcarried : ∀ index received onMsgStr, label = .complete index true received onMsgStr →
      Carries sent closed (taken s).length received)
    (hstep : Reader.step server s label = some t) :
    ∃ q : Pipe StdString Unit ended, q.lane = p.lane ∧ q.chain = Reader.chain t.call.log := by
  have hbreaks := step_breaks hstep
  rw [← hreads] at hbreaks
  rcases hbreaks with hbreaks | ⟨index, success, received, onMsgStr, rfl, hbreaks⟩
  · exact p.exists_breaks hbreaks
  · have hpermits : p.chain.stop = none → p.Permits (outcome success received) := by
      apply permits_read hreads hsent hclosed
      rintro rfl
      exact hcarried index received onMsgStr rfl
    exact (p.next (outcome success received) hpermits).exists_breaks hbreaks

theorem closed_of_start {impl : Client.WriterImpl.Impl} {l : Lane StdString Unit}
    (h : Client.WriterImpl.Refines impl l)
    (hstart : .start .clientWriterClose true ∈ impl.call.log) : l.closeSent = true := by
  have hattempt := h.closeAttempt
  by_contra hunsent
  rw [if_neg hunsent] at hattempt
  exact (collect_ne_nil _ _).mpr ⟨_, hstart, by simp⟩ hattempt

theorem Joins.step (h : Joins s p) {label : Label} (hcarried : Carried s label)
    (hstep : (machine client server).step s label = some t) :
    ∃ q : Pipe StdString Unit ended, Joins t q := by
  cases label with
  | inl label =>
    obtain ⟨hstep, hsame⟩ := Machine.beside_inl hstep
    obtain ⟨l, hsteps, hrefines⟩ := Client.WriterImpl.step_refines h.writes hstep
    exact ⟨p.sends hsteps, hrefines, by rw [hsame, ← h.reads, Pipe.sends_chain]⟩
  | inr label =>
    obtain ⟨hstep, hsame⟩ := Machine.beside_inr hstep
    obtain ⟨q, hlane, hchain⟩ := exists_read h.reads h.writes.sent (closed_of_start h.writes)
      (by rintro index received onMsgStr rfl; exact hcarried) hstep
    exact ⟨q, by rw [hsame, hlane]; exact h.writes, hchain⟩

private theorem initial_joins (client : Nat → Bool) :
    ∃ q : Pipe StdString Unit ended, Joins (initial client) q := by
  obtain ⟨l, hsteps, hrefines⟩ := Client.WriterImpl.construct_refines client
  exact ⟨Pipe.fresh.sends hsteps, hrefines, rfl⟩

/-- Every run of the two sides is one of a pipe. -/
theorem run_joins {ls : List Label}
    (hrun : (machine client server).run (initial client) ls = some s)
    (hcarried : (machine client server).Along Carried (initial client) ls) :
    ∃ q : Pipe StdString Unit ended, Joins s q :=
  Machine.invariant_along (M := machine client server) (P := Carried)
    (I := fun s => ∃ q : Pipe StdString Unit ended, Joins s q)
    (fun _ _ _ h hcarried hstep => h.elim fun _ h => h.step hcarried hstep)
    (initial_joins client) hcarried hrun

end joins

@[simp] def heard : Event Reader.Note → Option StdString
  | .note (.onMsgStr msgStr) => some msgStr
  | _ => none

@[simp] def toldError : Event Reader.Note → Option Status
  | .note (.onError status) => some status
  | _ => none

section told

variable {s : Reader.ServerReader}

private theorem collect_callback {β : Type} {f : Event Reader.Note → Option β}
    (hf : ∀ e, Reader.callback e = none → f e = none) (history : List (Event Reader.Note)) :
    collect f ((collect Reader.callback history).map .note) = collect f history := by
  induction history with
  | nil => rfl
  | cons e history ih =>
    rw [collect_cons, collect_cons, List.map_append, collect_append, ih]
    congr 1
    cases hcallback : Reader.callback e with
    | none => simp [hf e hcallback]
    | some n =>
      obtain rfl : e = .note n := by
        rcases e with _ | _ | _ | _ | _ | _ | _ <;> simp_all
      simp

private theorem heard_of_trace (c : Chain StdString Reader.Ending) :
    collect heard ((Reader.trace c).map .note) = c.items := by
  have hitems : collect heard ((c.items.map Reader.Note.onMsgStr).map .note) = c.items := by
    simp [collect, List.filterMap_map, Function.comp_def]
  rw [Reader.trace, List.map_append, collect_append, hitems]
  cases c.stop with
  | none => simp
  | some ending => cases h : ending.error? c.items <;> simp [h]

private theorem toldError_of_trace (c : Chain StdString Reader.Ending) :
    collect toldError ((Reader.trace c).map .note) =
      (c.stop.bind (Reader.Ending.error? c.items)).toList := by
  have hitems : collect toldError ((c.items.map Reader.Note.onMsgStr).map .note) = [] := by
    simp [collect]
  rw [Reader.trace, List.map_append, collect_append, hitems, List.nil_append]
  cases c.stop with
  | none => simp
  | some ending => cases h : ending.error? c.items <;> simp [h]

theorem run_callbacks {grpc : Nat → Bool} {ls : List Reader.Label}
    (hrun : (Reader.machine grpc).run {} ls = some s) :
    collect Reader.callback s.call.log = Reader.trace (Reader.chain s.call.log) := by
  rcases Reader.run_phase hrun with rfl | ⟨-, h⟩ | ⟨-, h⟩
  · rfl
  · rw [h.callbacks, Reader.trace, h.stop]
    simp
  · exact h.callbacks

theorem heard_items
    (h : collect Reader.callback s.call.log = Reader.trace (Reader.chain s.call.log)) :
    collect heard s.call.log = (Reader.chain s.call.log).items := by
  rw [← collect_callback (by rintro (_ | _ | _ | _ | _ | _ | _) <;> simp) s.call.log, h,
    heard_of_trace]

theorem toldError_stop
    (h : collect Reader.callback s.call.log = Reader.trace (Reader.chain s.call.log)) :
    collect toldError s.call.log = ((Reader.chain s.call.log).stop.bind
      (Reader.Ending.error? (Reader.chain s.call.log).items)).toList := by
  rw [← collect_callback (by rintro (_ | _ | _ | _ | _ | _ | _) <;> simp) s.call.log, h,
    toldError_of_trace]

theorem unbroken_of_untold
    (h : collect Reader.callback s.call.log = Reader.trace (Reader.chain s.call.log))
    (herror : collect toldError s.call.log = []) :
    (Reader.chain s.call.log).stop = none ∨ (Reader.chain s.call.log).stop = some ended := by
  rw [toldError_stop h] at herror
  cases hstop : (Reader.chain s.call.log).stop with
  | none => exact .inl rfl
  | some ending =>
    rw [hstop, Option.bind_some, Option.toList_eq_nil_iff] at herror
    rcases ending with _ | _ | status
    · simp [Reader.Ending.error?] at herror
    · exact .inr rfl
    · simp [Reader.Ending.error?] at herror

theorem onEnd_stop
    (h : collect Reader.callback s.call.log = Reader.trace (Reader.chain s.call.log)) :
    .note .onEnd ∈ s.call.log ↔ (Reader.chain s.call.log).stop ≠ none := by
  have hmem : .note .onEnd ∈ s.call.log ↔ .onEnd ∈ collect Reader.callback s.call.log := by
    constructor
    · exact fun hend => List.mem_filterMap.mpr ⟨_, hend, rfl⟩
    · intro hend
      obtain ⟨e, he, hcallback⟩ := List.mem_filterMap.mp hend
      rcases e with _ | _ | _ | _ | _ | _ | _ <;> simp at hcallback
      exact he
  rw [hmem, h, Reader.trace]
  cases (Reader.chain s.call.log).stop <;> simp

theorem told_of_pipe {p : Pipe StdString Unit ended} (hreads : p.chain = Reader.chain s.call.log)
    (htrace : collect Reader.callback s.call.log = Reader.trace (Reader.chain s.call.log)) :
    collect heard s.call.log <+: p.lane.accepted ∧
    (.note .onEnd ∈ s.call.log → collect toldError s.call.log = [] →
      collect heard s.call.log = p.lane.accepted ∧ p.lane.closeSent = true) := by
  rw [heard_items htrace, ← hreads]
  refine ⟨p.items_initial, fun hend herror => ?_⟩
  have hstop : p.chain.stop = some ended := by
    rw [hreads]
    exact (unbroken_of_untold htrace herror).resolve_left ((onEnd_stop htrace).mp hend)
  exact ⟨p.items_of_ended hstop, (p.whole hstop).1⟩

end told

/-- The server hears a beginning of what the client's `Write` has accepted, each message
once and in order. If it is told the end, and no error, the client has closed the stream,
and the server has heard all that was or ever will be accepted. -/
theorem delivers_stream {client server : Nat → Bool} {ls : List Label} {s : State}
    (hrun : (machine client server).run (initial client) ls = some s)
    (hcarried : (machine client server).Along Carried (initial client) ls) :
    collect heard s.2.call.log <+: collect Client.WriterImpl.accepted s.1.call.log ∧
    (.note .onEnd ∈ s.2.call.log → collect toldError s.2.call.log = [] →
      collect heard s.2.call.log = collect Client.WriterImpl.accepted s.1.call.log ∧
      collect Client.WriterImpl.closeCall s.1.call.log ≠ []) := by
  obtain ⟨p, hwrites, hreads⟩ := run_joins hrun hcarried
  rw [hwrites.accepted]
  obtain ⟨hinitial, hall⟩ := told_of_pipe hreads (run_callbacks (Machine.beside_run hrun).2)
  refine ⟨hinitial, fun hend herror => ?_⟩
  obtain ⟨hheard, hsent⟩ := hall hend herror
  refine ⟨hheard, ?_⟩
  have hattempt := hwrites.closeAttempt
  rw [if_pos hsent] at hattempt
  obtain ⟨word, hword⟩ := Option.isSome_iff_exists.mp (p.lane.close_last hsent).2.2
  have hne : collect Client.WriterImpl.closeAttempt s.1.call.log ≠ [] := by simp [hattempt, hword]
  obtain ⟨e, hmem, he⟩ := (collect_ne_nil _ _).mp hne
  obtain ⟨before, after, hlog⟩ := List.append_of_mem hmem
  rw [hlog]
  exact collect_ne_nil_append _ _ _ (hwrites.closes_last before e after hlog he).1

/-- Two messages and a Close; the server reads while the client still sends. -/
def twoMessages : List Label :=
  [.inl (.op (.write [1] [])), .inr .start, .inl (.op (.write [2] [])), .inl (.op (.close true [])),
    .inr (.complete 0 true { recvBuf := some (.readable [1]) } .OK), .inl (.complete 1 true {} []),
    .inr (.complete 0 true { recvBuf := some (.readable [2]) } .OK), .inl (.complete 1 true {} []),
    .inr (.complete 0 true {} .OK)]

theorem delivers_stream_twoMessages :
    ∃ s, (machine (fun _ => true) fun _ => true).run (initial fun _ => true) twoMessages = some s ∧
      collect heard s.2.call.log = [[1], [2]] ∧
      collect heard s.2.call.log = collect Client.WriterImpl.accepted s.1.call.log := by
  have hrun : (machine (fun _ => true) fun _ => true).run (initial fun _ => true) twoMessages =
      some _ := rfl
  have hcarried : (machine (fun _ => true) fun _ => true).Along Carried (initial fun _ => true)
      twoMessages := by
    rw [twoMessages]
    iterate 9 rw [Machine.along_cons rfl]
    refine ⟨trivial, trivial, trivial, trivial, ?_, trivial, ?_, trivial, ?_, Machine.along_nil _ _⟩
    · exact rfl
    · exact rfl
    · exact ⟨by decide, rfl⟩
  exact ⟨_, hrun, rfl, ((delivers_stream hrun hcarried).2 (by decide) rfl).1⟩

end GrpcCbCore.System.ClientStreaming
