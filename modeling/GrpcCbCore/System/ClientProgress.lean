import GrpcCbCore.System.ClientStreaming
import GrpcCbCore.Client.WriterProgress

/-! A client stream that is closed, and on which nothing has failed, comes to its end by
itself: neither side waits for the other for ever, whoever is scheduled when. -/
namespace GrpcCbCore.System.ClientStreaming
open GrpcCbCore.Library GrpcCbCore.Server

/-- grpc carries out what it has accepted, carries the stream, and `OnMsgStr` returns OK. The
server's `Start` may still be to come. -/
def Good (s : State) : Label → Prop
  | .inl label => Client.WriterImpl.Completes s.1 label
  | .inr .start => True
  | .inr (.complete index success received onMsgStr) =>
      success = true ∧ received.recvBuf ≠ some .unreadable ∧ onMsgStr.ok = true ∧
        Carried s (.inr (.complete index success received onMsgStr))

theorem Good.carried {s : State} {label : Label} (h : Good s label) : Carried s label := by
  rcases label with label | _ | ⟨index, success, received, onMsgStr⟩
  · trivial
  · trivial
  · exact h.2.2.2

/-- What is left to do: the client's batches and messages, and the server's reads. -/
def work (s : State) : Nat :=
  Client.WriterImpl.left s.1 +
    ((collect Client.WriterImpl.accepted s.1.call.log).length -
      (Reader.chain s.2.call.log).items.length) +
    (if (Reader.chain s.2.call.log).stop = none then 1 else 0) +
    (if s.2.started = true then 0 else 1)

/-- The stream is on its way: closed, unbroken, and read by a server that has not met an error. -/
structure Underway (s : State) (p : Pipe StdString Unit ended) : Prop extends Joins s p where
  running : s.1.crashed = false
  live : p.lane.broken = false
  asked : p.lane.closing.isSome = true
  phase : s.2 = {} ∨ Reader.Phase s.2
  unbroken : p.chain.stop = none ∨ p.chain.stop = some ended

section reader

variable {grpc : Nat → Bool} {s t : Reader.ServerReader}

private theorem good_chain (hgrpc : ∀ k, grpc k = true) {onMsgStr : Status} {received : Received}
    (hreadable : received.recvBuf ≠ some .unreadable) (hok : onMsgStr.ok = true) :
    Reader.chain (Reader.doComplete grpc onMsgStr true received s).call.log =
      Reader.chain s.call.log := by
  unfold Reader.doComplete
  rw [if_neg (by simp)]
  rcases hbuf : received.recvBuf with _ | bytes | _
  · simp
  · simp [getResultMsg, byteBufferToString, hok, Reader.ServerReader.startBatch, hgrpc]
  · exact absurd hbuf hreadable

theorem started_of_phase (h : Reader.Phase s) : s.started = true := by
  cases h <;> assumption

private theorem good_step (hgrpc : ∀ k, grpc k = true) (hphase : s = {} ∨ Reader.Phase s)
    {index : Nat} {received : Received} {onMsgStr : Status}
    (hreadable : received.recvBuf ≠ some .unreadable) (hok : onMsgStr.ok = true)
    (hstep : Reader.step grpc s (.complete index true received onMsgStr) = some t) :
    (Reader.chain s.call.log).stop = none ∧ t.started = s.started ∧
      Reader.chain t.call.log = (Reader.chain s.call.log).next (outcome true received) := by
  cases hcall : s.call.complete index true received with
  | none => simp [Reader.step, hcall] at hstep
  | some found =>
    obtain ⟨tag, call⟩ := found
    have hmem := (Call.complete_subset hcall).1
    have hlog := Call.complete_log hcall
    rcases hphase with rfl | ⟨hstarted, h⟩ | ⟨hstarted, h⟩
    · simp at hmem
    · obtain rfl : tag = .serverReader := by simpa [h.read] using hmem
      obtain rfl : Reader.doComplete grpc onMsgStr true received { s with call := call } =
          t := by simpa [Reader.step, hcall] using hstep
      refine ⟨h.stop, ?_, ?_⟩
      · have hphase : Reader.Phase (Reader.doComplete grpc onMsgStr true received
            { s with call := call }) := Reader.doComplete_phase hstarted h hcall onMsgStr
        exact (started_of_phase hphase).trans hstarted.symm
      · rw [good_chain hgrpc hreadable hok, hlog]
        simp [outcome]
    · simp [h.free] at hmem

theorem start_goes (hgrpc : ∀ k, grpc k = true) (hphase : s = {} ∨ Reader.Phase s)
    (hstep : Reader.step grpc s .start = some t) :
    s.started = false ∧ Reader.Phase t ∧
      Reader.chain t.call.log = Reader.chain s.call.log := by
  have hchain : Reader.chain (Reader.start grpc s).call.log = Reader.chain s.call.log := by
    simp [Reader.start, Reader.ServerReader.startBatch, hgrpc]
  obtain rfl | hphase := hphase
  · obtain rfl : Reader.start grpc {} = t := by simpa [Reader.step] using hstep
    exact ⟨rfl, Reader.start_phase rfl, hchain⟩
  · simp [Reader.step, started_of_phase hphase] at hstep

theorem read_goes {p : Pipe StdString Unit ended} (hgrpc : ∀ k, grpc k = true)
    (hreads : p.chain = Reader.chain s.call.log) (hphase : s = {} ∨ Reader.Phase s)
    {sent : List StdString} {closed : Prop} (hsent : sent = p.lane.started)
    (hclosed : closed → p.lane.closeSent = true) {index : Nat} {received : Received}
    {onMsgStr : Status} (hreadable : received.recvBuf ≠ some .unreadable)
    (hok : onMsgStr.ok = true) (hcarried : Carries sent closed (taken s).length received)
    (hstep : Reader.step grpc s (.complete index true received onMsgStr) = some t) :
    ∃ q : Pipe StdString Unit ended, q.lane = p.lane ∧ q.chain = Reader.chain t.call.log ∧
      (t = {} ∨ Reader.Phase t) ∧ t.started = s.started ∧
      (q.chain.stop = none ∨ q.chain.stop = some ended) ∧ q.pending < p.pending := by
  obtain ⟨hopen, hstarted, hchain⟩ := good_step hgrpc hphase hreadable hok hstep
  have hopen' : p.chain.stop = none := by rw [hreads, hopen]
  have hpermits : p.chain.stop = none → p.Permits (outcome true received) :=
    permits_read hreads hsent hclosed fun _ => hcarried
  refine ⟨p.next (outcome true received) hpermits, rfl, ?_, ?_, hstarted, ?_,
    p.next_pending hpermits hopen'⟩
  · rw [hchain, ← hreads, Pipe.next_chain]
  · obtain rfl | hphase := hphase
    · simp [Reader.step, Call.complete] at hstep
    · exact .inr (Reader.step_phase hphase hstep)
  · rcases hbuf : received.recvBuf with _ | bytes | _
    · right
      simp [outcome, readOutcome, bufferOutcome, hbuf, Outcome.mapStop, Chain.next_stop hopen']
    · left
      simp [outcome, readOutcome, bufferOutcome, hbuf, Outcome.mapStop, Chain.next_item hopen',
        hopen']
    · exact absurd hbuf hreadable

end reader

section progress

variable {client server : Nat → Bool} {s t : State} {p : Pipe StdString Unit ended}

theorem Underway.client_step (hclient : ∀ k, client k = true) (h : Underway s p)
    {label : Client.WriterImpl.Label} (hgood : Good s (.inl label))
    (hstep : (machine client server).step s (.inl label) = some t) :
    (∃ q : Pipe StdString Unit ended, Underway t q) ∧ work t < work s := by
  obtain ⟨hstep, hsame⟩ := Machine.beside_inl hstep
  obtain ⟨l, hsteps, hrefines, hlive, hrunning, hless⟩ :=
    Client.WriterImpl.step_progress hclient h.writes h.live hgood hstep
  obtain ⟨hasked, haccepted⟩ := hsteps.asked h.asked
  constructor
  · refine ⟨p.sends hsteps, ⟨⟨hrefines, ?_⟩, hrunning, hlive, ?_, ?_, h.unbroken⟩⟩
    · rw [hsame, ← h.reads, Pipe.sends_chain]
    · rw [Pipe.sends_lane, hasked]
      exact h.asked
    · rw [hsame]
      exact h.phase
  · simp only [work, hsame]
    rw [hrefines.accepted, haccepted, h.writes.accepted]
    omega

theorem Underway.start_step (hserver : ∀ k, server k = true) (h : Underway s p)
    (hstep : (machine client server).step s (.inr .start) = some t) :
    (∃ q : Pipe StdString Unit ended, Underway t q) ∧ work t < work s := by
  obtain ⟨hstep, hsame⟩ := Machine.beside_inr hstep
  have hstart : Reader.step server s.2 .start = some t.2 := hstep
  obtain ⟨hnew, hphase, hchain⟩ := start_goes hserver h.phase hstart
  constructor
  · exact ⟨p, ⟨by rw [hsame]; exact h.writes, h.reads.trans hchain.symm⟩,
      by rw [hsame]; exact h.running, h.live, h.asked, .inr hphase, h.unbroken⟩
  · simp only [work, hsame, hchain]
    simp [started_of_phase hphase, hnew]

theorem Underway.read_step (hserver : ∀ k, server k = true) (h : Underway s p) {index : Nat}
    {success : Bool} {received : Received} {onMsgStr : Status}
    (hgood : Good s (.inr (.complete index success received onMsgStr)))
    (hstep : (machine client server).step s (.inr (.complete index success received onMsgStr)) =
      some t) :
    (∃ q : Pipe StdString Unit ended, Underway t q) ∧ work t < work s := by
  obtain ⟨rfl, hreadable, hok, hcarried⟩ := hgood
  obtain ⟨hstep, hsame⟩ := Machine.beside_inr hstep
  obtain ⟨q, hlane, hchain, hphase, hstarted, hunbroken, hpending⟩ := read_goes hserver h.reads
    h.phase h.writes.sent (closed_of_start h.writes) hreadable hok hcarried hstep
  constructor
  · exact ⟨q, ⟨by rw [hsame, hlane]; exact h.writes, hchain⟩, by rw [hsame]; exact h.running,
      by rw [hlane]; exact h.live, by rw [hlane]; exact h.asked, hphase, hunbroken⟩
  · simp only [Pipe.pending, hlane, h.reads, hchain] at hpending
    simp only [work, hsame, hstarted, h.writes.accepted]
    omega

private theorem step_underway (hclient : ∀ k, client k = true) (hserver : ∀ k, server k = true)
    (h : Underway s p) {label : Label} (hgood : Good s label)
    (hstep : (machine client server).step s label = some t) :
    (∃ q : Pipe StdString Unit ended, Underway t q) ∧ work t < work s := by
  rcases label with label | _ | ⟨index, success, received, onMsgStr⟩
  · exact h.client_step hclient hgood hstep
  · exact h.start_step hserver hstep
  · exact h.read_step hserver hgood hstep

/-- The stream is over: neither side waits for anything, and the server has heard all of it,
and its end, without an error. -/
structure Done (s : State) : Prop where
  sent : s.1.call.outstanding = []
  free : s.2.call.outstanding = []
  closed : collect Client.WriterImpl.closeAttempt s.1.call.log = [()]
  heard : collect heard s.2.call.log = collect Client.WriterImpl.accepted s.1.call.log
  told : .note .onEnd ∈ s.2.call.log
  unbroken : collect toldError s.2.call.log = []

theorem Underway.close_accepted (h : Underway s p) (hsent : p.lane.closeSent = true) :
    collect Client.WriterImpl.closeAttempt s.1.call.log = [()] ∧
      .start .clientWriterClose true ∈ s.1.call.log := by
  obtain ⟨word, hword⟩ := Option.isSome_iff_exists.mp h.asked
  have hattempt := h.writes.closeAttempt
  rw [if_pos hsent, hword] at hattempt
  refine ⟨hattempt, ?_⟩
  have hne : collect Client.WriterImpl.closeAttempt s.1.call.log ≠ [] := by simp [hattempt]
  obtain ⟨e, hmem, he⟩ := (collect_ne_nil _ _).mp hne
  rcases e with ⟨tag, ok⟩ | _ | _ <;> simp at he
  subst he
  cases ok with
  | true => exact hmem
  | false =>
    have hfailed : collect Event.failed s.1.call.log ≠ [] :=
      (collect_ne_nil _ _).mpr ⟨_, hmem, by simp⟩
    exact absurd (h.writes.clean.mp h.live) hfailed

theorem Underway.answers (h : Underway s p) (hsent : p.lane.closeSent = true)
    (hread : Reader.Reading s.2.call) :
    ∃ received, Good s (.inr (.complete 0 true received .OK)) := by
  have htaken : (taken s.2).length ≤ (collect Event.sent s.1.call.log).length := by
    rw [← taken_of_open hread.stop, ← h.reads, h.writes.sent]
    exact p.carried.length_le
  obtain ⟨recvBuf, hreadable, hcarried⟩ := exists_carried (h.close_accepted hsent).2 htaken
  exact ⟨{ recvBuf := recvBuf }, rfl, hreadable, rfl, hcarried .OK⟩

/-- Where nothing good can happen any more, the stream is over. -/
theorem Underway.done (h : Underway s p) (hstuck : (machine client server).Stuck Good s) :
    Done s := by
  have hnone : s.1.call.outstanding = [] := by
    have hclient : (Client.WriterImpl.machine client).Stuck Client.WriterImpl.Completes s.1 := by
      intro label t hgood hstep
      apply hstuck (.inl label) (t, s.2) hgood
      simp [machine, Machine.beside, hstep]
    exact Client.WriterImpl.stuck_outstanding h.running hclient
  obtain ⟨-, hclose⟩ := h.writes.at_rest h.live hnone
  have hsent := hclose h.asked
  have hended : Reader.Ended s.2.call := by
    obtain hempty | ⟨-, hread⟩ | ⟨-, hended⟩ := h.phase
    · refine absurd ?_ (hstuck (.inr .start) (s.1, Reader.start server s.2) trivial)
      simp [machine, Machine.beside, Reader.machine, Reader.step, hempty]
    · obtain ⟨received, hgood⟩ := h.answers hsent hread
      have hstep : ∃ t, Reader.step server s.2 (.complete 0 true received .OK) = some t := by
        simp [Reader.step, Call.complete, hread.read]
      obtain ⟨t, ht⟩ := hstep
      refine absurd ?_ (hstuck _ (s.1, t) hgood)
      simp [machine, Machine.beside, Reader.machine, ht]
    · exact hended
  have hstop : p.chain.stop = some ended := by
    refine h.unbroken.resolve_left fun hopen => hended.stop ?_
    rw [← h.reads, hopen]
  constructor
  · exact hnone
  · exact hended.free
  · exact (h.close_accepted hsent).1
  · rw [heard_items hended.callbacks, ← h.reads, h.writes.accepted, p.items_of_ended hstop]
  · exact (onEnd_stop hended.callbacks).mpr hended.stop
  · rw [toldError_stop hended.callbacks, ← h.reads, hstop]
    rfl

end progress

/-- From every state that a closed stream can be in, if nothing has failed or crashed yet, the
client's batches complete with success, an OK status comes with a response, and the server's
reads bring what grpc carries, a bounded number of steps, in any order, brings the stream to its
end on both sides. -/
theorem finishes_stream {client server : Nat → Bool} (hclient : ∀ k, client k = true)
    (hserver : ∀ k, server k = true) {ls : List Label} {s : State}
    (hrun : (machine client server).run (initial client) ls = some s)
    (hcarried : (machine client server).Along Carried (initial client) ls)
    (hrunning : s.1.crashed = false)
    (hclosed : collect Client.WriterImpl.closeCall s.1.call.log ≠ [])
    (hclean : collect Event.failed s.1.call.log = [])
    (huntold : collect toldError s.2.call.log = []) :
    (machine client server).Finishes Good Done (work s) s := by
  obtain ⟨p, h⟩ := run_joins hrun hcarried
  have hlive : p.lane.broken = false := h.writes.clean.mpr hclean
  have hasked : p.lane.closing.isSome = true := h.writes.asked_of_call hlive hclosed
  have hreader := (Machine.beside_run hrun).2
  have htrace := run_callbacks hreader
  have hunderway : Underway s p := by
    refine ⟨h, hrunning, hlive, hasked, Reader.run_phase hreader, ?_⟩
    rw [h.reads]
    exact unbroken_of_untold htrace huntold
  exact Machine.finishes (I := fun s => ∃ p : Pipe StdString Unit ended, Underway s p)
    (fun s label t h hgood hstep =>
      h.elim fun _ h => (step_underway hclient hserver h hgood hstep).1)
    (fun s label t h hgood hstep =>
      h.elim fun _ h => (step_underway hclient hserver h hgood hstep).2)
    (fun s h hstuck => h.elim fun _ h => h.done hstuck) ⟨p, hunderway⟩

/-- From two messages and a Close, with the server not yet started. -/
theorem finishes_stream_twoMessages :
    ∃ s, (machine (fun _ => true) fun _ => true).run (initial fun _ => true)
        [.inl (.op (.write [1] [])), .inl (.op (.write [2] [])), .inl (.op (.close true []))] =
          some s ∧
      (machine (fun _ => true) fun _ => true).Finishes Good Done 10 s := by
  have hrun : (machine (fun _ => true) fun _ => true).run (initial fun _ => true)
      [.inl (.op (.write [1] [])), .inl (.op (.write [2] [])), .inl (.op (.close true []))] =
        some _ := rfl
  have hcarried : (machine (fun _ => true) fun _ => true).Along Carried (initial fun _ => true)
      [.inl (.op (.write [1] [])), .inl (.op (.write [2] [])), .inl (.op (.close true []))] := by
    iterate 3 rw [Machine.along_cons rfl]
    exact ⟨trivial, trivial, trivial, Machine.along_nil _ _⟩
  exact ⟨_, hrun, finishes_stream (fun _ => rfl) (fun _ => rfl) hrun hcarried rfl (by decide)
    (by decide) (by decide)⟩

end GrpcCbCore.System.ClientStreaming
