import GrpcCbCore.Client.ReaderWriterProgress
import GrpcCbCore.System.BidiStreaming
import GrpcCbCore.System.ClientProgress
import GrpcCbCore.System.ServerProgress

/-! A bi-directional stream that both sides have closed, and on which nothing has failed,
comes to its end by itself: neither direction waits for the other. -/
namespace GrpcCbCore.System.BidiStreaming
open GrpcCbCore.Library

/-- What has begun goes on at either side, batches complete with success, and the callbacks
make no error. A read has the next message, or behind the last one the end of the stream. -/
def Good (s : State) : Label → Prop
  | .inl (.op _) => False
  | .inl (.complete index success received script) =>
      Client.ReaderWriterImpl.Succeeds s.1 (.complete index success received script) ∧
        (s.1.call.outstanding[index]? = some .clientReaderRead →
          Carries (collect Event.sent s.2.2.impl.call.log)
            (collect ServerStreaming.sentStatus s.2.2.impl.call.log ≠ [])
            (Client.ReaderWriterImpl.taken s.1).length received)
  | .inr (.inl .start) => True
  | .inr (.inl (.complete _ success received onMsgStr)) =>
      success = true ∧ received.recvBuf ≠ some .unreadable ∧ onMsgStr.ok = true ∧
        Carries (collect Event.sent s.1.call.log) (.start .clientSendClose true ∈ s.1.call.log)
          (ClientStreaming.taken s.2.1).length received
  | .inr (.inr label) => Server.WriterImpl.Completes s.2.2 label

/-- What is left to do: the batches and messages of either side, the server's calls, and the
requests that either has still to make. -/
def work (s : State) : Nat :=
  Client.ReaderWriterImpl.left s.1 + Server.WriterImpl.left s.2.2 +
    ((collect Client.ReaderWriterImpl.accepted s.1.call.log).length -
      (Server.Reader.chain s.2.1.call.log).items.length) +
    (if (Server.Reader.chain s.2.1.call.log).stop = none then 1 else 0) +
    (if s.2.1.started = true then 0 else 1) +
    ((collect Server.WriterImpl.accepted s.2.2.impl.call.log).length -
      (Client.ReaderWriterImpl.taken s.1).length) +
    (if s.1.readingEnded = true then 0 else 1)

/-- The stream is on its way in both directions: closed, unbroken, and read without an error. -/
structure Flows (client writer : Nat → Bool) (first s : State)
    (up : Pipe StdString Unit ClientStreaming.ended) (down : Pipe StdString Status ()) :
    Prop where
  writes : Client.ReaderWriterImpl.Underway client first.1 s.1 up.lane
  hears : up.chain = Server.Reader.chain s.2.1.call.log
  phase : s.2.1 = {} ∨ Server.Reader.Phase s.2.1
  unbroken : up.chain.stop = none ∨ up.chain.stop = some ClientStreaming.ended
  replies : Server.WriterImpl.Underway writer s.2.2 down.lane
  asked : down.lane.closing.isSome = true
  takes : down.chain.items = Client.ReaderWriterImpl.taken s.1
  stops : down.chain.stop = if s.1.readingEnded = true then some () else none

section progress

variable {client reader writer : Nat → Bool} {first s t : State}
  {up : Pipe StdString Unit ClientStreaming.ended} {down : Pipe StdString Status ()}

theorem Flows.work_eq (h : Flows client writer first s up down) :
    work s = Client.ReaderWriterImpl.left s.1 + Server.WriterImpl.left s.2.2 + up.pending +
      (if s.2.1.started = true then 0 else 1) + down.pending := by
  have hopen : (if down.chain.stop = none then 1 else 0) =
      if s.1.readingEnded = true then 0 else 1 := by
    rw [h.stops]
    cases s.1.readingEnded <;> simp
  simp only [work, Pipe.pending, h.writes.refines.accepted, h.replies.refines.accepted, h.hears,
    h.takes, hopen]
  omega

/-- What a completion of the client is to the second pipe: nothing, or an answer. -/
theorem Flows.exists_taken (h : Flows client writer first s up down) {index : Nat}
    {success : Bool} {received : Received} {script : Client.ReaderWriterImpl.Script}
    (hcarried : s.1.call.outstanding[index]? = some .clientReaderRead →
      Carries (collect Event.sent s.2.2.impl.call.log)
        (collect ServerStreaming.sentStatus s.2.2.impl.call.log ≠ [])
        (Client.ReaderWriterImpl.taken s.1).length received)
    {impl : Client.ReaderWriterImpl.Impl}
    (hstep : Client.ReaderWriterImpl.step client s.1 (.complete index success received script) =
      some impl)
    (hgoes : Client.ReaderWriterImpl.Goes (Client.ReaderWriterImpl.EndsReading s.1
      (.complete index success received script)) s.1 impl) :
    ∃ q : Pipe StdString Status (), q.lane = down.lane ∧
      q.chain.items = Client.ReaderWriterImpl.taken impl ∧
      q.chain.stop = (if impl.readingEnded = true then some () else none) ∧
      Client.ReaderWriterImpl.left impl + q.pending <
        Client.ReaderWriterImpl.left s.1 + down.pending := by
  have hlane (hread : s.1.call.outstanding[index]? = some .clientReaderRead) :
      Carries down.lane.started (down.lane.closeSent = true) down.chain.items.length received := by
    rw [h.takes]
    exact ServerStreaming.carries_lane h.replies (hcarried hread)
  have hopen (hread : s.1.call.outstanding[index]? = some .clientReaderRead) :
      s.1.readingEnded = false ∧ down.chain.stop = none := by
    have hreading := h.writes.reads.unended h.writes.live.ok (List.mem_of_getElem? hread)
    exact ⟨hreading, by simp [h.stops, hreading]⟩
  have hless := hgoes.nears
  rcases hgoes.ends with hsame | ⟨hended, hread, hnone⟩
  · rcases Client.ReaderWriterImpl.step_taken h.writes.refines hstep with
      hidle | ⟨_, _, _, bytes, ⟨⟩, hread, hbytes, htaken⟩
    · refine ⟨down, rfl, h.takes.trans hidle.symm, by rw [hsame, h.stops], ?_⟩
      have hstrict : Client.ReaderWriterImpl.left impl < Client.ReaderWriterImpl.left s.1 := by
        refine hless.resolve_right fun ⟨_, bytes, hmore⟩ => ?_
        simp [hidle] at hmore
      omega
    · obtain ⟨hreading, hstop⟩ := hopen hread
      have hbuf : received.recvBuf = some (.readable bytes) := by
        rcases hrecv : received.recvBuf with _ | _ | _ <;> simp_all
      have hpermits : down.chain.stop = none → down.Permits (.item bytes) := by
        intro _
        simpa [Carries, hbuf, Pipe.Permits] using hlane hread
      have hpending := down.next_pending hpermits hstop
      refine ⟨down.next (.item bytes) hpermits, rfl, ?_, ?_, by omega⟩
      · rw [Pipe.next_chain, Chain.next_item hstop, htaken, h.takes]
      · rw [Pipe.next_chain, Chain.next_item hstop, hsame, hreading]
        exact hstop
  · obtain ⟨-, hstop⟩ := hopen hread
    have hcarries := hlane hread
    simp only [Carries, hnone] at hcarries
    have hpermits : down.chain.stop = none → down.Permits (.stop ()) :=
      fun _ _ => ⟨hcarries.1, down.carried.eq_of_length hcarries.2⟩
    have hpending := down.next_pending hpermits hstop
    have hidle : Client.ReaderWriterImpl.taken impl = Client.ReaderWriterImpl.taken s.1 := by
      rcases Client.ReaderWriterImpl.step_taken h.writes.refines hstep with
        hidle | ⟨_, _, _, bytes, ⟨⟩, _, hbytes, _⟩
      · exact hidle
      · simp [hnone] at hbytes
    refine ⟨down.next (.stop ()) hpermits, rfl, ?_, ?_, by omega⟩
    · rw [Pipe.next_chain, Chain.items_stop, hidle, h.takes]
    · rw [Pipe.next_chain, Chain.next_stop hstop, hended]
      rfl

theorem Flows.client_step (h : Flows client writer first s up down)
    {label : Client.ReaderWriterImpl.Label} (hgood : Good s (.inl label))
    (hstep : (machine client reader writer).step s (.inl label) = some t) :
    (∃ up down, Flows client writer first t up down) ∧ work t < work s := by
  cases label with
  | op op => exact hgood.elim
  | complete index success received script =>
    obtain ⟨hsucceeds, hcarried⟩ := hgood
    obtain ⟨hstep, hsame⟩ := Machine.beside_inl hstep
    have hclient : Client.ReaderWriterImpl.step client s.1
      (.complete index success received script) = some t.1 := hstep
    obtain ⟨hgoes, l, hwrites, hstarted, haccepted, hclosed⟩ := h.writes.goes_on hsucceeds hclient
    obtain ⟨q, hlane, htaken, hstop, hless⟩ := h.exists_taken hcarried hclient hgoes
    have hafter : Flows client writer first t (up.moves hstarted hclosed) q := by
      refine ⟨hwrites, ?_, ?_, h.unbroken, ?_, ?_, htaken, hstop⟩
      · rw [Pipe.moves_chain, hsame, h.hears]
      · rw [hsame]
        exact h.phase
      · rw [hsame, hlane]
        exact h.replies
      · rw [hlane]
        exact h.asked
    refine ⟨⟨_, _, hafter⟩, ?_⟩
    have hpending := up.moves_pending hstarted hclosed haccepted
    rw [h.work_eq, hafter.work_eq, hpending, hsame]
    omega

theorem Flows.reader_step (hreader : ∀ k, reader k = true)
    (h : Flows client writer first s up down) {label : Server.Reader.Label}
    (hgood : Good s (.inr (.inl label)))
    (hstep : (machine client reader writer).step s (.inr (.inl label)) = some t) :
    (∃ up down, Flows client writer first t up down) ∧ work t < work s := by
  obtain ⟨hstep, hclient⟩ := Machine.beside_inr hstep
  obtain ⟨hstep, hwriter⟩ := Machine.beside_inl hstep
  have hafter {q : Pipe StdString Unit ClientStreaming.ended} (hlane : q.lane = up.lane)
      (hchain : q.chain = Server.Reader.chain t.2.1.call.log)
      (hphase : t.2.1 = {} ∨ Server.Reader.Phase t.2.1)
      (hunbroken : q.chain.stop = none ∨ q.chain.stop = some ClientStreaming.ended) :
      Flows client writer first t q down := by
    refine ⟨?_, hchain, hphase, hunbroken, ?_, h.asked, ?_, ?_⟩
    · rw [hclient, hlane]
      exact h.writes
    · rw [hwriter]
      exact h.replies
    · rw [hclient, h.takes]
    · rw [hclient, h.stops]
  cases label with
  | start =>
    have hstart : Server.Reader.step reader s.2.1 .start = some t.2.1 := hstep
    obtain ⟨hnew, hphase, hchain⟩ := ClientStreaming.start_goes hreader h.phase hstart
    have hflows := hafter rfl (h.hears.trans hchain.symm) (.inr hphase) h.unbroken
    refine ⟨⟨_, _, hflows⟩, ?_⟩
    rw [h.work_eq, hflows.work_eq, hclient, hwriter, hnew,
      ClientStreaming.started_of_phase hphase]
    simp
  | complete index success received onMsgStr =>
    obtain ⟨rfl, hreadable, hok, hcarried⟩ := hgood
    obtain ⟨q, hlane, hchain, hphase, hstarted, hunbroken, hpending⟩ := ClientStreaming.read_goes
      hreader h.hears h.phase h.writes.refines.sent (closed_of_start h.writes.refines) hreadable
      hok hcarried hstep
    have hflows := hafter hlane hchain hphase hunbroken
    refine ⟨⟨_, _, hflows⟩, ?_⟩
    rw [h.work_eq, hflows.work_eq, hclient, hwriter, hstarted]
    omega

theorem Flows.writer_step (h : Flows client writer first s up down)
    {label : Server.WriterImpl.Label} (hgood : Good s (.inr (.inr label)))
    (hstep : (machine client reader writer).step s (.inr (.inr label)) = some t) :
    (∃ up down, Flows client writer first t up down) ∧ work t < work s := by
  obtain ⟨hstep, hclient⟩ := Machine.beside_inr hstep
  obtain ⟨hstep, hreader⟩ := Machine.beside_inr hstep
  obtain ⟨l, hsteps, hreplies, hleft⟩ := h.replies.goes_on hgood hstep
  obtain ⟨hasked, haccepted⟩ := hsteps.asked h.asked
  have hafter : Flows client writer first t up (down.sends hsteps) := by
    refine ⟨?_, ?_, ?_, h.unbroken, hreplies, ?_, ?_, ?_⟩
    · rw [hclient]
      exact h.writes
    · rw [hreader, h.hears]
    · rw [hreader]
      exact h.phase
    · rw [Pipe.sends_lane, hasked]
      exact h.asked
    · rw [hclient, Pipe.sends_chain, h.takes]
    · rw [hclient, Pipe.sends_chain, h.stops]
  refine ⟨⟨_, _, hafter⟩, ?_⟩
  have hpending : (down.sends hsteps).pending = down.pending :=
    down.moves_pending hsteps.started_mono hsteps.closed haccepted
  rw [h.work_eq, hafter.work_eq, hpending, hclient, hreader]
  omega

private theorem step_flows (hreader : ∀ k, reader k = true)
    (h : Flows client writer first s up down) {label : Label} (hgood : Good s label)
    (hstep : (machine client reader writer).step s label = some t) :
    (∃ up down, Flows client writer first t up down) ∧ work t < work s := by
  rcases label with label | label | label
  · exact h.client_step hgood hstep
  · exact h.reader_step hreader hgood hstep
  · exact h.writer_step hgood hstep

/-- Both directions are over: the server's calls have returned, neither side waits for
anything, and each has heard all that the other has accepted, and the end of it, without an
error; and the client's status callback, if it is set, was told OK, whatever the status that
the server has closed with. -/
structure Done (first s : State) : Prop where
  server : Server.WriterImpl.Rested s.2.2
  client : Client.ReaderWriterImpl.Rested first.1 s.1
  free : s.2.1.call.outstanding = []
  heard : collect ClientStreaming.heard s.2.1.call.log =
    collect Client.ReaderWriterImpl.accepted s.1.call.log
  toldEnd : .note .onEnd ∈ s.2.1.call.log
  unbroken : collect ClientStreaming.toldError s.2.1.call.log = []
  brought : Client.ReaderWriterImpl.taken s.1 =
    collect Server.WriterImpl.accepted s.2.2.impl.call.log
  told : s.1.msgCb = true → collect Client.ReaderWriterImpl.heard s.1.call.log =
    collect Server.WriterImpl.accepted s.2.2.impl.call.log

theorem Flows.client_done (h : Flows client writer first s up down) {word : Status}
    (hsent : word ∈ collect ServerStreaming.sentStatus s.2.2.impl.call.log)
    (hstuck : (machine client reader writer).Stuck Good s) : s.1.call.outstanding = [] := by
  cases hout : s.1.call.outstanding with
  | nil => rfl
  | cons tag rest =>
    have htaken : (Client.ReaderWriterImpl.taken s.1).length ≤
        (collect Event.sent s.2.2.impl.call.log).length := by
      rw [← h.takes, h.replies.refines.sent]
      exact down.carried.length_le
    obtain ⟨recvBuf, hreadable, hcarried⟩ := exists_carried (List.ne_nil_of_mem hsent) htaken
    have hgood : Good s (.inl (.complete 0 true { recvBuf := recvBuf } {})) :=
      ⟨⟨rfl, ⟨rfl, by simp, by simp⟩, fun _ => hreadable⟩, fun _ => hcarried .OK⟩
    obtain ⟨impl, hstep⟩ : ∃ impl, Client.ReaderWriterImpl.step client s.1
        (.complete 0 true { recvBuf := recvBuf } {}) = some impl := by
      simp [Client.ReaderWriterImpl.step, Call.complete, hout]
    refine absurd ?_ (hstuck _ (impl, s.2) hgood)
    simp [machine, Machine.beside, Client.ReaderWriterImpl.machine, hstep]

theorem Flows.reader_done (h : Flows client writer first s up down)
    (hsent : up.lane.closeSent = true) (hstuck : (machine client reader writer).Stuck Good s) :
    Server.Reader.Ended s.2.1.call := by
  obtain hempty | ⟨-, hread⟩ | ⟨-, hended⟩ := h.phase
  · refine absurd ?_ (hstuck (.inr (.inl .start))
      (s.1, Server.Reader.start reader s.2.1, s.2.2) trivial)
    simp [machine, Machine.beside, Server.Reader.machine, Server.Reader.step, hempty]
  · have htaken : (ClientStreaming.taken s.2.1).length ≤
        (collect Event.sent s.1.call.log).length := by
      rw [← ClientStreaming.taken_of_open hread.stop, ← h.hears, h.writes.refines.sent]
      exact up.carried.length_le
    obtain ⟨recvBuf, hreadable, hcarried⟩ :=
      exists_carried (h.writes.close_accepted hsent) htaken
    obtain ⟨t, hstep⟩ : ∃ t, Server.Reader.step reader s.2.1
        (.complete 0 true { recvBuf := recvBuf } .OK) = some t := by
      simp [Server.Reader.step, Call.complete, hread.read]
    refine absurd ?_ (hstuck (.inr (.inl (.complete 0 true { recvBuf := recvBuf } .OK)))
      (s.1, t, s.2.2) ⟨rfl, hreadable, rfl, hcarried .OK⟩)
    simp [machine, Machine.beside, Server.Reader.machine, hstep]
  · exact hended

/-- Where nothing good can happen any more, both directions are over. -/
theorem Flows.done (h : Flows client writer first s up down)
    (hstuck : (machine client reader writer).Stuck Good s) : Done first s := by
  have hrested : Server.WriterImpl.Rested s.2.2 := by
    apply h.replies.rested
    intro label t hgood hstep
    apply hstuck (.inr (.inr label)) (s.1, s.2.1, t) hgood
    simp [machine, Machine.beside, hstep]
  obtain ⟨word, -, -, -, hsent⟩ := ServerStreaming.sent_of_rested h.replies h.asked hrested
  obtain ⟨hclient, hclosed⟩ := h.writes.rested (h.client_done hsent hstuck)
  have hended := h.reader_done hclosed hstuck
  have hup : up.chain.stop = some ClientStreaming.ended := by
    refine h.unbroken.resolve_left fun hopen => hended.stop ?_
    rw [← h.hears, hopen]
  have hdown : down.chain.stop = some () := by
    rw [h.stops, if_pos hclient.ended.1]
  have hbrought : Client.ReaderWriterImpl.taken s.1 =
      collect Server.WriterImpl.accepted s.2.2.impl.call.log := by
    rw [← h.takes, down.items_of_ended hdown, h.replies.refines.accepted]
  constructor
  · exact hrested
  · exact hclient
  · exact hended.free
  · rw [ClientStreaming.heard_items hended.callbacks, ← h.hears, h.writes.refines.accepted,
      up.items_of_ended hup]
  · exact (ClientStreaming.onEnd_stop hended.callbacks).mpr hended.stop
  · rw [ClientStreaming.toldError_stop hended.callbacks, ← h.hears, hup]
    rfl
  · exact hbrought
  · intro hmsgCb
    exact (h.writes.hears.all h.writes.live.ok hmsgCb).trans hbrought

end progress

/-- From every state that a bi-directional stream can be in once both sides have closed, if
the client still reads and nothing has failed: whatever the order in which grpc completes
what it carries and the server's threads go on, after a bounded number of steps both
directions are over. -/
theorem comes_to_rest {client reader writer : Nat → Bool} {statusCb : Bool} {n : Nat}
    {ls : List Label} {s : State}
    (hrun : (machine client reader writer).run (initial statusCb n) ls = some s)
    (hcarried : (machine client reader writer).Along Carried (initial statusCb n) ls)
    (hlive : s.1.status.ok = true) (hreads : .clientReaderRead ∈ s.1.call.outstanding)
    (hclosed : collect Client.ReaderWriterImpl.closeCall s.1.call.log ≠ [])
    (huntold : collect ClientStreaming.toldError s.2.1.call.log = [])
    (hreplied : collect Server.WriterImpl.closeCall s.2.2.impl.call.log ≠ [])
    (hclean : collect Event.refused s.2.2.impl.call.log = [])
    (hclient : ∀ k, s.1.call.starts ≤ k → client k = true) (hreader : ∀ k, reader k = true)
    (hwriter : Server.WriterImpl.Grants writer s.2.2.impl) :
    (machine client reader writer).Finishes Good (Done s) (work s) s := by
  obtain ⟨up, down, h⟩ := run_joins hrun hcarried
  obtain ⟨hfirst, hrest⟩ := Machine.beside_run hrun
  obtain ⟨hsecond, hthird⟩ := Machine.beside_run hrest
  have hwrites : Client.ReaderWriterImpl.Underway client s.1 s.1 up.lane :=
    Client.ReaderWriterImpl.run_underway hfirst h.writes hlive hreads hclosed hclient
  have hreplies : Server.WriterImpl.Underway writer s.2.2 down.lane :=
    ⟨h.replies, Server.WriterImpl.run_ages hthird, hclean, hwriter⟩
  have hasked : down.lane.closing.isSome = true := by
    rw [← h.replies.firstClose hreplies.live, List.isSome_head?]
    simpa using hreplied
  have hunbroken : up.chain.stop = none ∨ up.chain.stop = some ClientStreaming.ended := by
    rw [← h.hears]
    exact ClientStreaming.unbroken_of_untold (ClientStreaming.run_callbacks hsecond) huntold
  have hstop : down.chain.stop = if s.1.readingEnded = true then some () else none := by
    rw [h.takes, if_neg (by simp [hwrites.reads.unended hlive hreads])]
  have hflows : Flows client writer s s up down :=
    ⟨hwrites, h.hears.symm, Server.Reader.run_phase hsecond, hunbroken, hreplies, hasked,
      by rw [h.takes], hstop⟩
  apply Machine.finishes (I := fun t => ∃ up down, Flows client writer s t up down)
  · rintro t label u ⟨up, down, h⟩ hgood hstep
    exact (step_flows hreader h hgood hstep).1
  · rintro t label u ⟨up, down, h⟩ hgood hstep
    exact (step_flows hreader h hgood hstep).2
  · rintro t ⟨up, down, h⟩ hstuck
    exact h.done hstuck
  · exact ⟨up, down, hflows⟩

/-- Both sides have closed with messages under way, and the server has not begun to read. -/
def closedBoth : List Label :=
  [.inl (.op (.readEach true [])), .inl (.op (.write [1] [])), .inl (.op (.write [2] [])),
    .inl (.op (.closeWriting [])), .inr (.inr (.call 0 (.asyncWrite [3]))), .inr (.inr (.run 0)),
    .inr (.inr (.call 0 (.asyncClose (.internalError [4])))), .inr (.inr (.run 0))]

theorem comes_to_rest_closedBoth :
    ∃ s, (machine (fun _ => true) (fun _ => true) fun _ => true).run (initial true 1) closedBoth =
        some s ∧
      (machine (fun _ => true) (fun _ => true) fun _ => true).Finishes Good (Done s) 16 s := by
  have hrun : (machine (fun _ => true) (fun _ => true) fun _ => true).run (initial true 1)
      closedBoth = some _ := rfl
  have hcarried : (machine (fun _ => true) (fun _ => true) fun _ => true).Along Carried
      (initial true 1) closedBoth := by
    rw [closedBoth]
    iterate 8 rw [Machine.along_cons rfl]
    exact ⟨trivial, trivial, trivial, trivial, trivial, trivial, trivial, trivial,
      Machine.along_nil _ _⟩
  exact ⟨_, hrun, comes_to_rest hrun hcarried rfl (by decide) (by decide) (by decide) (by decide)
    (by decide) (fun _ _ => rfl) (fun _ => rfl) fun _ _ => rfl⟩

end GrpcCbCore.System.BidiStreaming
