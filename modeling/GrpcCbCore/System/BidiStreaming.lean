import GrpcCbCore.Client.ReaderWriterHears
import GrpcCbCore.Server.WriterDelivery
import GrpcCbCore.System.ClientStreaming

/-! A bi-directional stream from end to end: a `ClientAsyncReaderWriter`, grpc, and the
`ServerReader` and `ServerWriter` of the call. Each direction is a pipe, and neither
waits for the other. -/
namespace GrpcCbCore.System.BidiStreaming
open GrpcCbCore.Library

abbrev State := Client.ReaderWriterImpl.Impl × Server.Reader.ServerReader × Server.WriterImpl.World

abbrev Label :=
  Client.ReaderWriterImpl.Label ⊕ Server.Reader.Label ⊕ Server.WriterImpl.Label

/-- `client`, `reader` and `writer` are what grpc answers to the starts of each. -/
def machine (client reader writer : Nat → Bool) : Machine State Label :=
  (Client.ReaderWriterImpl.machine client).beside
    ((Server.Reader.machine reader).beside (Server.WriterImpl.machine writer))

def initial (statusCb : Bool) (n : Nat) : State :=
  (Client.ReaderWriterImpl.clientAsyncReaderWriterImpl statusCb, {}, Server.WriterImpl.initial n)

/-- grpc carries both streams: a read that completes with a message has the next one, and
one of the server that completes without has all. -/
def Carried (s : State) : Label → Prop
  | .inl (.complete index true received _) =>
      s.1.call.outstanding[index]? = some .clientReaderRead →
        ∀ bytes, received.message? = some bytes →
          (collect Event.sent s.2.2.impl.call.log)[(Client.ReaderWriterImpl.taken s.1).length]? =
            some bytes
  | .inr (.inl (.complete _ true received _)) =>
      Carries (collect Event.sent s.1.call.log) (.start .clientSendClose true ∈ s.1.call.log)
        (ClientStreaming.taken s.2.1).length received
  | _ => True

/-- The two pipes. The client's reads stop its half of the second only with the client. -/
structure Joins (s : State) (up : Pipe StdString Unit ClientStreaming.ended)
    (down : Pipe StdString Status ()) : Prop where
  writes : Client.ReaderWriterImpl.Refines s.1 up.lane
  hears : Server.Reader.chain s.2.1.call.log = up.chain
  replies : Server.WriterImpl.Refines s.2.2.impl down.lane
  takes : down.chain = { items := Client.ReaderWriterImpl.taken s.1 }

section joins

variable {client reader writer : Nat → Bool} {s t : State}
  {up : Pipe StdString Unit ClientStreaming.ended} {down : Pipe StdString Status ()}

theorem closed_of_start {impl : Client.ReaderWriterImpl.Impl} {l : Lane StdString Unit}
    (h : Client.ReaderWriterImpl.Refines impl l)
    (hstart : .start .clientSendClose true ∈ impl.call.log) : l.closeSent = true := by
  have hattempt := h.closeAttempt
  by_contra hunsent
  rw [if_neg hunsent] at hattempt
  exact (collect_ne_nil _ _).mpr ⟨_, hstart, by simp⟩ hattempt

theorem Joins.client_step (h : Joins s up down) {label : Client.ReaderWriterImpl.Label}
    (hcarried : Carried s (.inl label))
    (hstep : (machine client reader writer).step s (.inl label) = some t) :
    ∃ up down, Joins t up down := by
  obtain ⟨hstep, hsame⟩ := Machine.beside_inl hstep
  have hclient : Client.ReaderWriterImpl.step client s.1 label = some t.1 := hstep
  obtain ⟨l, hwrites⟩ := Client.ReaderWriterImpl.step_refines h.writes hclient
  obtain ⟨hstarted, hclosed⟩ :=
    h.writes.started_grows hwrites (Client.ReaderWriterImpl.step_adds h.writes hclient).1
  rcases Client.ReaderWriterImpl.step_taken h.writes hclient with
    hnone | ⟨index, received, script, bytes, rfl, hread, hbytes, htaken⟩
  · exact ⟨up.moves hstarted hclosed, down, hwrites, by rw [hsame]; exact h.hears,
      by rw [hsame]; exact h.replies, by rw [hnone]; exact h.takes⟩
  · have hpermits : down.chain.stop = none → down.Permits (.item bytes) := by
      intro _
      have hnext := hcarried hread bytes hbytes
      rw [h.replies.sent] at hnext
      simpa [Pipe.Permits, h.takes] using hnext
    refine ⟨up.moves hstarted hclosed, down.next (.item bytes) hpermits, hwrites,
      by rw [hsame]; exact h.hears, by rw [hsame]; exact h.replies, ?_⟩
    rw [Pipe.next_chain, h.takes, htaken, Chain.next_item rfl]

theorem Joins.server_step (h : Joins s up down)
    {label : Server.Reader.Label ⊕ Server.WriterImpl.Label} (hcarried : Carried s (.inr label))
    (hstep : (machine client reader writer).step s (.inr label) = some t) :
    ∃ up down, Joins t up down := by
  obtain ⟨hstep, hsame⟩ := Machine.beside_inr hstep
  cases label with
  | inl label =>
    obtain ⟨hstep, hrest⟩ := Machine.beside_inl hstep
    obtain ⟨q, hlane, hchain⟩ := ClientStreaming.exists_read h.hears.symm h.writes.sent
      (closed_of_start h.writes) (by rintro index received onMsgStr rfl; exact hcarried) hstep
    exact ⟨q, down, by rw [hsame, hlane]; exact h.writes, hchain.symm,
      by rw [hrest]; exact h.replies, by rw [hsame]; exact h.takes⟩
  | inr label =>
    obtain ⟨hstep, hrest⟩ := Machine.beside_inr hstep
    obtain ⟨l, hsteps, hreplies⟩ := Server.WriterImpl.step_refines h.replies hstep
    exact ⟨up, down.sends hsteps, by rw [hsame]; exact h.writes, by rw [hrest]; exact h.hears,
      hreplies, by rw [hsame, Pipe.sends_chain]; exact h.takes⟩

/-- Every run of the three is one of two pipes. -/
theorem run_joins {statusCb : Bool} {n : Nat} {ls : List Label}
    (hrun : (machine client reader writer).run (initial statusCb n) ls = some s)
    (hcarried : (machine client reader writer).Along Carried (initial statusCb n) ls) :
    ∃ up down, Joins s up down := by
  refine Machine.invariant_along (M := machine client reader writer) (P := Carried)
    (I := fun s => ∃ up down, Joins s up down) ?_ ?_ hcarried hrun
  · rintro s label t ⟨up, down, h⟩ hcarried hstep
    cases label with
    | inl label => exact h.client_step hcarried hstep
    | inr label => exact h.server_step hcarried hstep
  · exact ⟨Pipe.fresh, Pipe.fresh, Client.ReaderWriterImpl.refines_fresh statusCb, rfl,
      Server.WriterImpl.refines_fresh, rfl⟩

end joins

/-- Each side hears a beginning of what the other has accepted to write, each message once
and in order, whatever the other direction does. If the server is told the end, and no
error, the client has closed the writing, and the server has heard all. -/
theorem both_directions {client reader writer : Nat → Bool} {statusCb : Bool} {n : Nat}
    {ls : List Label} {s : State}
    (hrun : (machine client reader writer).run (initial statusCb n) ls = some s)
    (hcarried : (machine client reader writer).Along Carried (initial statusCb n) ls) :
    collect Client.ReaderWriterImpl.heard s.1.call.log <+:
      collect Server.WriterImpl.accepted s.2.2.impl.call.log ∧
    collect ClientStreaming.heard s.2.1.call.log <+:
      collect Client.ReaderWriterImpl.accepted s.1.call.log ∧
    (.note .onEnd ∈ s.2.1.call.log → collect ClientStreaming.toldError s.2.1.call.log = [] →
      collect ClientStreaming.heard s.2.1.call.log =
        collect Client.ReaderWriterImpl.accepted s.1.call.log ∧
      collect Client.ReaderWriterImpl.closeCall s.1.call.log ≠ []) := by
  obtain ⟨up, down, h⟩ := run_joins hrun hcarried
  obtain ⟨hclient, hserver⟩ := Machine.beside_run hrun
  have htaken : Client.ReaderWriterImpl.taken s.1 <+: down.lane.accepted := by
    have hitems := down.items_initial
    rwa [h.takes] at hitems
  obtain ⟨hinitial, hall⟩ := ClientStreaming.told_of_pipe h.hears.symm
    (ClientStreaming.run_callbacks (Machine.beside_run hserver).1)
  rw [h.replies.accepted, h.writes.accepted]
  refine ⟨(Client.ReaderWriterImpl.run_hears hclient).first.trans htaken, hinitial,
    fun hend herror => ?_⟩
  obtain ⟨hheard, hsent⟩ := hall hend herror
  refine ⟨hheard, ?_⟩
  have hattempt := h.writes.closeAttempt
  rw [if_pos hsent] at hattempt
  obtain ⟨word, hword⟩ := Option.isSome_iff_exists.mp (up.lane.close_last hsent).2.2
  have hne : collect Client.ReaderWriterImpl.closeAttempt s.1.call.log ≠ [] := by
    simp [hattempt, hword]
  obtain ⟨e, hmem, he⟩ := (collect_ne_nil _ _).mp hne
  obtain ⟨before, after, hlog⟩ := List.append_of_mem hmem
  rw [hlog]
  exact collect_ne_nil_append _ _ _ (h.writes.closes_last before e after hlog he).1

/-- A message each way, and the client's half-close. -/
def oneEach : List Label :=
  [.inl (.op (.readEach true [])), .inr (.inl .start), .inl (.op (.write [1] [])),
    .inr (.inr (.call 0 (.asyncWrite [2]))), .inr (.inr (.run 0)),
    .inr (.inl (.complete 0 true { recvBuf := some (.readable [1]) } .OK)),
    .inl (.complete 2 true { recvBuf := some (.readable [2]) } {}),
    .inl (.op (.closeWriting [])), .inl (.complete 2 true {} {}),
    .inr (.inl (.complete 0 true {} .OK))]

theorem both_directions_oneEach :
    ∃ s, (machine (fun _ => true) (fun _ => true) fun _ => true).run (initial true 1) oneEach =
        some s ∧
      collect Client.ReaderWriterImpl.heard s.1.call.log = [[2]] ∧
      collect ClientStreaming.heard s.2.1.call.log = [[1]] ∧
      collect ClientStreaming.heard s.2.1.call.log =
        collect Client.ReaderWriterImpl.accepted s.1.call.log := by
  have hrun : (machine (fun _ => true) (fun _ => true) fun _ => true).run (initial true 1)
      oneEach = some _ := rfl
  have hcarried : (machine (fun _ => true) (fun _ => true) fun _ => true).Along Carried
      (initial true 1) oneEach := by
    rw [oneEach]
    iterate 10 rw [Machine.along_cons rfl]
    refine ⟨trivial, trivial, trivial, trivial, trivial, ?_, ?_, trivial, ?_, ?_,
      Machine.along_nil _ _⟩
    · exact rfl
    · rintro - bytes ⟨⟩
      rfl
    · rintro ⟨⟩
    · exact ⟨by decide, rfl⟩
  exact ⟨_, hrun, rfl, rfl, ((both_directions hrun hcarried).2.2 (by decide) rfl).1⟩

end GrpcCbCore.System.BidiStreaming
