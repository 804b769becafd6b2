import Mathlib.Data.List.Induction
import GrpcCbCore.Client.ReaderCompletions
import GrpcCbCore.Server.WriterDelivery
import GrpcCbCore.Library.Beside
import GrpcCbCore.Library.Pipe

/-! A server stream from end to end: the threads of a `ServerWriter`, grpc, and the
`ClientAsyncReader` of the call. Together they are a pipe, which ends with a status OK. -/
namespace GrpcCbCore.System.ServerStreaming
open GrpcCbCore.Library GrpcCbCore.Client

abbrev State := Server.WriterImpl.World × ReaderImpl.Impl

abbrev Label := Server.WriterImpl.Label ⊕ ReaderImpl.Label

/-- `server` and `client` are what grpc answers to the starts of either side. -/
def machine (server client : Nat → Bool) : Machine State Label :=
  (Server.WriterImpl.machine server).beside (ReaderImpl.machine client)

def initial (n : Nat) (request : StdString) : State :=
  (Server.WriterImpl.initial n, ReaderImpl.clientAsyncReaderImpl request)

def taken (reader : ReaderImpl.Impl) : List StdString :=
  collect (Event.brought .clientReaderRead) reader.call.log

@[simp] def receivedOK : Event ReaderImpl.Note → Option Unit
  | .complete (.clientReaderAsyncRecvStatus _) true received =>
      if received.status.ok then some () else none
  | _ => none

@[simp] def sentOK : Event Server.WriterImpl.Note → Option Status
  | .start (.serverWriterSendStatus status _) true => if status.ok then some status else none
  | _ => none

/-- grpc carries the stream. A read may bring no message also because the call has
failed; then the status is not OK: that one comes from the server only, behind all its
messages. -/
def Carried (s : State) : Label → Prop
  | .inr (.complete index true received _) =>
      match s.2.call.outstanding[index]? with
      | some .clientReaderRead => ∀ bytes, received.message? = some bytes →
          (collect Event.sent s.1.impl.call.log)[(taken s.2).length]? = some bytes
      | some (.clientReaderAsyncRecvStatus _) => received.status.ok = true →
          collect sentOK s.1.impl.call.log ≠ [] ∧
            taken s.2 = collect Event.sent s.1.impl.call.log
      | _ => True
  | _ => True

/-- The stream as it is received. -/
def view (reader : ReaderImpl.Impl) : Chain StdString Unit where
  items := taken reader
  stop := (collect receivedOK reader.call.log).head?

/-- The pipe of the two sides. -/
structure Joins (s : State) (p : Pipe StdString Status ()) : Prop where
  writes : Server.WriterImpl.Refines s.1.impl p.lane
  reads : p.chain = view s.2
  phase : (∃ request, s.2 = ReaderImpl.clientAsyncReaderImpl request) ∨
    ∃ msgCb statusCb, ReaderImpl.Phase s.2 msgCb statusCb
  ok : p.chain.stop = some () → ∃ status, p.lane.closing = some status ∧ status.ok = true

section reader

variable {grpc : Nat → Bool} {s t : ReaderImpl.Impl} {msgCb statusCb : Callback}

private theorem view_same (h : t.call.completions = s.call.completions) : view t = view s := by
  unfold view taken
  rw [Call.collect_same _ h, Call.collect_same _ h]
  · rintro (_ | _ | _) <;> simp
  · rintro (_ | _ | _) <;> simp

private theorem view_open (h : collect ReaderImpl.recvStatusResult s.call.log = []) :
    (view s).stop = none := by
  have hnone : collect receivedOK s.call.log = [] := by
    apply collect_eq_nil
    intro e he
    have hresult : ReaderImpl.recvStatusResult e = none := by
      simpa using List.filterMap_eq_nil_iff.mp h e he
    rcases e with _ | ⟨tag, _ | _, received⟩ | _
    case complete.true => cases tag <;> simp_all
    all_goals simp
  simp [view, hnone]

private theorem open_of_busy (h : ReaderImpl.Phase s msgCb statusCb) {tag : CqTag}
    (hmem : tag ∈ s.call.outstanding) (hbusy : ReaderImpl.busy tag = true) :
    (view s).stop = none := by
  cases h with
  | reading _ _ _ _ h => exact view_open h.unreceived
  | receiving _ h => exact view_open h.unreceived
  | done _ h =>
    have hfound : tag ∈ s.call.outstanding.filter ReaderImpl.busy :=
      List.mem_filter.mpr ⟨hmem, hbusy⟩
    simp [h.free] at hfound

def outcome (tag : CqTag) (success : Bool) (received : Received) :
    Option (Outcome StdString Unit) :=
  match tag, success with
  | .clientReaderRead, true => received.message?.map .item
  | .clientReaderAsyncRecvStatus _, true => if received.status.ok then some (.stop ()) else none
  | _, _ => none

private theorem view_completed (h : ReaderImpl.Phase s msgCb statusCb) {tag : CqTag}
    {success : Bool} {received : Received} (hmem : tag ∈ s.call.outstanding)
    (hmore : t.call.completions = s.call.completions ++ [(tag, success, received)]) :
    view t = (view s).more (outcome tag success received).toList := by
  have htaken : taken t = taken s ++ (Event.brought .clientReaderRead
      (.complete tag success received : Event ReaderImpl.Note)).toList :=
    Call.collect_completed (by rintro (_ | _ | _) <;> simp) hmore
  have hreceived : collect receivedOK t.call.log = collect receivedOK s.call.log ++
      (receivedOK (.complete tag success received)).toList :=
    Call.collect_completed (by rintro (_ | _ | _) <;> simp) hmore
  cases tag with
  | clientReaderRead =>
    have hopen := open_of_busy h hmem rfl
    cases success with
    | false => simp_all [view, outcome]
    | true =>
      cases hmessage : received.message? with
      | none => simp_all [view, outcome]
      | some bytes =>
        simp only [outcome, hmessage, Option.map_some, Option.toList_some, Chain.more_cons,
          Chain.more_nil, Chain.next_item hopen]
        simp_all [view]
  | clientReaderAsyncRecvStatus statusCb =>
    have hopen := open_of_busy h hmem rfl
    cases success with
    | false => simp_all [view, outcome]
    | true =>
      cases hok : received.status.ok with
      | false => simp_all [view, outcome]
      | true =>
        simp only [outcome, hok, if_true, Option.toList_some, Chain.more_cons,
          Chain.more_nil, Chain.next_stop hopen]
        simp_all [view]
  | _ => cases success <;> simp_all [view, outcome]

end reader

section joins

variable {server client : Nat → Bool} {s t : State} {p : Pipe StdString Status ()}

theorem Joins.closed (h : Joins s p) (hsent : collect sentOK s.1.impl.call.log ≠ []) :
    p.lane.closeSent = true ∧ ∃ status, p.lane.closing = some status ∧ status.ok = true := by
  obtain ⟨e, hmem, he⟩ := (collect_ne_nil _ _).mp hsent
  obtain ⟨status, hattempt, hok⟩ :
      ∃ status, Event.statusAttempt e = some status ∧ status.ok = true := by
    rcases e with ⟨tag, _ | _⟩ | _ | _
    case start.true => cases tag <;> simp at he ⊢; exact he
    all_goals simp at he
  have hfound : status ∈ collect Event.statusAttempt s.1.impl.call.log :=
    List.mem_filterMap.mpr ⟨e, hmem, hattempt⟩
  rw [h.writes.statusAttempt] at hfound
  cases hclosed : p.lane.closeSent with
  | false => simp [hclosed] at hfound
  | true =>
    rw [hclosed, if_pos rfl, Option.mem_toList] at hfound
    exact ⟨rfl, status, hfound, hok⟩

theorem Joins.permits (h : Joins s p) {index : Nat} {success : Bool} {received : Received}
    {script : ReaderImpl.Script} {tag : CqTag} {o : Outcome StdString Unit}
    (hcarried : Carried s (.inr (.complete index success received script)))
    (htag : s.2.call.outstanding[index]? = some tag) (ho : outcome tag success received = some o) :
    p.Permits o := by
  have hitems : p.chain.items = taken s.2 := by rw [h.reads, view]
  have hsent := h.writes.sent
  cases success with
  | false => cases tag <;> simp [outcome] at ho
  | true =>
    simp only [Carried, htag] at hcarried
    cases tag <;> simp only [outcome, reduceCtorEq, Option.map_eq_some_iff,
      Option.ite_none_right_eq_some, Option.some.injEq] at ho
    case clientReaderRead =>
      obtain ⟨bytes, hbytes, rfl⟩ := ho
      simpa [Pipe.Permits, hitems, ← hsent] using hcarried bytes hbytes
    case clientReaderAsyncRecvStatus =>
      obtain ⟨hok, rfl⟩ := ho
      obtain ⟨hclosed, hall⟩ := hcarried hok
      exact fun _ => ⟨(h.closed hclosed).1, by rw [hitems, hall, hsent]⟩

/-- The end of the stream is a status OK of the server. -/
theorem Joins.ended_ok (h : Joins s p) {index : Nat} {success : Bool} {received : Received}
    {script : ReaderImpl.Script} {tag : CqTag}
    (hcarried : Carried s (.inr (.complete index success received script)))
    (htag : s.2.call.outstanding[index]? = some tag)
    (ho : outcome tag success received = some (.stop ())) :
    ∃ status, p.lane.closing = some status ∧ status.ok = true := by
  cases success with
  | false => cases tag <;> simp [outcome] at ho
  | true =>
    simp only [Carried, htag] at hcarried
    cases tag <;> simp only [outcome, reduceCtorEq, Option.map_eq_some_iff, and_false,
      exists_false, Option.ite_none_right_eq_some, and_true] at ho
    exact (h.closed (hcarried ho).1).2

theorem Joins.read_step (h : Joins s p) {label : ReaderImpl.Label}
    (hcarried : Carried s (.inr label))
    (hstep : (machine server client).step s (.inr label) = some t) :
    ∃ q : Pipe StdString Status (), Joins t q := by
  obtain ⟨hstep, hsame⟩ := Machine.beside_inr hstep
  have hread : ReaderImpl.step client s.2 label = some t.2 := hstep
  rcases h.phase with ⟨request, hfresh⟩ | ⟨msgCb, statusCb, hphase⟩
  · cases label with
    | complete index success received script =>
      rw [hfresh] at hread
      simp [ReaderImpl.step, ReaderImpl.clientAsyncReaderImpl, Call.complete] at hread
    | op op =>
      cases op with
      | start msgCb statusCb ops =>
        have hstarted : ReaderImpl.Phase t.2 msgCb statusCb := by
          rw [← Option.some.inj hread, hfresh]
          exact ReaderImpl.start_phase rfl rfl rfl ops
        have hview : view t.2 = view s.2 := by
          apply view_same
          rw [← Option.some.inj hread]
          exact ReaderImpl.start_completions ops msgCb statusCb
        exact ⟨p, by rw [hsame]; exact h.writes, h.reads.trans hview.symm,
          .inr ⟨msgCb, statusCb, hstarted⟩, h.ok⟩
  · have hstarted : s.2.isStarted = true := by cases hphase <;> assumption
    have hnext := ReaderImpl.step_phase hphase hread
    rcases ReaderImpl.step_completions (.inl hstarted) hread with hnone |
      ⟨index, success, received, script, tag, rfl, htag, hmore⟩
    · exact ⟨p, by rw [hsame]; exact h.writes, h.reads.trans (view_same hnone).symm,
        .inr ⟨msgCb, statusCb, hnext⟩, h.ok⟩
    · have hview := view_completed hphase (List.mem_of_getElem? htag) hmore
      cases ho : outcome tag success received with
      | none =>
        rw [ho, Option.toList_none, Chain.more_nil] at hview
        exact ⟨p, by rw [hsame]; exact h.writes, h.reads.trans hview.symm,
          .inr ⟨msgCb, statusCb, hnext⟩, h.ok⟩
      | some o =>
        rw [ho, Option.toList_some, Chain.more_cons, Chain.more_nil] at hview
        refine ⟨p.next o fun _ => h.permits hcarried htag ho, by rw [hsame]; exact h.writes, ?_,
          .inr ⟨msgCb, statusCb, hnext⟩, fun hend => ?_⟩
        · rw [Pipe.next_chain, h.reads, hview]
        · cases o with
          | stop reason => exact h.ended_ok hcarried htag ho
          | item m =>
            refine h.ok ?_
            rw [Pipe.next_chain] at hend
            rcases hstop : p.chain.stop with _ | reason
            · simp [Chain.next_item hstop, hstop] at hend
            · rfl

theorem Joins.step (h : Joins s p) {label : Label} (hcarried : Carried s label)
    (hstep : (machine server client).step s label = some t) :
    ∃ q : Pipe StdString Status (), Joins t q := by
  cases label with
  | inl label =>
    obtain ⟨hstep, hsame⟩ := Machine.beside_inl hstep
    obtain ⟨l, hsteps, hrefines⟩ := Server.WriterImpl.step_refines h.writes hstep
    refine ⟨p.sends hsteps, hrefines, by rw [hsame, ← h.reads, Pipe.sends_chain],
      by rw [hsame]; exact h.phase, fun hend => ?_⟩
    obtain ⟨status, hclosing, hok⟩ := h.ok hend
    exact ⟨status, (hsteps.asked (by simp [hclosing])).1.trans hclosing, hok⟩
  | inr label => exact h.read_step hcarried hstep

theorem run_joins {n : Nat} {request : StdString} {ls : List Label}
    (hrun : (machine server client).run (initial n request) ls = some s)
    (hcarried : (machine server client).Along Carried (initial n request) ls) :
    ∃ q : Pipe StdString Status (), Joins s q :=
  Machine.invariant_along (M := machine server client) (P := Carried)
    (I := fun s => ∃ q : Pipe StdString Status (), Joins s q)
    (fun _ _ _ h hcarried hstep => h.elim fun _ h => h.step hcarried hstep)
    ⟨Pipe.fresh, Server.WriterImpl.refines_fresh, rfl, .inl ⟨request, rfl⟩, by simp⟩ hcarried hrun

end joins

section told

variable {s : ReaderImpl.Impl} {msgCb statusCb : Callback}

theorem items_taken {history : List (Event ReaderImpl.Note)}
    (h : AtEach ReaderImpl.Lawful history) :
    (ReaderImpl.chain history).items = collect (Event.brought .clientReaderRead) history := by
  induction history using List.reverseRecOn with
  | nil => rfl
  | append_singleton history e ih =>
    have hlaw := h history e [] rfl
    rw [collect_append, ← ih h.of_append, ReaderImpl.chain_append]
    rcases e with ⟨tag, _ | _⟩ | ⟨tag, success, received⟩ | n
    case complete =>
      cases tag with
      | clientReaderRead =>
        have hopen : (ReaderImpl.chain history).stop = none := hlaw
        cases success with
        | false => simp [readOutcome]
        | true =>
          rcases hbuf : received.recvBuf with _ | _ | _ <;>
            simp [readOutcome, bufferOutcome, hbuf, Chain.next_item hopen]
      | _ => cases success <;> simp
    case start.false => cases tag <;> simp
    case start.true => cases tag <;> simp
    case note =>
      cases n with
      | msgCbReturns status => cases hok : status.ok <;> simp [hok]
      | _ => simp

private theorem failed_of_error {history : List (Event ReaderImpl.Note)} {status : Status}
    (h : (ReaderImpl.chain history).stop = some (.error status)) : status.ok = false := by
  obtain ⟨e, -, he⟩ := Chain.exists_stop h
  rcases e with ⟨tag, _ | _⟩ | ⟨tag, success, received⟩ | n
  case start.false =>
    cases tag <;> simp at he
    all_goals
      rw [he]
      exact Status.ok_internalError _
  case start.true => cases tag <;> simp at he
  case complete =>
    cases tag with
    | clientReaderRead =>
      simp only [ReaderImpl.sights, List.mem_singleton, readOutcome, bufferOutcome] at he
      split at he
      · split at he
        · simp at he
        · simp at he
        · cases he
          exact Status.ok_internalError _
      · cases he
        exact Status.ok_internalError _
    | _ => simp at he
  case note =>
    cases n with
    | msgCbReturns result =>
      cases hok : result.ok with
      | true => simp [hok] at he
      | false =>
        simp only [ReaderImpl.sights, hok, Bool.false_eq_true, if_false, List.mem_singleton,
          Outcome.stop.injEq, StreamEnd.error.injEq] at he
        rw [he, hok]
    | _ => simp at he

private theorem received_of_told (h : ReaderImpl.Phase s msgCb statusCb) {cb : Nat}
    {status : Status}
    (htold : (cb, status) ∈ collect ReaderImpl.told s.call.log) (hok : status.ok = true) :
    (view s).stop = some () := by
  cases h with
  | reading _ _ _ _ h => simp [h.untold] at htold
  | receiving _ h => simp [h.untold] at htold
  | done _ h =>
    obtain ⟨v, hverdict, htells⟩ := h.tells
    rw [htells] at htold
    obtain ⟨_, -, heq⟩ := List.mem_map.mp htold
    obtain rfl : v = status := (Prod.mk.inj heq).2
    unfold ReaderImpl.verdict at hverdict
    rcases hstop : (ReaderImpl.chain s.call.log).stop with _ | _ | error
    · simp [hstop] at hverdict
    · rw [hstop] at hverdict
      have hresult : v ∈ collect ReaderImpl.recvStatusResult s.call.log :=
        List.mem_of_mem_head? hverdict
      obtain ⟨e, hmem, he⟩ := List.mem_filterMap.mp hresult
      have hreceived : receivedOK e = some () := by
        rcases e with ⟨tag, _ | _⟩ | ⟨tag, _ | _, received⟩ | _
        case complete.true => cases tag <;> simp at he ⊢; rw [he, hok]
        all_goals
          exfalso
          first
            | cases tag <;> simp at he; rw [← he] at hok; simp at hok
            | simp at he
      have hmore : () ∈ collect receivedOK s.call.log := List.mem_filterMap.mpr ⟨e, hmem, hreceived⟩
      cases hall : collect receivedOK s.call.log with
      | nil => simp [hall] at hmore
      | cons _ _ => simp [view, hall]
    · simp only [hstop, Option.some.injEq] at hverdict
      rw [hverdict] at hstop
      exact absurd hok (by simp [failed_of_error hstop])

private theorem firstClose_of_sent {impl : Server.WriterImpl.Impl} {l : Lane StdString Status}
    (h : Server.WriterImpl.Refines impl l) {status : Status}
    (hsent : status ∈ collect Event.statusAttempt impl.call.log) :
    (collect Server.WriterImpl.closeCall impl.call.log).head? = some status := by
  obtain ⟨e, hmem, he⟩ := List.mem_filterMap.mp hsent
  obtain ⟨before, after, hlog⟩ := List.append_of_mem hmem
  rcases e with ⟨tag, result⟩ | _ | _
  · have hfirst := ((h.lawful before _ after hlog).2.2.2.2.2 status (by simpa using he)).2
    rw [hlog, collect_append, List.head?_append, hfirst, Option.some_or]
  all_goals simp at he

end told

/-- The client hears a beginning of what the server's `Write` has accepted, each message
once and in order, on the callback that the first `Start` gave. If it is told a status OK,
it has heard all that was or ever will be accepted, and the server's first `Close` was with
a status OK. -/
theorem ok_is_whole {server client : Nat → Bool} {n : Nat} {request : StdString}
    {ls : List Label} {s : State}
    (hrun : (machine server client).run (initial n request) ls = some s)
    (hcarried : (machine server client).Along Carried (initial n request) ls) :
    let callbacks := (ls.filterMap Sum.getRight?).findSome? ReaderImpl.Label.start?
    let accepted := collect Server.WriterImpl.accepted s.1.impl.call.log
    collect ReaderImpl.heard s.2.call.log <+:
      ReaderImpl.heardBy (callbacks.bind Prod.fst) accepted ∧
    ∀ cb status, (cb, status) ∈ collect ReaderImpl.told s.2.call.log → status.ok = true →
      collect ReaderImpl.heard s.2.call.log =
        ReaderImpl.heardBy (callbacks.bind Prod.fst) accepted ∧
      ∃ word, (collect Server.WriterImpl.closeCall s.1.impl.call.log).head? = some word ∧
        word.ok = true := by
  intro callbacks accepted
  obtain ⟨p, h⟩ := run_joins hrun hcarried
  have hreader := (Machine.beside_run hrun).2
  have haccepted : accepted = p.lane.accepted := h.writes.accepted
  have hchain : p.chain.items = taken s.2 := by rw [h.reads, view]
  cases hfirst : callbacks with
  | none =>
    have hfresh : s.2 = ReaderImpl.clientAsyncReaderImpl request :=
      ReaderImpl.run_unstarted hreader hfirst
    rw [hfresh]
    simp [ReaderImpl.clientAsyncReaderImpl, ReaderImpl.heardBy]
  | some pair =>
    obtain ⟨msgCb, statusCb⟩ := pair
    have hphase : ReaderImpl.Phase s.2 msgCb statusCb := ReaderImpl.run_phase hreader hfirst
    have hcontract := hphase.contract
    have hheard : collect ReaderImpl.heard s.2.call.log =
        ReaderImpl.heardBy msgCb p.chain.items := by
      rw [hcontract.messages, items_taken hcontract.lawful, hchain]
      rfl
    rw [hheard, haccepted]
    constructor
    · cases msgCb with
      | none => exact List.prefix_rfl
      | some cb => exact p.items_initial.map _
    · intro cb status htold hok
      have hstop : p.chain.stop = some () := by
        rw [h.reads]
        exact received_of_told hphase htold hok
      obtain ⟨word, hclosing, hword⟩ := h.ok hstop
      refine ⟨by rw [p.items_of_ended hstop]; rfl, word, ?_, hword⟩
      apply firstClose_of_sent h.writes
      rw [h.writes.statusAttempt, if_pos (p.whole hstop).1, hclosing]
      simp

/-- A message and the status, which the client hears in full. -/
def oneMessage : List Label :=
  [.inr (.op (.start (some 7) (some 8) [])), .inl (.call 0 (.asyncWrite [1])), .inl (.run 0),
    .inr (.complete 1 true { recvBuf := some (.readable [1]) } {}), .inl (.complete 0 true []),
    .inl (.call 0 (.asyncClose .OK)), .inl (.run 0), .inr (.complete 1 true {} {}),
    .inr (.complete 1 true { status := .OK } {})]

theorem ok_is_whole_oneMessage :
    ∃ s, (machine (fun _ => true) fun _ => true).run (initial 1 [5]) oneMessage = some s ∧
      collect ReaderImpl.told s.2.call.log = [(8, .OK)] ∧
      collect ReaderImpl.heard s.2.call.log = [(7, [1])] ∧
      collect ReaderImpl.heard s.2.call.log =
        ReaderImpl.heardBy (some 7) (collect Server.WriterImpl.accepted s.1.impl.call.log) := by
  have hrun : (machine (fun _ => true) fun _ => true).run (initial 1 [5]) oneMessage =
      some _ := rfl
  have hcarried : (machine (fun _ => true) fun _ => true).Along Carried (initial 1 [5])
      oneMessage := by
    rw [oneMessage]
    iterate 9 rw [Machine.along_cons rfl]
    refine ⟨trivial, trivial, trivial, ?_, trivial, trivial, trivial, ?_, ?_,
      Machine.along_nil _ _⟩
    · rintro bytes ⟨⟩
      rfl
    · rintro bytes ⟨⟩
    · exact fun _ => ⟨by decide, rfl⟩
  exact ⟨_, hrun, rfl, rfl, ((ok_is_whole hrun hcarried).2 8 .OK (by decide) rfl).1⟩

end GrpcCbCore.System.ServerStreaming
