import GrpcCbCore.Client.ReaderWriterEnds

/-! `ClientAsyncReaderWriterImpl` never asks for the status of the server: at the
normal end it tells its own, which is OK whatever the server has sent. -/
namespace GrpcCbCore.Client.ReaderWriterImpl
open GrpcCbCore.Library Relation

/-- Nothing in the history is an error of this side: each start was accepted,
each batch succeeded, the message callback returned OK, and no error was set. -/
def fair : Event Note → Prop
  | .start _ accepted => accepted = true
  | .complete _ success _ => success = true
  | .note (.msgCbReturns status) => status.ok = true
  | .note (.setErrorStatus _) => False
  | _ => True

def Fair (history : List (Event Note)) : Prop := ∀ e ∈ history, fair e

def Eos (history : List (Event Note)) : Prop :=
  ∃ received, .complete .clientReaderRead true received ∈ history ∧ received.recvBuf = none

/-- No batch asks for the status of the server, and after a fair end of stream
only OK is told. -/
def Unasked (before : List (Event Note)) (e : Event Note) : Prop :=
  (∀ tag accepted, e = .start tag accepted → .clientRecvStatus ∉ tag.ops) ∧
    ∀ status, e = .note (.statusCb status) → Fair before → Eos before → status = .OK

/-- The history of an object; `ended` says that its reading has ended. -/
structure Verdict (call : Call Note) (ended : Prop) : Prop where
  law : AtEach Unasked call.log
  eos : Eos call.log → ended

def Ended (s : Impl) : Prop := s.status.ok = true → s.readingEnded = true

namespace Verdict

variable {grpc : Nat → Bool} {call : Call Note} {p q : Prop}

private theorem imp (h : Verdict call p) (hpq : p → q) : Verdict call q :=
  ⟨h.law, fun heos => hpq (h.eos heos)⟩

private theorem start (h : Verdict call p) {tag : CqTag} (htag : .clientRecvStatus ∉ tag.ops) :
    Verdict (call.startBatch grpc tag).2 p := by
  refine ⟨h.law.snoc ⟨?_, by simp⟩, ?_⟩
  · rintro _ _ ⟨⟩
    exact htag
  · rintro ⟨received, hmem, hnone⟩
    exact h.eos ⟨received, by simpa using hmem, hnone⟩

private theorem note (h : Verdict call p) {n : Note} (hn : ∀ status, n ≠ .statusCb status) :
    Verdict (call.note n) p := by
  refine ⟨h.law.snoc ⟨by simp, ?_⟩, ?_⟩
  · rintro status ⟨⟩
    exact absurd rfl (hn status)
  · rintro ⟨received, hmem, hnone⟩
    exact h.eos ⟨received, by simpa using hmem, hnone⟩

private theorem tell (h : Verdict call p) {status : Status}
    (hstatus : Fair call.log → Eos call.log → status = .OK) :
    Verdict (call.note (.statusCb status)) p := by
  refine ⟨h.law.snoc ⟨by simp, ?_⟩, ?_⟩
  · rintro _ ⟨⟩
    exact hstatus
  · rintro ⟨received, hmem, hnone⟩
    exact h.eos ⟨received, by simpa using hmem, hnone⟩

private theorem notes (h : Verdict call p) {ns : List Note}
    (hns : ∀ n ∈ ns, ∀ status, n ≠ .statusCb status) : Verdict (call.notes ns) p := by
  induction ns generalizing call with
  | nil => simpa using h
  | cons n ns ih =>
    have hnote := h.note (hns n (by simp))
    have hrest := ih hnote fun m hm => hns m (List.mem_cons_of_mem n hm)
    simpa using hrest

private theorem complete {index : Nat} {success : Bool} {received : Received} {tag : CqTag}
    {call' : Call Note} (h : Verdict call p)
    (hcall : call.complete index success received = some (tag, call')) (hpq : p → q)
    (heos : tag = .clientReaderRead → success = true → received.recvBuf = none → q) :
    Verdict call' q := by
  have hlog := Call.complete_log hcall
  refine ⟨?_, ?_⟩
  · rw [hlog]
    exact h.law.snoc ⟨by simp, by simp⟩
  · rintro ⟨received', hmem, hnone⟩
    rw [hlog, List.mem_append, List.mem_singleton] at hmem
    rcases hmem with hold | hnew
    · exact hpq (h.eos ⟨received', hold, hnone⟩)
    · injection hnew with htag hsuccess hreceived
      exact heos htag.symm hsuccess.symm (hreceived ▸ hnone)

end Verdict

section acts

variable {grpc : Nat → Bool} {s t u v : Impl} {p : Prop}

theorem Quiet.no_tell {n : Note} (hn : Quiet n) (status : Status) : n ≠ .statusCb status := by
  rintro rfl
  exact hn

theorem Ghostly.no_tell {n : Note} (hn : Ghostly n) (status : Status) : n ≠ .statusCb status := by
  rintro rfl
  exact hn

theorem Alive.verdict (halive : Alive grpc s t) (h : Verdict s.call p) : Verdict t.call p := by
  cases halive with
  | ignoredWrite msg => exact h.note (by simp)
  | closedAgain hclosing => exact h.note (by simp)
  | init hnew hsend hrecv => exact (h.start (by decide)).start (by decide)
  | queued msg hopen hqueue => exact h.note (by simp)
  | sent msg hopen hqueue hgrpc => exact (h.start (by simp [CqTag.ops])).note (by simp)
  | closes hopen hqueue => exact h.note (by simp)
  | halfCloses hopen hqueue hgrpc => exact (h.note (by simp)).start (by decide)
  | reads hasMsgCb hinit hnew hgrpc => exact h.start (by decide)

private theorem start_unfair {call : Call Note} {tag : CqTag} (hgrpc : grpc call.starts = false) :
    ¬ Fair (call.startBatch grpc tag).2.log := by
  intro hall
  have hfair : fair (.start tag false) := hall _ (by simp [hgrpc])
  simp [fair] at hfair

theorem Fatal.verdict (hfatal : Fatal grpc s u) (h : Verdict s.call p) :
    Verdict u.call p ∧ ¬ Fair u.call.log := by
  cases hfatal with
  | set status =>
    refine ⟨h.note (by simp), fun hall => ?_⟩
    exact hall (.note (.setErrorStatus status)) (by simp)
  | initSend reading hreading hnew hsend => exact ⟨h.start (by decide), start_unfair hsend⟩
  | initRecv reading hreading hnew hsend hrecv =>
    exact ⟨(h.start (by decide)).start (by decide), start_unfair hrecv⟩
  | message msg hopen hqueue hgrpc => exact ⟨h.start (by simp [CqTag.ops]), start_unfair hgrpc⟩
  | close hopen hqueue hgrpc => exact ⟨(h.note (by simp)).start (by decide), start_unfair hgrpc⟩
  | read hasMsgCb hgrpc => exact ⟨h.start (by decide), start_unfair hgrpc⟩

theorem Errored.verdict (he : Errored u v) (h : Verdict u.call p)
    (hno : Fair u.call.log → ¬ Eos u.call.log) : Verdict v.call p := by
  obtain ⟨error, ns, -, hns, hcall⟩ := he.notes
  have hset : Verdict (u.call.note (.status error)) p := h.note (by simp)
  have htell : Verdict ((u.call.note (.status error)).note (.statusCb error)) p := by
    refine hset.tell fun hfair heos => ?_
    obtain ⟨received, hmem, hnone⟩ := heos
    exact absurd ⟨received, by simpa using hmem, hnone⟩
      (hno fun e he => hfair e (by simp [he]))
  have hquiet : ∀ n ∈ ns, ∀ status, n ≠ .statusCb status := fun n hn => (hns n hn).no_tell
  rw [hcall]
  split
  · simpa using htell.notes hquiet
  · simpa using hset.notes hquiet

theorem Frozen.verdict (hf : Frozen s t) (h : Verdict s.call p) : Verdict t.call p := by
  obtain ⟨ns, hns, hcall⟩ := hf.notes
  rw [hcall]
  exact h.notes fun n hn => (hns n hn).no_tell

theorem Undead.verdict (hu : Undead grpc u t) (h : Verdict u.call p) : Verdict t.call p := by
  obtain ⟨ns, ms, hnotes, hcall⟩ := hu.call
  have hall : ∀ n ∈ ns ++ ms, ∀ status, n ≠ .statusCb status := fun n hn => (hnotes n hn).no_tell
  rcases hcall with hcall | hcall
  · rw [hcall]
    exact h.notes hall
  · have hstart : Verdict ((u.call.notes ns).startBatch grpc .clientReaderRead).2 p :=
      (h.notes fun n hn => hall n (List.mem_append_left ms hn)).start (by decide)
    rw [hcall]
    exact hstart.notes fun n hn => hall n (List.mem_append_right ns hn)

private theorem runOps_verdict (hcore : Core s) (h : Verdict s.call p) (ops : List Op) :
    Verdict (runOps grpc ops s).call p := by
  rcases Bool.eq_false_or_eq_true s.status.ok with hok | hfailed
  · refine (runOps_acts hcore hok ops).keeps (J := fun s => Verdict s.call p)
      (fun _ _ _ _ halive hs => halive.verdict hs) ?_ (fun _ _ _ hfrozen hs => hfrozen.verdict hs)
      hcore hok h
    intro s u v _ _ hfatal herrored hs
    obtain ⟨hu, hunfair⟩ := hfatal.verdict hs
    exact herrored.verdict hu fun hfair => absurd hfair hunfair
  · exact (runOps_frozen hfailed ops).verdict h

private theorem callStatusCb_verdict (hcore : Core s) (hok : s.status.ok = true)
    (h : Verdict s.call p) (cb : List Op) : Verdict (callStatusCb (runOps grpc cb) s).call p := by
  unfold callStatusCb
  split
  · have hcore' : Core (s.note (.statusCb s.status)) := { hcore with }
    have htell : Verdict (s.note (.statusCb s.status)).call p :=
      h.tell fun _ _ => hcore.status hok
    exact runOps_verdict hcore' htell cb
  · exact h

private theorem runOps_ended (hcore : Core s) (h : Ended s) (ops : List Op) :
    Ended (runOps grpc ops s) := by
  rcases Bool.eq_false_or_eq_true s.status.ok with hok | hfailed
  · refine (runOps_acts hcore hok ops).keeps ?_ ?_ ?_ hcore hok h
    · intro s t _ _ halive hs
      cases halive <;> exact hs
    · intro s u v _ _ _ herrored _
      exact fun hlive => absurd hlive (by simp [herrored.failed])
    · intro s t _ hfrozen _
      exact fun hlive => absurd hlive (by simp [hfrozen.failed])
  · have hdead : (runOps grpc ops s).status.ok = false := (runOps_frozen hfailed ops).failed
    exact fun hlive => absurd hlive (by simp [hdead])

private theorem callStatusCb_ended (hcore : Core s) (h : Ended s) (cb : List Op) :
    Ended (callStatusCb (runOps grpc cb) s) := by
  unfold callStatusCb
  split
  · have hcore' : Core (s.note (.statusCb s.status)) := { hcore with }
    have hnote : Ended (s.note (.statusCb s.status)) := h
    exact runOps_ended hcore' hnote cb
  · exact h

theorem Errored.ended (he : Errored u v) : Ended v :=
  fun hlive => absurd hlive (by simp [he.failed])

end acts

section steps

variable {grpc : Nat → Bool} {s t u : Impl} {l : Lane StdString Unit} {call : Call Note}

private theorem complete_unfair {index : Nat} {received : Received} {tag : CqTag}
    (hcall : s.call.complete index false received = some (tag, call)) : ¬ Fair call.log := by
  intro hall
  have hfair : fair (.complete tag false received) := hall _ (by simp [Call.complete_log hcall])
  simp [fair] at hfair

theorem Sent.verdict {index : Nat} {success : Bool} {received : Received} {cb : List Op}
    {m : StdString} (hsent : Sent grpc cb s call success t) (hcore : Core s)
    (hok : s.status.ok = true) (h : Verdict s.call (Ended s))
    (hcall : s.call.complete index success received = some (.clientSendMsg m, call)) :
    Verdict t.call (Ended t) := by
  have hdone : Verdict call (Ended s) := h.complete hcall id (by simp)
  have hclose : Verdict (call.startBatch grpc .clientSendClose).2 (Ended s) :=
    hdone.start (by decide)
  cases hsent with
  | next front rest hqueue hgrpc => exact hdone.start (by simp [CqTag.ops])
  | idle hqueue hopen => exact hdone
  | closes hqueue hclosing hreading hgrpc => exact hclose
  | ends hqueue hclosing hreading hgrpc =>
    have hcore' : Core { s with
        msgQueue := s.msgQueue.tail, hasSentClose := true, writingEnded := true
        call := (call.startBatch grpc .clientSendClose).2 } :=
      hcore.half_closes hclosing _ _
    exact (callStatusCb_verdict hcore' hok hclose cb).imp fun hended =>
      callStatusCb_ended hcore' hended cb
  | failed t herrored =>
    have hafter := herrored.verdict hdone fun hfair => absurd hfair (complete_unfair hcall)
    exact hafter.imp fun _ => herrored.ended
  | nextRefused front rest t hqueue hgrpc herrored =>
    have hstart : Verdict (call.startBatch grpc (.clientSendMsg front)).2 (Ended s) :=
      hdone.start (by simp [CqTag.ops])
    have hafter := herrored.verdict hstart fun hfair => absurd hfair (start_unfair hgrpc)
    exact hafter.imp fun _ => herrored.ended
  | closeRefused t hqueue hclosing hgrpc herrored =>
    have hafter := herrored.verdict hclose fun hfair => absurd hfair (start_unfair hgrpc)
    exact hafter.imp fun _ => herrored.ended

theorem Verdict.no_eos (h : Verdict u.call (Ended u)) (hok : u.status.ok = true)
    (hreading : u.readingEnded = false) : ¬ Eos u.call.log := by
  intro heos
  have hended : u.readingEnded = true := h.eos heos hok
  simp [hreading] at hended

private theorem goesOn_verdict (grpc : Nat → Bool) (script : Script) (hcore : Core u)
    (h : Verdict u.call (Ended u)) (hreading : u.status.ok = true → u.readingEnded = false) :
    Verdict (goesOn grpc script u).call (Ended (goesOn grpc script u)) := by
  rcases Bool.eq_false_or_eq_true u.status.ok with hok | hfailed
  · have hnote : Verdict (u.call.note (.msgCbReturns script.msgCbResult)) (Ended u) :=
      h.note (by simp)
    have hread : Verdict ((u.call.note (.msgCbReturns script.msgCbResult)).startBatch grpc
        .clientReaderRead).2 (Ended u) := hnote.start (by decide)
    rcases goesOn_cases grpc script hok with herrored | ⟨-, heq⟩ | ⟨hgrpc, herrored⟩
    · have hno := Verdict.no_eos (u := u.note (.msgCbReturns script.msgCbResult)) hnote hok
        (hreading hok)
      exact (herrored.verdict hnote fun _ => hno).imp fun _ => herrored.ended
    · rw [heq]
      exact hread
    · have hafter := herrored.verdict hread fun hfair => absurd hfair (start_unfair hgrpc)
      exact hafter.imp fun _ => herrored.ended
  · have hundead : Undead grpc u (goesOn grpc script u) :=
      goesOn_dead script hfailed (hcore.silenced hfailed)
    exact (hundead.verdict h).imp fun _ hlive => absurd hlive (by simp [hundead.failed])

theorem Heard.verdict {index : Nat} {script : Script} {success : Bool} {received : Received}
    (hheard : Heard grpc script s call success received t) (hcore : Core s)
    (hok : s.status.ok = true) (h : Verdict s.call (Ended s))
    (hcall : s.call.complete index success received = some (.clientReaderRead, call))
    (hh : Hearing { s with call := call }) : Verdict t.call (Ended t) := by
  have hreading : s.readingEnded = false := hh.unended hok
  -- With a message read the history still shows no end of the stream.
  have hheld {buf : ByteBuffer} (hbuf : received.recvBuf = some buf) : Verdict call (Ended s) :=
    h.complete hcall id (by simp [hbuf])
  cases hheard with
  | closes _ hnone hwriting => exact h.complete hcall (fun _ _ => rfl) fun _ _ _ _ => rfl
  | ends _ hnone hwriting =>
    have hcore' : Core { s with call := call, readingEnded := true } := { hcore with }
    have hended : Ended { s with call := call, readingEnded := true } := fun _ => rfl
    have hdone : Verdict call (Ended { s with call := call, readingEnded := true }) :=
      h.complete hcall (fun _ => hended) fun _ _ _ => hended
    exact (callStatusCb_verdict hcore' hok hdone script.statusCb).imp fun _ =>
      callStatusCb_ended hcore' hended script.statusCb
  | reads _ bytes hbuf hcb hgrpc => exact (hheld hbuf).start (by decide)
  | hears _ bytes hbuf hcb =>
    have hcore' : Core { s with call := call.note (.msgCb bytes) } := { hcore with }
    have hnote : Verdict (call.note (.msgCb bytes)) (Ended s) := (hheld hbuf).note (by simp)
    have hacts : Acts grpc { s with call := call.note (.msgCb bytes) }
        (runOps grpc script.msgCb { s with call := call.note (.msgCb bytes) }) :=
      runOps_acts hcore' hok script.msgCb
    have hafter : Verdict (runOps grpc script.msgCb { s with
        call := call.note (.msgCb bytes) }).call (Ended s) :=
      runOps_verdict hcore' hnote script.msgCb
    have hhearing : Hearing (runOps grpc script.msgCb
        { s with call := call.note (.msgCb bytes) }) :=
      runOps_hearing hcore' hok { hh with } script.msgCb
    refine goesOn_verdict grpc script (hacts.core hcore' hok) (hafter.imp fun hended => ?_)
      hhearing.unended
    exact runOps_ended hcore' hended script.msgCb
  | failed _ t herrored =>
    have hdone : Verdict call (Ended s) := h.complete hcall id (by simp)
    have hafter := herrored.verdict hdone fun hfair => absurd hfair (complete_unfair hcall)
    exact hafter.imp fun _ => herrored.ended
  | garbled _ t hbuf herrored =>
    have hno := Verdict.no_eos (u := { s with call := call }) (hheld hbuf) hok hreading
    exact (herrored.verdict (hheld hbuf) fun _ => hno).imp fun _ => herrored.ended
  | readRefused _ bytes t hbuf hcb hgrpc herrored =>
    have hstart : Verdict (call.startBatch grpc .clientReaderRead).2 (Ended s) :=
      (hheld hbuf).start (by decide)
    have hafter := herrored.verdict hstart fun hfair => absurd hfair (start_unfair hgrpc)
    exact hafter.imp fun _ => herrored.ended

private theorem step_verdict {label : Label} (h : Refines s l) (hreads : Reads s)
    (hv : Verdict s.call (Ended s)) (hstep : step grpc s label = some t) :
    Verdict t.call (Ended t) := by
  cases step_cases h hstep with
  | op op =>
    have hafter : Verdict (runOps grpc [op] s).call (Ended (runOps grpc [op] s)) :=
      (runOps_verdict h.core hv [op]).imp fun hended => runOps_ended h.core hended [op]
    simpa [runOps] using hafter
  | sent _ _ _ _ m call t hcall hok hsent => exact hsent.verdict h.core hok hv hcall
  | sentDead _ _ _ _ m call hcall hfailed => exact hv.complete hcall id (by simp)
  | heard _ _ _ _ call t hcall hok hstarted hheard =>
    exact hheard.verdict h.core hok hv hcall ((complete_reads hreads hcall).2 hok rfl)
  | silent _ _ _ _ tag call hcall hmsg hdead =>
    refine hv.complete hcall id fun htag _ _ hlive => ?_
    simp [hdead htag] at hlive

private theorem verdict_fresh (statusCb : Bool) :
    Verdict (clientAsyncReaderWriterImpl statusCb).call
      (Ended (clientAsyncReaderWriterImpl statusCb)) := by
  refine ⟨AtEach.nil, ?_⟩
  rintro ⟨received, hmem, -⟩
  simp [clientAsyncReaderWriterImpl] at hmem

private theorem run_verdict {statusCb : Bool} {ls : List Label}
    (hrun : (machine grpc).run (clientAsyncReaderWriterImpl statusCb) ls = some s) :
    AtEach Unasked s.call.log := by
  have hinv := (machine grpc).invariant
    (I := fun s => (∃ l, Refines s l) ∧ Reads s ∧ Verdict s.call (Ended s))
    (fun _ _ _ ⟨⟨_, h⟩, hreads, hv⟩ hstep =>
      ⟨step_refines h hstep, step_reads h hreads hstep, step_verdict h hreads hv hstep⟩)
    ⟨⟨_, refines_fresh statusCb⟩, reads_fresh statusCb, verdict_fresh statusCb⟩ hrun
  exact hinv.2.2.law

end steps

/-- What is told after a fair end of the stream is the status the server has sent. -/
def Reports (final : Status) (history : List (Event Note)) : Prop :=
  AtEach (fun before e => ∀ status, e = .note (.statusCb status) →
    Fair before → Eos before → status = final) history

/-- No batch asks for the status of the server; so of all that it can have sent,
the callback is told the right one just when that was OK, without details. -/
theorem reports_iff_OK {grpc : Nat → Bool} {statusCb : Bool} {ls : List Label} {s : Impl}
    {before after : List (Event Note)} {status : Status}
    (hrun : (machine grpc).run (clientAsyncReaderWriterImpl statusCb) ls = some s)
    (hlog : s.call.log = before ++ .note (.statusCb status) :: after)
    (hfair : Fair before) (heos : Eos before) (final : Status) :
    (∀ tag ∈ collect Event.attempt s.call.log, .clientRecvStatus ∉ tag.ops) ∧
      (Reports final s.call.log ↔ final = .OK) := by
  have hlaw : AtEach Unasked s.call.log := run_verdict hrun
  refine ⟨fun tag htag => ?_, ?_, ?_⟩
  · obtain ⟨e, hmem, hattempt⟩ := List.mem_filterMap.mp htag
    obtain ⟨past, future, hsplit⟩ := List.append_of_mem hmem
    cases e with
    | start tag' accepted =>
      cases hattempt
      exact (hlaw past _ future hsplit).1 tag accepted rfl
    | _ => simp at hattempt
  · intro hreports
    have htold : status = final := hreports before _ after hlog status rfl hfair heos
    have hOK : status = .OK := (hlaw before _ after hlog).2 status rfl hfair heos
    exact htold.symm.trans hOK
  · rintro rfl past e future hsplit told rfl hfair' heos'
    exact (hlaw past _ future hsplit).2 told rfl hfair' heos'

def streamEnded : List (Event Note) :=
  [.start .clientSendInitMd true, .start .clientRecvInitMd true, .start .clientReaderRead true,
    .note .closeWriting, .start .clientSendClose true, .complete .clientReaderRead true {}]

private theorem streamEnded_fair : Fair streamEnded := by
  simp [Fair, fair, streamEnded]

private theorem streamEnded_eos : Eos streamEnded :=
  ⟨{}, by simp [streamEnded], rfl⟩

theorem reports_iff_OK_stream_ended :
    ∃ s, (machine fun _ => true).run (clientAsyncReaderWriterImpl true)
        [.op (.readEach false []), .op (.closeWriting []), .complete 2 true {} {}] = some s ∧
      (∀ tag ∈ collect Event.attempt s.call.log, .clientRecvStatus ∉ tag.ops) ∧
      (Reports .OK s.call.log ↔ Status.OK = .OK) := by
  have hrun : (machine fun _ => true).run (clientAsyncReaderWriterImpl true)
      [.op (.readEach false []), .op (.closeWriting []), .complete 2 true {} {}] = some _ := rfl
  have hlog : streamEnded ++ [.note (.statusCb .OK)] = _ := rfl
  exact ⟨_, hrun, reports_iff_OK hrun hlog.symm streamEnded_fair streamEnded_eos .OK⟩

/-- The server has sent NOT_FOUND, the callback is told OK. -/
theorem told_OK_for_not_found :
    ∃ s, (machine fun _ => true).run (clientAsyncReaderWriterImpl true)
        [.op (.readEach false []), .op (.closeWriting []), .complete 2 true {} {}] = some s ∧
      collect told s.call.log = [.OK] ∧ ¬ Reports ⟨.notFound, []⟩ s.call.log := by
  refine ⟨_, rfl, rfl, fun hreports => ?_⟩
  have htold : Status.OK = ⟨.notFound, []⟩ :=
    hreports streamEnded _ [] rfl .OK rfl streamEnded_fair streamEnded_eos
  simp [Status.OK] at htold

end GrpcCbCore.Client.ReaderWriterImpl
