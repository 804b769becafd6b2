import GrpcCbCore.Client.ReaderWriterImpl
import Mathlib.Logic.Relation

/-! What a call on `ClientAsyncReaderWriterImpl` can do, callbacks included. A
live object acts and stays alive, or it dies of an error and calls its status
callback; a dead object is frozen, so whatever that callback calls is ignored. -/
namespace GrpcCbCore.Client.ReaderWriterImpl
open GrpcCbCore.Library Relation

def Quiet : Note → Prop
  | .write _ result => result = false
  | .closeWriting | .setErrorStatus _ => True
  | .status status => status.ok = false
  | .fault site => site = .writeEnded
  | _ => False

structure Frozen (s t : Impl) : Prop where
  notes : ∃ ns, (∀ n ∈ ns, Quiet n) ∧ t.call = s.call.notes ns
  failed : t.status.ok = false
  closing : s.writingClosing = true → t.writingClosing = true
  started : s.readingStarted = true → t.readingStarted = true
  msgCb : t.msgCb = s.msgCb
  statusCb : t.statusCb = s.statusCb
  readingEnded : t.readingEnded = s.readingEnded
  writingEnded : t.writingEnded = s.writingEnded
  msgQueue : t.msgQueue = s.msgQueue
  hasSentClose : t.hasSentClose = s.hasSentClose

/-- `EndOnErrorStatus` on a live object, its callback included. -/
structure Errored (s t : Impl) : Prop where
  notes : ∃ error ns, error.ok = false ∧ (∀ n ∈ ns, Quiet n) ∧
    t.call = s.call.notes (.status error :: (if s.statusCb then [.statusCb error] else []) ++ ns)
  failed : t.status.ok = false
  closing : s.writingClosing = true → t.writingClosing = true
  started : s.readingStarted = true → t.readingStarted = true
  msgCb : t.msgCb = s.msgCb
  statusCb : t.statusCb = false
  readingEnded : t.readingEnded = true
  writingEnded : t.writingEnded = true
  msgQueue : t.msgQueue = s.msgQueue
  hasSentClose : t.hasSentClose = s.hasSentClose

/-- What calls do to a live object that stays alive. -/
inductive Alive (grpc : Nat → Bool) : Impl → Impl → Prop
  | ignoredWrite (s : Impl) (msg : StdString) : Alive grpc s (s.note (.write msg false))
  | closedAgain (s : Impl) (hclosing : s.writingClosing = true) :
      Alive grpc s (s.note .closeWriting)
  | init (s : Impl) (hnew : s.inited = false) (hsend : grpc s.call.starts = true)
      (hrecv : grpc (s.call.starts + 1) = true) :
      Alive grpc s { s with
        inited := true
        call := ((s.call.startBatch grpc .clientSendInitMd).2.startBatch grpc
          .clientRecvInitMd).2 }
  | queued (s : Impl) (msg : StdString) (hopen : s.writingClosing = false)
      (hqueue : s.msgQueue ≠ []) :
      Alive grpc s (({ s with msgQueue := s.msgQueue ++ [msg] } : Impl).note (.write msg true))
  | sent (s : Impl) (msg : StdString) (hopen : s.writingClosing = false)
      (hqueue : s.msgQueue = []) (hgrpc : grpc s.call.starts = true) :
      Alive grpc s (({ s with
        msgQueue := [msg]
        call := (s.call.startBatch grpc (.clientSendMsg msg)).2 } : Impl).note (.write msg true))
  | closes (s : Impl) (hopen : s.writingClosing = false) (hqueue : s.msgQueue ≠ []) :
      Alive grpc s { s.note .closeWriting with writingClosing := true }
  | halfCloses (s : Impl) (hopen : s.writingClosing = false) (hqueue : s.msgQueue = [])
      (hgrpc : grpc s.call.starts = true) :
      Alive grpc s { s.note .closeWriting with
        writingClosing := true, hasSentClose := true, writingEnded := true
        call := ((s.call.note .closeWriting).startBatch grpc .clientSendClose).2 }
  | reads (s : Impl) (hasMsgCb : Bool) (hinit : s.inited = true)
      (hnew : s.readingStarted = false) (hgrpc : grpc s.call.starts = true) :
      Alive grpc s { s with
        readingStarted := true, msgCb := hasMsgCb
        call := (s.call.startBatch grpc .clientReaderRead).2 }

/-- The object as a call has made it when it enters `EndOnErrorStatus`. -/
inductive Fatal (grpc : Nat → Bool) : Impl → Impl → Prop
  | set (s : Impl) (status : Status) : Fatal grpc s (s.note (.setErrorStatus status))
  | initSend (s : Impl) (reading : Bool) (hreading : s.readingStarted = true → reading = true)
      (hnew : s.inited = false) (hsend : grpc s.call.starts = false) :
      Fatal grpc s { s with
        inited := true, readingStarted := reading
        call := (s.call.startBatch grpc .clientSendInitMd).2 }
  | initRecv (s : Impl) (reading : Bool) (hreading : s.readingStarted = true → reading = true)
      (hnew : s.inited = false) (hsend : grpc s.call.starts = true)
      (hrecv : grpc (s.call.starts + 1) = false) :
      Fatal grpc s { s with
        inited := true, readingStarted := reading
        call := ((s.call.startBatch grpc .clientSendInitMd).2.startBatch grpc
          .clientRecvInitMd).2 }
  | message (s : Impl) (msg : StdString) (hopen : s.writingClosing = false)
      (hqueue : s.msgQueue = []) (hgrpc : grpc s.call.starts = false) :
      Fatal grpc s { s with
        msgQueue := [msg], call := (s.call.startBatch grpc (.clientSendMsg msg)).2 }
  | close (s : Impl) (hopen : s.writingClosing = false) (hqueue : s.msgQueue = [])
      (hgrpc : grpc s.call.starts = false) :
      Fatal grpc s { s.note .closeWriting with
        writingClosing := true, hasSentClose := true, writingEnded := true
        call := ((s.call.note .closeWriting).startBatch grpc .clientSendClose).2 }
  | read (s : Impl) (hasMsgCb : Bool) (hgrpc : grpc s.call.starts = false) :
      Fatal grpc s { s with
        readingStarted := true, msgCb := hasMsgCb
        call := (s.call.startBatch grpc .clientReaderRead).2 }

/-- What calls on a live object come to. -/
inductive Acts (grpc : Nat → Bool) (s t : Impl) : Prop
  | lives (halive : ReflTransGen (Alive grpc) s t)
  | dies (r u v : Impl) (halive : ReflTransGen (Alive grpc) s r) (hfatal : Fatal grpc r u)
      (herrored : Errored u v) (hfrozen : Frozen v t)

/-- Writing ends by a request to close it, or by an error; an error has called
the status callback. -/
structure Core (s : Impl) : Prop where
  status : s.status.ok = true → s.status = .OK
  ended : s.status.ok = true → s.writingEnded = true → s.writingClosing = true
  sentClose : s.hasSentClose = true → s.writingClosing = true
  silenced : s.status.ok = false → s.statusCb = false

namespace Impl

@[simp] theorem check_true (site : Site) (s : Impl) : s.check site true = s := rfl

@[simp] theorem note_call (n : Note) (s : Impl) : (s.note n).call = s.call.note n := rfl
@[simp] theorem note_status (n : Note) (s : Impl) : (s.note n).status = s.status := rfl
@[simp] theorem note_msgCb (n : Note) (s : Impl) : (s.note n).msgCb = s.msgCb := rfl
@[simp] theorem note_statusCb (n : Note) (s : Impl) : (s.note n).statusCb = s.statusCb := rfl
@[simp] theorem note_inited (n : Note) (s : Impl) : (s.note n).inited = s.inited := rfl
@[simp] theorem note_readingStarted (n : Note) (s : Impl) :
    (s.note n).readingStarted = s.readingStarted := rfl
@[simp] theorem note_writingClosing (n : Note) (s : Impl) :
    (s.note n).writingClosing = s.writingClosing := rfl
@[simp] theorem note_readingEnded (n : Note) (s : Impl) :
    (s.note n).readingEnded = s.readingEnded := rfl
@[simp] theorem note_writingEnded (n : Note) (s : Impl) :
    (s.note n).writingEnded = s.writingEnded := rfl
@[simp] theorem note_msgQueue (n : Note) (s : Impl) : (s.note n).msgQueue = s.msgQueue := rfl
@[simp] theorem note_hasSentClose (n : Note) (s : Impl) :
    (s.note n).hasSentClose = s.hasSentClose := rfl

end Impl

section frozen

variable {grpc : Nat → Bool} {s t u : Impl}

theorem Frozen.refl (hfailed : s.status.ok = false) : Frozen s s := by
  refine ⟨⟨[], by simp, by simp⟩, hfailed, ?_, ?_, rfl, rfl, rfl, rfl, rfl, rfl⟩
  · exact id
  · exact id

theorem Frozen.trans (h : Frozen s t) (h' : Frozen t u) : Frozen s u := by
  obtain ⟨ns, hns, hcall⟩ := h.notes
  obtain ⟨ms, hms, hcall'⟩ := h'.notes
  refine ⟨⟨ns ++ ms, ?_, ?_⟩, h'.failed, fun hs => h'.closing (h.closing hs),
    fun hs => h'.started (h.started hs), h'.msgCb.trans h.msgCb, h'.statusCb.trans h.statusCb,
    h'.readingEnded.trans h.readingEnded, h'.writingEnded.trans h.writingEnded,
    h'.msgQueue.trans h.msgQueue,
    h'.hasSentClose.trans h.hasSentClose⟩
  · intro n hn
    rcases List.mem_append.mp hn with hn | hn
    · exact hns n hn
    · exact hms n hn
  · rw [hcall', hcall, Call.notes_notes]

theorem Frozen.note (hfailed : s.status.ok = false) {n : Note} (hn : Quiet n) :
    Frozen s (s.note n) := by
  refine ⟨⟨[n], by simpa using hn, rfl⟩, hfailed, ?_, ?_, rfl, rfl, rfl, rfl, rfl, rfl⟩
  · exact id
  · exact id

theorem initIfNot_failed (cb : Impl → Impl) (hfailed : s.status.ok = false) :
    initIfNot grpc cb s = { s with inited := true } := by
  unfold initIfNot
  split
  · next hinit => cases s; simp_all
  · simp [hfailed]

theorem runOp_frozen (hfailed : s.status.ok = false) (op : Op) : Frozen s (runOp grpc op s) := by
  cases op with
  | write msg cb =>
    have hinit : Frozen s { s with inited := true } := { Frozen.refl hfailed with }
    have hfault : Quiet (.fault .writeEnded) := by simp [Quiet]
    have hwrite : Quiet (.write msg false) := by simp [Quiet]
    simp only [runOp, write, initIfNot_failed _ hfailed, hfailed, Bool.not_false, if_true]
    refine hinit.trans ?_
    unfold Impl.check
    split
    · exact Frozen.note hinit.failed hwrite
    · have hassert := Frozen.note hinit.failed hfault
      exact hassert.trans (Frozen.note hassert.failed hwrite)
  | closeWriting cb =>
    have hnote : Frozen s (s.note .closeWriting) := Frozen.note hfailed trivial
    simp only [runOp, closeWriting]
    split
    · exact hnote
    · simp only [Impl.note_status, hfailed, Bool.not_false, if_true]
      exact { hnote with closing := fun _ => rfl }
  | readEach hasMsgCb cb =>
    simp only [runOp, readEach]
    split
    · exact Frozen.refl hfailed
    · rw [initIfNot_failed _ (by exact hfailed)]
      simp only [hfailed, Bool.not_false, if_true]
      exact { Frozen.refl hfailed with started := fun _ => rfl }
  | setErrorStatus errorStatus cb =>
    simp only [runOp, setErrorStatus, Impl.note_status, hfailed, Bool.false_eq_true, if_false]
    have hnote : Frozen s (s.note (.setErrorStatus errorStatus.status)) :=
      Frozen.note hfailed trivial
    have hset := hnote.trans (Frozen.note hnote.failed
      (show Quiet (.status errorStatus.status) from errorStatus.not_ok))
    exact { hset with failed := errorStatus.not_ok }

theorem runOps_frozen (hfailed : s.status.ok = false) (ops : List Op) :
    Frozen s (runOps grpc ops s) := by
  induction ops generalizing s with
  | nil =>
    rw [runOps]
    exact Frozen.refl hfailed
  | cons op ops ih =>
    have hop : Frozen s (runOp grpc op s) := runOp_frozen hfailed op
    rw [runOps]
    exact hop.trans (ih hop.failed)

end frozen

section errored

variable {grpc : Nat → Bool} {s t u : Impl}

/-- The status callback finds the object dead. -/
theorem endOnErrorStatus_errored (hok : s.status.ok = true) {error : Status}
    (herror : error.ok = false) (cb : List Op) :
    Errored s (endOnErrorStatus (runOps grpc cb) error s) := by
  have heq : endOnErrorStatus (runOps grpc cb) error s =
      { callStatusCb (runOps grpc cb) (s.setStatus error) with
        readingEnded := true, writingEnded := true } := by
    simp [endOnErrorStatus, herror, hok]
  rw [heq, callStatusCb]
  cases hcb : s.statusCb with
  | false =>
    rw [if_neg (by simp [Impl.setStatus, hcb])]
    refine ⟨⟨error, [], herror, by simp, by simp [Impl.setStatus, hcb]; rfl⟩, herror, ?_, ?_,
      rfl, hcb, rfl, rfl, rfl, rfl⟩
    · exact id
    · exact id
  | true =>
    rw [if_pos (by simp [Impl.setStatus, hcb])]
    have hfrozen : Frozen ((s.setStatus error).note (.statusCb error))
        (runOps grpc cb ((s.setStatus error).note (.statusCb error))) :=
      runOps_frozen herror cb
    obtain ⟨ns, hns, hcall⟩ := hfrozen.notes
    refine ⟨⟨error, ns, herror, hns, ?_⟩, hfrozen.failed, hfrozen.closing, hfrozen.started,
      hfrozen.msgCb, rfl, rfl, rfl, hfrozen.msgQueue, hfrozen.hasSentClose⟩
    simpa [Impl.setStatus, hcb] using hcall

theorem setInternalError_errored (hok : s.status.ok = true) (cb : List Op) (sError : StdString) :
    Errored s (setInternalError (runOps grpc cb) sError s) := by
  have hend : Errored s (endOnErrorStatus (runOps grpc cb) (.internalError sError) s) :=
    endOnErrorStatus_errored hok (Status.ok_internalError sError) cb
  simpa [setInternalError, hok] using hend

end errored

section acts

variable {grpc : Nat → Bool} {s t u v : Impl}

theorem Alive.ok (h : Alive grpc s t) (hok : s.status.ok = true) : t.status.ok = true := by
  cases h <;> exact hok

theorem Alive.core (h : Alive grpc s t) (hcore : Core s) (hok : s.status.ok = true) : Core t := by
  obtain ⟨hstatus, hended, hsent, -⟩ := hcore
  cases h with
  | closes => exact ⟨hstatus, fun _ _ => rfl, fun _ => rfl, by simp [hok]⟩
  | halfCloses => exact ⟨hstatus, fun _ _ => rfl, fun _ => rfl, by simp [hok]⟩
  | _ => exact ⟨hstatus, hended, hsent, by simp [hok]⟩

theorem Core.half_closes (hcore : Core s) (hclosing : s.writingClosing = true)
    (queue : List StdString) (call : Call Note) :
    Core { s with
      msgQueue := queue, hasSentClose := true, writingEnded := true, call := call } :=
  ⟨hcore.status, fun _ _ => hclosing, fun _ => hclosing, hcore.silenced⟩

theorem Fatal.sentClose (h : Fatal grpc s u) (hcore : Core s) :
    u.hasSentClose = true → u.writingClosing = true := by
  cases h with
  | close => exact fun _ => rfl
  | _ => exact hcore.sentClose

theorem Errored.core (h : Errored u v) (hsent : u.hasSentClose = true → u.writingClosing = true) :
    Core v := by
  refine ⟨by simp [h.failed], by simp [h.failed], fun hclose => h.closing (hsent ?_),
    fun _ => h.statusCb⟩
  rwa [← h.hasSentClose]

theorem Frozen.core (h : Frozen s t) (hcore : Core s) (hfailed : s.status.ok = false) :
    Core t := by
  refine ⟨by simp [h.failed], by simp [h.failed], fun hclose => h.closing (hcore.sentClose ?_),
    fun _ => h.statusCb.trans (hcore.silenced hfailed)⟩
  rwa [← h.hasSentClose]

theorem Alive.path (h : ReflTransGen (Alive grpc) s t) (hcore : Core s)
    (hok : s.status.ok = true) : Core t ∧ t.status.ok = true := by
  induction h with
  | refl => exact ⟨hcore, hok⟩
  | tail _ hstep ih => exact ⟨hstep.core ih.1 ih.2, hstep.ok ih.2⟩

/-- The rule of calls: what each act, each death and each call on a dead object
keeps is kept. -/
theorem Acts.keeps {J : Impl → Prop}
    (alive : ∀ s t, s.status.ok = true → Core s → Alive grpc s t → J s → J t)
    (dies : ∀ s u v, s.status.ok = true → Core s → Fatal grpc s u → Errored u v → J s → J v)
    (frozen : ∀ s t, s.status.ok = false → Frozen s t → J s → J t)
    (h : Acts grpc s t) (hcore : Core s) (hok : s.status.ok = true) (hs : J s) : J t := by
  have hpath : ∀ r, ReflTransGen (Alive grpc) s r → J r := by
    intro r hr
    induction hr with
    | refl => exact hs
    | tail hbefore hstep ih =>
      have hb := Alive.path hbefore hcore hok
      exact alive _ _ hb.2 hb.1 hstep ih
  cases h with
  | lives halive => exact hpath t halive
  | dies r u v halive hfatal herrored hfrozen =>
    have hr := Alive.path halive hcore hok
    have hv := dies r u v hr.2 hr.1 hfatal herrored (hpath r halive)
    exact frozen v t herrored.failed hfrozen hv

theorem Acts.core (h : Acts grpc s t) (hcore : Core s) (hok : s.status.ok = true) : Core t :=
  h.keeps (fun _ _ hok hcore hstep _ => hstep.core hcore hok)
    (fun _ _ _ _ hcore hfatal herrored _ => herrored.core (hfatal.sentClose hcore))
    (fun _ _ hfailed hfrozen hcore => hfrozen.core hcore hfailed) hcore hok hcore

theorem Acts.trans_alive (halive : ReflTransGen (Alive grpc) s t) (h : Acts grpc t u) :
    Acts grpc s u := by
  cases h with
  | lives hmore => exact .lives (halive.trans hmore)
  | dies r v w hmore hfatal herrored hfrozen =>
    exact .dies r v w (halive.trans hmore) hfatal herrored hfrozen

theorem Acts.then_frozen (h : Acts grpc s t) (hfailed : t.status.ok = false)
    (hok : s.status.ok = true)
    (hcore : Core s) (hfrozen : Frozen t u) : Acts grpc s u := by
  cases h with
  | lives halive => simp [(Alive.path halive hcore hok).2] at hfailed
  | dies r v w halive hfatal herrored hmore =>
    exact .dies r v w halive hfatal herrored (hmore.trans hfrozen)

theorem Acts.died (hfatal : Fatal grpc s u) (herrored : Errored u v) (hfrozen : Frozen v t) :
    Acts grpc s t :=
  .dies s u v .refl hfatal herrored hfrozen

theorem initIfNot_inited (cb : Impl → Impl) (hinit : s.inited = true) :
    initIfNot grpc cb s = s := by
  simp [initIfNot, hinit]

theorem initIfNot_new (cb : Impl → Impl) (hok : s.status.ok = true) (hnew : s.inited = false) :
    (grpc s.call.starts = true ∧ grpc (s.call.starts + 1) = true ∧
      initIfNot grpc cb s = { s with
        inited := true
        call := ((s.call.startBatch grpc .clientSendInitMd).2.startBatch grpc
          .clientRecvInitMd).2 }) ∨
    (grpc s.call.starts = true ∧ grpc (s.call.starts + 1) = false ∧
      initIfNot grpc cb s = setInternalError cb
        (lit "Failed to receive init metadata to init bi-directional streaming.") { s with
          inited := true
          call := ((s.call.startBatch grpc .clientSendInitMd).2.startBatch grpc
            .clientRecvInitMd).2 }) ∨
    (grpc s.call.starts = false ∧
      initIfNot grpc cb s = setInternalError cb
        (lit "Failed to send init metadata to init bi-directional streaming.") { s with
          inited := true, call := (s.call.startBatch grpc .clientSendInitMd).2 }) := by
  rcases Bool.eq_false_or_eq_true (grpc s.call.starts) with hsend | hsend
  · rcases Bool.eq_false_or_eq_true (grpc (s.call.starts + 1)) with hrecv | hrecv
    · refine .inl ⟨hsend, hrecv, ?_⟩
      simp [initIfNot, hnew, hok, Impl.startBatch, Call.startBatch, hsend, hrecv]
    · refine .inr (.inl ⟨hsend, hrecv, ?_⟩)
      simp [initIfNot, hnew, hok, Impl.startBatch, Call.startBatch, hsend, hrecv]
  · refine .inr (.inr ⟨hsend, ?_⟩)
    simp [initIfNot, hnew, hok, Impl.startBatch, Call.startBatch, hsend]

theorem initIfNot_cases (grpc : Nat → Bool) (hok : s.status.ok = true)
    (hnew : s.inited = false) (cb : List Op)
    (reading : Bool) (hreading : s.readingStarted = true → reading = true) :
    (grpc s.call.starts = true ∧ grpc (s.call.starts + 1) = true ∧
      initIfNot grpc (runOps grpc cb) { s with readingStarted := reading } =
        { s with
          inited := true, readingStarted := reading
          call := ((s.call.startBatch grpc .clientSendInitMd).2.startBatch grpc
            .clientRecvInitMd).2 }) ∨
    ∃ u, Fatal grpc s u ∧
      Errored u (initIfNot grpc (runOps grpc cb) { s with readingStarted := reading }) := by
  obtain ⟨hsend, hrecv, heq⟩ | ⟨hsend, hrecv, heq⟩ | ⟨hsend, heq⟩ :=
    initIfNot_new (s := { s with readingStarted := reading }) (runOps grpc cb)
      hok hnew
  · exact .inl ⟨hsend, hrecv, heq⟩
  · refine .inr ⟨_, .initRecv s reading hreading hnew hsend hrecv, ?_⟩
    rw [heq]
    exact setInternalError_errored (by exact hok) cb _
  · refine .inr ⟨_, .initSend s reading hreading hnew hsend, ?_⟩
    rw [heq]
    exact setInternalError_errored (by exact hok) cb _

theorem sendNext_accepted {cb : Impl → Impl} {front : StdString} {rest : List StdString}
    (hok : s.status.ok = true) (hqueue : s.msgQueue = front :: rest)
    (hgrpc : grpc s.call.starts = true) :
    sendNext grpc cb s =
      (true, { s with call := (s.call.startBatch grpc (.clientSendMsg front)).2 }) := by
  simp [sendNext, Impl.startBatch, hok, hqueue, hgrpc]

theorem sendNext_fails {cb : Impl → Impl} {front : StdString} {rest : List StdString}
    (hok : s.status.ok = true) (hqueue : s.msgQueue = front :: rest)
    (hgrpc : grpc s.call.starts = false) :
    sendNext grpc cb s = (false, setInternalError cb
      (lit "Failed to write bi-directional streaming.")
      { s with call := (s.call.startBatch grpc (.clientSendMsg front)).2 }) := by
  simp [sendNext, Impl.startBatch, hok, hqueue, hgrpc]

theorem sendNext_refused {front : StdString} {rest : List StdString} (hok : s.status.ok = true)
    (hqueue : s.msgQueue = front :: rest) (hgrpc : grpc s.call.starts = false) (cb : List Op) :
    (sendNext grpc (runOps grpc cb) s).1 = false ∧
    Errored { s with call := (s.call.startBatch grpc (.clientSendMsg front)).2 }
      (sendNext grpc (runOps grpc cb) s).2 := by
  rw [sendNext_fails hok hqueue hgrpc]
  exact ⟨rfl, setInternalError_errored (by exact hok) cb _⟩

theorem readNext_accepted {cb : Impl → Impl} (hok : s.status.ok = true)
    (hgrpc : grpc s.call.starts = true) :
    readNext grpc cb s = { s with call := (s.call.startBatch grpc .clientReaderRead).2 } := by
  simp [readNext, Impl.startBatch, hok, hgrpc]

theorem readNext_refused (hok : s.status.ok = true) (hgrpc : grpc s.call.starts = false)
    (cb : List Op) :
    Errored { s with call := (s.call.startBatch grpc .clientReaderRead).2 }
      (readNext grpc (runOps grpc cb) s) := by
  have heq : readNext grpc (runOps grpc cb) s = setInternalError (runOps grpc cb)
      (lit "Failed to async read bi-directional streaming.")
      { s with call := (s.call.startBatch grpc .clientReaderRead).2 } := by
    simp [readNext, Impl.startBatch, hok, hgrpc]
  rw [heq]
  exact setInternalError_errored (by exact hok) cb _

theorem sendClose_accepted {cb : Impl → Impl} (hok : s.status.ok = true)
    (hclosing : s.writingClosing = true) (hunsent : s.hasSentClose = false)
    (hgrpc : grpc s.call.starts = true) :
    sendClose grpc cb s = { s with
      hasSentClose := true, writingEnded := true
      call := (s.call.startBatch grpc .clientSendClose).2 } := by
  simp [sendClose, Impl.startBatch, hok, hclosing, hunsent, hgrpc]

theorem sendClose_refused (hok : s.status.ok = true) (hclosing : s.writingClosing = true)
    (hunsent : s.hasSentClose = false) (hgrpc : grpc s.call.starts = false) (cb : List Op) :
    Errored { s with
        hasSentClose := true, writingEnded := true
        call := (s.call.startBatch grpc .clientSendClose).2 }
      (sendClose grpc (runOps grpc cb) s) := by
  have heq : sendClose grpc (runOps grpc cb) s = setInternalError (runOps grpc cb)
      (lit "Failed to close writing.") { s with
        hasSentClose := true, writingEnded := true
        call := (s.call.startBatch grpc .clientSendClose).2 } := by
    simp [sendClose, Impl.startBatch, hok, hclosing, hunsent, hgrpc]
  rw [heq]
  exact setInternalError_errored (by exact hok) cb _

theorem write_cases (grpc : Nat → Bool) (hcore : Core s) (hok : s.status.ok = true)
    (hinit : s.inited = true) (msg : StdString) (cb : List Op) :
    (s.writingClosing = true ∧ runOp grpc (.write msg cb) s = s.note (.write msg false)) ∨
    (s.writingClosing = false ∧ s.msgQueue ≠ [] ∧ runOp grpc (.write msg cb) s =
      ({ s with msgQueue := s.msgQueue ++ [msg] } : Impl).note (.write msg true)) ∨
    (s.writingClosing = false ∧ s.msgQueue = [] ∧ grpc s.call.starts = true ∧
      runOp grpc (.write msg cb) s = ({ s with
        msgQueue := [msg]
        call := (s.call.startBatch grpc (.clientSendMsg msg)).2 } : Impl).note
          (.write msg true)) ∨
    (s.writingClosing = false ∧ s.msgQueue = [] ∧ grpc s.call.starts = false ∧
      ∃ v, Errored { s with
          msgQueue := [msg], call := (s.call.startBatch grpc (.clientSendMsg msg)).2 } v ∧
        runOp grpc (.write msg cb) s = v.note (.write msg false)) := by
  rcases Bool.eq_false_or_eq_true s.writingClosing with hclosing | hopen
  · exact .inl ⟨hclosing, by simp [runOp, write, initIfNot_inited _ hinit, hok, hclosing]⟩
  have hunended : s.writingEnded = false := by
    by_contra hended
    simp [hcore.ended hok (by simpa using hended)] at hopen
  refine .inr ?_
  by_cases hqueue : s.msgQueue = []
  · have heq : runOp grpc (.write msg cb) s =
        (sendNext grpc (runOps grpc cb) { s with msgQueue := [msg] }).2.note
          (.write msg (sendNext grpc (runOps grpc cb) { s with msgQueue := [msg] }).1) := by
      simp [runOp, write, initIfNot_inited _ hinit, hok, hopen, hunended, hqueue]
    rw [heq]
    rcases Bool.eq_false_or_eq_true (grpc s.call.starts) with hgrpc | hgrpc
    · rw [sendNext_accepted (by exact hok) rfl (by exact hgrpc)]
      exact .inr (.inl ⟨hopen, hqueue, hgrpc, rfl⟩)
    · obtain ⟨hfalse, herrored⟩ := sendNext_refused (s := { s with msgQueue := [msg] }) hok rfl
        hgrpc cb
      rw [hfalse]
      exact .inr (.inr ⟨hopen, hqueue, hgrpc, _, herrored, rfl⟩)
  · refine .inl ⟨hopen, hqueue, ?_⟩
    simp [runOp, write, initIfNot_inited _ hinit, hok, hopen, hunended, hqueue]

theorem write_acts (grpc : Nat → Bool) (hcore : Core s) (hok : s.status.ok = true)
    (hinit : s.inited = true) (msg : StdString) (cb : List Op) :
    Acts grpc s (runOp grpc (.write msg cb) s) := by
  rcases write_cases grpc hcore hok hinit msg cb with ⟨-, heq⟩ | ⟨hopen, hqueue, heq⟩ |
    ⟨hopen, hqueue, hgrpc, heq⟩ | ⟨hopen, hqueue, hgrpc, v, herrored, heq⟩
  · rw [heq]
    exact .lives (.single (.ignoredWrite s msg))
  · rw [heq]
    exact .lives (.single (.queued s msg hopen hqueue))
  · rw [heq]
    exact .lives (.single (.sent s msg hopen hqueue hgrpc))
  · rw [heq]
    exact .died (.message s msg hopen hqueue hgrpc) herrored
      (Frozen.note herrored.failed (by simp [Quiet]))

theorem write_first (grpc : Nat → Bool) (hok : s.status.ok = true) (hnew : s.inited = false)
    (msg : StdString) (cb : List Op) :
    (grpc s.call.starts = true ∧ grpc (s.call.starts + 1) = true ∧
      runOp grpc (.write msg cb) s = runOp grpc (.write msg cb) { s with
        inited := true
        call := ((s.call.startBatch grpc .clientSendInitMd).2.startBatch grpc
          .clientRecvInitMd).2 }) ∨
    ∃ u v, Fatal grpc s u ∧ Errored u v ∧
      runOp grpc (.write msg cb) s = v.note (.write msg false) := by
  rcases initIfNot_cases grpc hok hnew cb s.readingStarted id with
    ⟨hsend, hrecv, heq⟩ | ⟨u, hfatal, herrored⟩
  · refine .inl ⟨hsend, hrecv, ?_⟩
    simp only [runOp, write]
    rw [heq, initIfNot_inited _ rfl]
  · refine .inr ⟨u, initIfNot grpc (runOps grpc cb) s, hfatal, herrored, ?_⟩
    have hfailed : (initIfNot grpc (runOps grpc cb) s).status.ok = false := herrored.failed
    have hreading : (initIfNot grpc (runOps grpc cb) s).readingEnded = true :=
      herrored.readingEnded
    have hwriting : (initIfNot grpc (runOps grpc cb) s).writingEnded = true :=
      herrored.writingEnded
    simp [runOp, write, hfailed, hreading, hwriting]

theorem closeWriting_cases (grpc : Nat → Bool) (hcore : Core s) (hok : s.status.ok = true)
    (cb : List Op) :
    (s.writingClosing = true ∧ runOp grpc (.closeWriting cb) s = s.note .closeWriting) ∨
    (s.writingClosing = false ∧ s.msgQueue ≠ [] ∧ runOp grpc (.closeWriting cb) s =
      { s.note .closeWriting with writingClosing := true }) ∨
    (s.writingClosing = false ∧ s.msgQueue = [] ∧ grpc s.call.starts = true ∧
      runOp grpc (.closeWriting cb) s = { s.note .closeWriting with
        writingClosing := true, hasSentClose := true, writingEnded := true
        call := ((s.call.note .closeWriting).startBatch grpc .clientSendClose).2 }) ∨
    (s.writingClosing = false ∧ s.msgQueue = [] ∧ grpc s.call.starts = false ∧
      Errored { s.note .closeWriting with
        writingClosing := true, hasSentClose := true, writingEnded := true
        call := ((s.call.note .closeWriting).startBatch grpc .clientSendClose).2 }
        (runOp grpc (.closeWriting cb) s)) := by
  rcases Bool.eq_false_or_eq_true s.writingClosing with hclosing | hopen
  · exact .inl ⟨hclosing, by simp [runOp, closeWriting, hclosing]⟩
  have hunsent : s.hasSentClose = false := by
    by_contra hsent
    simp [hcore.sentClose (by simpa using hsent)] at hopen
  refine .inr ?_
  by_cases hqueue : s.msgQueue = []
  · have heq : runOp grpc (.closeWriting cb) s =
        (sendClose grpc (runOps grpc cb)
          { s.note .closeWriting with writingClosing := true }).check .closeWritingEnded
        (sendClose grpc (runOps grpc cb)
          { s.note .closeWriting with writingClosing := true }).writingEnded := by
      simp [runOp, closeWriting, hopen, hok, hqueue, hunsent]
    rw [heq]
    rcases Bool.eq_false_or_eq_true (grpc s.call.starts) with hgrpc | hgrpc
    · rw [sendClose_accepted (by exact hok) rfl (by exact hunsent) (by exact hgrpc)]
      exact .inr (.inl ⟨hopen, hqueue, hgrpc, rfl⟩)
    · have herrored : Errored _ (sendClose grpc (runOps grpc cb)
          { s.note .closeWriting with writingClosing := true }) :=
        sendClose_refused (by exact hok) rfl (by exact hunsent) (by exact hgrpc) cb
      rw [herrored.writingEnded]
      exact .inr (.inr ⟨hopen, hqueue, hgrpc, herrored⟩)
  · refine .inl ⟨hopen, hqueue, ?_⟩
    simp [runOp, closeWriting, hopen, hok, hqueue]

private theorem closeWriting_acts (hcore : Core s) (hok : s.status.ok = true) (cb : List Op) :
    Acts grpc s (runOp grpc (.closeWriting cb) s) := by
  rcases closeWriting_cases grpc hcore hok cb with ⟨hclosing, heq⟩ | ⟨hopen, hqueue, heq⟩ |
    ⟨hopen, hqueue, hgrpc, heq⟩ | ⟨hopen, hqueue, hgrpc, herrored⟩
  · rw [heq]
    exact .lives (.single (.closedAgain s hclosing))
  · rw [heq]
    exact .lives (.single (.closes s hopen hqueue))
  · rw [heq]
    exact .lives (.single (.halfCloses s hopen hqueue hgrpc))
  · exact .died (.close s hopen hqueue hgrpc) herrored (Frozen.refl herrored.failed)

theorem readNext_acts (grpc : Nat → Bool) (hok : s.status.ok = true) (hinit : s.inited = true)
    (hnew : s.readingStarted = false) (hasMsgCb : Bool) (cb : List Op) :
    Acts grpc s (readNext grpc (runOps grpc cb)
      { s with readingStarted := true, msgCb := hasMsgCb }) := by
  rcases Bool.eq_false_or_eq_true (grpc s.call.starts) with hgrpc | hgrpc
  · rw [readNext_accepted (by exact hok) (by exact hgrpc)]
    exact .lives (.single (.reads s hasMsgCb hinit hnew hgrpc))
  · have herrored := readNext_refused (s := { s with readingStarted := true, msgCb := hasMsgCb })
      hok hgrpc cb
    exact .died (.read s hasMsgCb hgrpc) herrored (Frozen.refl herrored.failed)

def Op.setsError : Op → Bool
  | .setErrorStatus _ _ => true
  | _ => false

theorem setErrorStatus_errored (grpc : Nat → Bool) (hok : s.status.ok = true) {op : Op}
    (hop : op.setsError = true) :
    ∃ status, Errored (s.note (.setErrorStatus status)) (runOp grpc op s) := by
  cases op with
  | setErrorStatus errorStatus cb =>
    refine ⟨errorStatus.status, ?_⟩
    simp only [runOp, setErrorStatus, Impl.note_status, hok, if_true]
    exact endOnErrorStatus_errored (by exact hok) errorStatus.not_ok cb
  | _ => simp [Op.setsError] at hop

private theorem runOp_acts (hcore : Core s) (hok : s.status.ok = true) (op : Op) :
    Acts grpc s (runOp grpc op s) := by
  cases op with
  | write msg cb =>
    rcases Bool.eq_false_or_eq_true s.inited with hinit | hnew
    · exact write_acts grpc hcore hok hinit msg cb
    · rcases write_first grpc hok hnew msg cb with ⟨hsend, hrecv, heq⟩ |
        ⟨u, v, hfatal, herrored, heq⟩
      · have halive : Alive grpc s _ := .init s hnew hsend hrecv
        have hwrite := write_acts grpc (halive.core hcore hok) (halive.ok hok) rfl msg cb
        rw [heq]
        exact hwrite.trans_alive (.single halive)
      · rw [heq]
        exact .died hfatal herrored (Frozen.note herrored.failed (by simp [Quiet]))
  | closeWriting cb => exact closeWriting_acts hcore hok cb
  | readEach hasMsgCb cb =>
    simp only [runOp, readEach]
    rcases Bool.eq_false_or_eq_true s.readingStarted with hstarted | hnew
    · rw [if_pos hstarted]
      exact .lives .refl
    rw [if_neg (by simp [hnew])]
    rcases Bool.eq_false_or_eq_true s.inited with hinit | hfirst
    · rw [initIfNot_inited _ (by exact hinit), if_neg (by simp [hok])]
      exact readNext_acts grpc hok hinit hnew hasMsgCb cb
    · rcases initIfNot_cases grpc hok hfirst cb true (fun _ => rfl) with
        ⟨hsend, hrecv, heq⟩ | ⟨u, hfatal, herrored⟩
      · have halive : Alive grpc s _ := .init s hfirst hsend hrecv
        rw [heq, if_neg (by simp [hok])]
        have hread := readNext_acts grpc (halive.ok hok) rfl hnew hasMsgCb cb
        exact hread.trans_alive (.single halive)
      · rw [if_pos (by simp [herrored.failed])]
        exact .died hfatal herrored (Frozen.refl herrored.failed)
  | setErrorStatus errorStatus cb =>
    obtain ⟨status, herrored⟩ := setErrorStatus_errored grpc hok
      (show (Op.setErrorStatus errorStatus cb).setsError = true from rfl)
    exact .died (.set s status) herrored (Frozen.refl herrored.failed)

theorem runOps_acts (hcore : Core s) (hok : s.status.ok = true) (ops : List Op) :
    Acts grpc s (runOps grpc ops s) := by
  induction ops generalizing s with
  | nil =>
    rw [runOps]
    exact .lives .refl
  | cons op ops ih =>
    have hop : Acts grpc s (runOp grpc op s) := runOp_acts hcore hok op
    have hcore' := hop.core hcore hok
    rw [runOps]
    cases hstatus : (runOp grpc op s).status.ok with
    | true =>
      cases hop with
      | lives halive => exact (ih hcore' hstatus).trans_alive halive
      | dies r u v halive hfatal herrored hfrozen => simp [hfrozen.failed] at hstatus
    | false => exact hop.then_frozen hstatus hok hcore (runOps_frozen hstatus ops)

end acts

end GrpcCbCore.Client.ReaderWriterImpl
