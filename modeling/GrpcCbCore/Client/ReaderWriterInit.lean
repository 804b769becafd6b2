import GrpcCbCore.Client.ReaderWriterEnds

/-! Initial metadata goes first on a `ClientAsyncReaderWriterImpl` call. `Write`
and `ReadEach` see to that before anything else; `CloseWriting` does not, and on
an object that was never written to or read from it starts the half-close alone. -/
namespace GrpcCbCore.Client.ReaderWriterImpl
open GrpcCbCore.Library Relation

/-- The operations that the initial metadata goes before. -/
def afterInit : CallOp → Bool
  | .sendMsg _ | .clientSendClose | .recvMsg => true
  | _ => false

@[simp] def startedOp (op : CallOp) : Event Note → Option CqTag
  | .start tag true => if op ∈ tag.ops then some tag else none
  | _ => none

@[simp] def attemptedOp (op : CallOp) : Event Note → Option CqTag
  | .start tag _ => if op ∈ tag.ops then some tag else none
  | _ => none

def Initialised (history : List (Event Note)) : Prop :=
  collect (startedOp .sendInitMd) history ≠ [] ∧ collect (startedOp .recvInitMd) history ≠ []

def AfterInit (before : List (Event Note)) (e : Event Note) : Prop :=
  ∀ tag, e = .start tag true → tag.ops.any afterInit = true → Initialised before

/-- Initial metadata goes first, and each of its batches is started at most once. -/
structure InitFirst (call : Call Note) : Prop where
  lawful : AtEach AfterInit call.log
  sendOnce : (collect (attemptedOp .sendInitMd) call.log).length ≤ 1
  recvOnce : (collect (attemptedOp .recvInitMd) call.log).length ≤ 1

/-- `InitIfNot` has started both batches of a live object, or nothing was tried;
a batch still outstanding that they go before finds them started. -/
structure InitState (call : Call Note) (ok inited : Bool) : Prop extends InitFirst call where
  fresh : ok = true → inited = false → collect (attemptedOp .sendInitMd) call.log = [] ∧
    collect (attemptedOp .recvInitMd) call.log = []
  ready : ok = true → inited = true → Initialised call.log
  held : ∀ tag ∈ call.outstanding, tag.ops.any afterInit = true → Initialised call.log

theorem Initialised.append {history : List (Event Note)} (h : Initialised history)
    (more : List (Event Note)) : Initialised (history ++ more) :=
  ⟨collect_ne_nil_append _ _ _ h.1, collect_ne_nil_append _ _ _ h.2⟩

private theorem attempted_of_started {op : CallOp} {history : List (Event Note)}
    (h : collect (startedOp op) history ≠ []) : collect (attemptedOp op) history ≠ [] := by
  obtain ⟨e, he, hstarted⟩ := (collect_ne_nil _ _).mp h
  refine (collect_ne_nil _ _).mpr ⟨e, he, ?_⟩
  rcases e with ⟨tag, _ | _⟩ | _ | _
  case start.true => exact hstarted
  all_goals simp at hstarted

def Plain (tag : CqTag) : Prop := .sendInitMd ∉ tag.ops ∧ .recvInitMd ∉ tag.ops

namespace InitState

variable {grpc : Nat → Bool} {call : Call Note} {ok inited : Bool} {tag : CqTag}

private theorem fails (h : InitState call ok inited) (inited' : Bool) :
    InitState call false inited' :=
  { h with fresh := by simp, ready := by simp }

private theorem inited_of_ready (h : InitState call ok inited) (hok : ok = true)
    (hready : Initialised call.log) : inited = true := by
  by_contra hnew
  exact attempted_of_started hready.1 (h.fresh hok (by simpa using hnew)).1

private theorem notes (h : InitState call ok inited) (ns : List Note) :
    InitState (call.notes ns) ok inited := by
  have hnone (op : CallOp) : collect (attemptedOp op) (ns.map Event.note) = [] := by
    apply collect_eq_nil
    simp
  refine ⟨⟨?_, ?_, ?_⟩, ?_, ?_, ?_⟩
  · apply h.lawful.append
    simp [AfterInit]
  · simpa [hnone] using h.sendOnce
  · simpa [hnone] using h.recvOnce
  · simpa [hnone] using h.fresh
  · exact fun hok hinited => (h.ready hok hinited).append _
  · exact fun tag htag hneeds => (h.held tag htag hneeds).append _

private theorem note (h : InitState call ok inited) (n : Note) : InitState
    (call.note n) ok inited := by
  simpa [Call.note, Call.notes] using h.notes [n]

private theorem hands (h : InitState call ok inited)
    (hsend : .sendInitMd ∈ tag.ops → collect (attemptedOp .sendInitMd) call.log = [])
    (hrecv : .recvInitMd ∈ tag.ops → collect (attemptedOp .recvInitMd) call.log = [])
    (hready : grpc call.starts = true → tag.ops.any afterInit = true → Initialised call.log) :
    InitState (call.startBatch grpc tag).2 false inited := by
  refine ⟨⟨?_, ?_, ?_⟩, by simp, by simp, ?_⟩
  · apply h.lawful.snoc
    intro t ht hneeds
    simp only [Event.start.injEq] at ht
    obtain ⟨rfl, hgrpc⟩ := ht
    exact hready hgrpc hneeds
  · by_cases hmem : .sendInitMd ∈ tag.ops
    · simp [hmem, hsend hmem]
    · simpa [hmem] using h.sendOnce
  · by_cases hmem : .recvInitMd ∈ tag.ops
    · simp [hmem, hrecv hmem]
    · simpa [hmem] using h.recvOnce
  · intro t ht hneeds
    apply Initialised.append
    rw [Call.startBatch_outstanding] at ht
    split at ht
    · next hgrpc =>
      rcases List.mem_append.mp ht with ht | ht
      · exact h.held t ht hneeds
      · obtain rfl := List.mem_singleton.mp ht
        exact hready hgrpc hneeds
    · exact h.held t ht hneeds

private theorem start (h : InitState call ok inited) (hplain : Plain tag)
    (hready : grpc call.starts = true → tag.ops.any afterInit = true → Initialised call.log) :
    InitState (call.startBatch grpc tag).2 ok inited :=
  { h.hands (fun hmem => absurd hmem hplain.1) (fun hmem => absurd hmem hplain.2) hready with
    fresh := by simpa [hplain.1, hplain.2] using h.fresh
    ready := fun hok hinited => (h.ready hok hinited).append _ }

private theorem initSend (h : InitState call true false) (grpc : Nat → Bool) :
    InitState (call.startBatch grpc .clientSendInitMd).2 false true :=
  (h.hands (fun _ => (h.fresh rfl rfl).1) (by simp [CqTag.ops])
    (by simp [CqTag.ops, afterInit])).fails true

private theorem initRecv (h : InitState call true false) (grpc : Nat → Bool) :
    InitState ((call.startBatch grpc .clientSendInitMd).2.startBatch grpc .clientRecvInitMd).2
      false true := by
  apply (h.initSend grpc).hands
  · simp [CqTag.ops]
  · intro _
    simpa [CqTag.ops] using (h.fresh rfl rfl).2
  · simp [CqTag.ops, afterInit]

private theorem init (h : InitState call true false) (hsend : grpc call.starts = true)
    (hrecv : grpc (call.starts + 1) = true) :
    InitState ((call.startBatch grpc .clientSendInitMd).2.startBatch grpc .clientRecvInitMd).2
      true true :=
  { h.initRecv grpc with
    fresh := by simp
    ready := by simp [Initialised, CqTag.ops, hsend, hrecv] }

private theorem complete {index : Nat} {success : Bool} {received : Received} {call' : Call Note}
    (h : InitState call ok inited)
    (hcall : call.complete index success received = some (tag, call')) :
    InitState call' ok inited ∧ (tag.ops.any afterInit = true → Initialised call'.log) := by
  obtain ⟨hmem, hsub⟩ := Call.complete_subset hcall
  have hlog := Call.complete_log hcall
  refine ⟨⟨⟨?_, ?_, ?_⟩, ?_, ?_, ?_⟩, ?_⟩
  · rw [hlog]
    apply h.lawful.snoc
    simp [AfterInit]
  · simpa [hlog] using h.sendOnce
  · simpa [hlog] using h.recvOnce
  · simpa [hlog] using h.fresh
  · intro hok hinited
    rw [hlog]
    exact (h.ready hok hinited).append _
  · intro t ht hneeds
    rw [hlog]
    exact (h.held t (hsub t ht) hneeds).append _
  · intro hneeds
    rw [hlog]
    exact (h.held tag hmem hneeds).append _

end InitState

section acts

variable {grpc : Nat → Bool} {s t u v : Impl}

def Impl.Inits (s : Impl) : Prop := InitState s.call s.status.ok s.inited

theorem Alive.inits (halive : Alive grpc s t) (hok : s.status.ok = true) (h : s.Inits)
    (hready : Initialised s.call.log) : t.Inits ∧ Initialised t.call.log := by
  unfold Impl.Inits at h ⊢
  cases halive with
  | init hnew =>
    have hinited := h.inited_of_ready hok hready
    simp [hnew] at hinited
  | ignoredWrite msg => exact ⟨h.note _, hready.append _⟩
  | closedAgain => exact ⟨h.note _, hready.append _⟩
  | queued msg => exact ⟨h.note _, hready.append _⟩
  | closes => exact ⟨h.note _, hready.append _⟩
  | sent msg =>
    refine ⟨(h.start (by simp [Plain, CqTag.ops]) fun _ _ => hready).note _, ?_⟩
    exact (hready.append _).append _
  | halfCloses =>
    refine ⟨(h.note _).start (by simp [Plain, CqTag.ops]) fun _ _ => hready.append _, ?_⟩
    exact (hready.append _).append _
  | reads =>
    exact ⟨h.start (by simp [Plain, CqTag.ops]) fun _ _ => hready, hready.append _⟩

theorem Fatal.inits (hfatal : Fatal grpc s u) (hok : s.status.ok = true) (h : s.Inits) :
    InitState u.call false u.inited := by
  unfold Impl.Inits at h
  cases hfatal with
  | set status => exact (h.note _).fails _
  | initSend reading hreading hnew =>
    rw [hok, hnew] at h
    exact h.initSend grpc
  | initRecv reading hreading hnew =>
    rw [hok, hnew] at h
    exact h.initRecv grpc
  | message msg hopen hqueue hgrpc =>
    exact (h.start (by simp [Plain, CqTag.ops]) (by simp [hgrpc])).fails _
  | close hopen hqueue hgrpc =>
    exact ((h.note _).start (by simp [Plain, CqTag.ops]) (by simp [hgrpc])).fails _
  | read hasMsgCb hgrpc =>
    exact (h.start (by simp [Plain, CqTag.ops]) (by simp [hgrpc])).fails _

theorem Errored.inits (he : Errored u v) {ok : Bool}
    (h : InitState u.call ok u.inited) : v.Inits := by
  obtain ⟨error, ns, -, -, hcall⟩ := he.notes
  rw [Impl.Inits, hcall, he.failed]
  exact (h.notes _).fails _

theorem Frozen.inits (hf : Frozen s t) (h : s.Inits) : t.Inits := by
  obtain ⟨ns, -, hcall⟩ := hf.notes
  rw [Impl.Inits, hcall, hf.failed]
  exact (h.notes ns).fails _

theorem Fatal.initialised (hfatal : Fatal grpc s u) (hready : Initialised s.call.log) :
    Initialised u.call.log := by
  cases hfatal with
  | initRecv => exact (hready.append _).append _
  | close => exact (hready.append _).append _
  | _ => exact hready.append _

theorem Errored.initialised (he : Errored u v) (hready : Initialised u.call.log) :
    Initialised v.call.log := by
  obtain ⟨error, ns, -, -, hcall⟩ := he.notes
  rw [hcall]
  exact hready.append _

theorem Frozen.initialised (hf : Frozen s t) (hready : Initialised s.call.log) :
    Initialised t.call.log := by
  obtain ⟨ns, -, hcall⟩ := hf.notes
  rw [hcall]
  exact hready.append _

theorem Acts.inits (ha : Acts grpc s t) (hcore : Core s) (hok : s.status.ok = true)
    (h : s.Inits) (hready : Initialised s.call.log) : t.Inits ∧ Initialised t.call.log := by
  apply ha.keeps (J := fun s => s.Inits ∧ Initialised s.call.log) ?_ ?_ ?_ hcore hok ⟨h, hready⟩
  · intro s t hok _ halive hs
    exact halive.inits hok hs.1 hs.2
  · intro s u v hok _ hfatal herrored hs
    exact ⟨herrored.inits (hfatal.inits hok hs.1), herrored.initialised (hfatal.initialised hs.2)⟩
  · intro s t _ hfrozen hs
    exact ⟨hfrozen.inits hs.1, hfrozen.initialised hs.2⟩

private theorem runOps_inits (hcore : Core s) (h : s.Inits) (hready : Initialised s.call.log)
    (ops : List Op) : (runOps grpc ops s).Inits ∧ Initialised (runOps grpc ops s).call.log := by
  rcases Bool.eq_false_or_eq_true s.status.ok with hok | hfailed
  · have hacts : Acts grpc s (runOps grpc ops s) := runOps_acts hcore hok ops
    exact hacts.inits hcore hok h hready
  · have hfrozen : Frozen s (runOps grpc ops s) := runOps_frozen hfailed ops
    exact ⟨hfrozen.inits h, hfrozen.initialised hready⟩

private theorem callStatusCb_inits (hcore : Core s) (h : s.Inits) (hready : Initialised s.call.log)
    (cb : List Op) : (callStatusCb (runOps grpc cb) s).Inits := by
  unfold callStatusCb
  split
  · have hcore' : Core (s.note (.statusCb s.status)) := { hcore with }
    have hnote : (s.note (.statusCb s.status)).Inits := h.note _
    exact (runOps_inits hcore' hnote (hready.append _) cb).1
  · exact h

end acts

section first

variable {grpc : Nat → Bool} {s : Impl}

/-- A half-close on a live object whose initial metadata was never started. -/
def Bare (grpc : Nat → Bool) (s : Impl) : Label → Prop
  | .op op => EndsWriting grpc s op ∧ s.inited = false
  | .complete _ _ _ _ => False

/-- The first call on a live object that gets to grpc. -/
theorem runOp_first (hcore : Core s) (hok : s.status.ok = true) (hnew : s.inited = false)
    (h : s.Inits) (op : Op) (hgood : ¬ EndsWriting grpc s op) : (runOp grpc op s).Inits := by
  have hfresh : InitState s.call true false := by
    rwa [Impl.Inits, hok, hnew] at h
  cases op with
  | write msg cb =>
    rcases write_first grpc hok hnew msg cb with ⟨hsend, hrecv, heq⟩ |
      ⟨u, v, hfatal, herrored, heq⟩
    · have halive : Alive grpc s _ := .init s hnew hsend hrecv
      have hinit := hfresh.init hsend hrecv
      have hacts := write_acts grpc (halive.core hcore hok) (halive.ok hok) rfl msg cb
      rw [heq]
      refine (hacts.inits (halive.core hcore hok) (halive.ok hok) ?_ (hinit.ready rfl rfl)).1
      simpa [Impl.Inits, hok] using hinit
    · rw [heq]
      exact (herrored.inits (hfatal.inits hok h)).note _
  | closeWriting cb =>
    rcases closeWriting_cases grpc hcore hok cb with ⟨-, heq⟩ | ⟨-, -, heq⟩ |
      ⟨hopen, hqueue, hgrpc, -⟩ | ⟨hopen, hqueue, hgrpc, herrored⟩
    · rw [heq]
      exact h.note _
    · rw [heq]
      exact h.note _
    · exact absurd ⟨⟨cb, rfl⟩, hok, hopen, hqueue, hgrpc⟩ hgood
    · exact herrored.inits ((Fatal.close s hopen hqueue hgrpc).inits hok h)
  | readEach hasMsgCb cb =>
    simp only [runOp, readEach]
    rcases Bool.eq_false_or_eq_true s.readingStarted with hstarted | hunstarted
    · rwa [if_pos hstarted]
    rw [if_neg (by simp [hunstarted])]
    rcases initIfNot_cases grpc hok hnew cb true (fun _ => rfl) with
      ⟨hsend, hrecv, heq⟩ | ⟨u, hfatal, herrored⟩
    · have halive : Alive grpc s _ := .init s hnew hsend hrecv
      have hinit := hfresh.init hsend hrecv
      have hacts := readNext_acts grpc (halive.ok hok) rfl hunstarted hasMsgCb cb
      rw [heq, if_neg (by simp [hok])]
      refine (hacts.inits (halive.core hcore hok) (halive.ok hok) ?_ (hinit.ready rfl rfl)).1
      simpa [Impl.Inits, hok] using hinit
    · rw [if_pos (by simp [herrored.failed])]
      exact herrored.inits (hfatal.inits hok h)
  | setErrorStatus errorStatus cb =>
    obtain ⟨status, herrored⟩ := setErrorStatus_errored grpc hok
      (show (Op.setErrorStatus errorStatus cb).setsError = true from rfl)
    have hfatal : Fatal grpc s _ := .set s status
    exact herrored.inits (hfatal.inits hok h)

private theorem runOp_inits (hcore : Core s) (h : s.Inits) (op : Op)
    (hgood : ¬ Bare grpc s (.op op)) : (runOp grpc op s).Inits := by
  rcases Bool.eq_false_or_eq_true s.status.ok with hok | hfailed
  · rcases Bool.eq_false_or_eq_true s.inited with hinited | hnew
    · have hready := InitState.ready h hok hinited
      simpa [runOps] using (runOps_inits hcore h hready [op]).1
    · exact runOp_first hcore hok hnew h op fun hends => hgood ⟨hends, hnew⟩
  · have hfrozen : Frozen s (runOp grpc op s) := runOp_frozen hfailed op
    exact hfrozen.inits h

end first

section steps

variable {grpc : Nat → Bool} {s t u : Impl} {l : Lane StdString Unit} {call : Call Note}

theorem Sent.inits {success : Bool} {cb : List Op} (hsent : Sent grpc cb s call success t)
    (hcore : Core s) (h : InitState call s.status.ok s.inited)
    (hready : Initialised call.log) : t.Inits := by
  have hclose : InitState (call.startBatch grpc .clientSendClose).2 s.status.ok
      s.inited :=
    h.start (by simp [Plain, CqTag.ops]) fun _ _ => hready
  have hsend (front : StdString) : InitState
      (call.startBatch grpc (.clientSendMsg front)).2 s.status.ok s.inited :=
    h.start (by simp [Plain, CqTag.ops]) fun _ _ => hready
  cases hsent with
  | next front rest hqueue hgrpc => exact hsend front
  | idle hqueue hopen => exact h
  | closes hqueue hclosing hreading hgrpc => exact hclose
  | ends hqueue hclosing hreading hgrpc =>
    exact callStatusCb_inits (hcore.half_closes hclosing _ _) hclose (hready.append _) cb
  | failed t herrored => exact herrored.inits h
  | nextRefused front rest t hqueue hgrpc herrored => exact herrored.inits (hsend front)
  | closeRefused t hqueue hclosing hgrpc herrored => exact herrored.inits hclose

theorem Undead.inits (hu : Undead grpc u t) (h : u.Inits) (hready : Initialised u.call.log) :
    t.Inits := by
  obtain ⟨ns, ms, -, hcall⟩ := hu.call
  rw [Impl.Inits, hu.failed]
  rcases hcall with hcall | hcall
  · rw [hcall]
    exact (h.notes _).fails _
  · have hread : InitState ((u.call.notes ns).startBatch grpc .clientReaderRead).2
        u.status.ok u.inited :=
      (h.notes ns).start (by simp [Plain, CqTag.ops]) fun _ _ => hready.append _
    rw [hcall]
    exact (hread.notes ms).fails _

private theorem goesOn_inits (grpc : Nat → Bool) (script : Script) (hcore : Core u) (h : u.Inits)
    (hready : Initialised u.call.log) : (goesOn grpc script u).Inits := by
  have hread : InitState ((u.call.note (.msgCbReturns script.msgCbResult)).startBatch
      grpc .clientReaderRead).2 u.status.ok u.inited :=
    (h.note _).start (by simp [Plain, CqTag.ops]) fun _ _ => hready.append _
  rcases Bool.eq_false_or_eq_true u.status.ok with hok | hfailed
  · rcases goesOn_cases grpc script hok with herrored | ⟨-, heq⟩ | ⟨-, herrored⟩
    · exact herrored.inits (h.note _)
    · rw [heq]
      exact hread
    · exact herrored.inits hread
  · have hundead : Undead grpc u (goesOn grpc script u) :=
      goesOn_dead script hfailed (hcore.silenced hfailed)
    exact hundead.inits h hready

theorem Heard.inits {script : Script} {success : Bool} {received : Received}
    (hheard : Heard grpc script s call success received t) (hcore : Core s)
    (hok : s.status.ok = true) (h : InitState call s.status.ok s.inited)
    (hready : Initialised call.log) : t.Inits := by
  have hread : InitState (call.startBatch grpc .clientReaderRead).2 s.status.ok
      s.inited :=
    h.start (by simp [Plain, CqTag.ops]) fun _ _ => hready
  cases hheard with
  | closes _ hnone hwriting => exact h
  | ends _ hnone hwriting =>
    have hcore' : Core { s with call := call, readingEnded := true } := { hcore with }
    exact callStatusCb_inits hcore' h hready script.statusCb
  | reads _ bytes hbuf hcb hgrpc => exact hread
  | hears _ bytes hbuf hcb =>
    have hcore' : Core { s with call := call.note (.msgCb bytes) } := { hcore with }
    have hacts : Acts grpc { s with call := call.note (.msgCb bytes) }
        (runOps grpc script.msgCb { s with call := call.note (.msgCb bytes) }) :=
      runOps_acts hcore' hok script.msgCb
    obtain ⟨hinits, hstarted⟩ := hacts.inits hcore' hok (h.note _) (hready.append _)
    exact goesOn_inits grpc script (hacts.core hcore' hok) hinits hstarted
  | failed _ t herrored => exact herrored.inits h
  | garbled _ t hbuf herrored => exact herrored.inits h
  | readRefused _ bytes t hbuf hcb hgrpc herrored => exact herrored.inits hread

private theorem step_inits {label : Label} (href : Refines s l) (h : s.Inits)
    (hgood : ¬ Bare grpc s label) (hstep : step grpc s label = some t) : t.Inits := by
  cases step_cases href hstep with
  | op op => exact runOp_inits href.core h op hgood
  | sent _ _ _ _ m call t hcall hok hsent =>
    obtain ⟨hinits, hready⟩ := InitState.complete h hcall
    exact hsent.inits href.core hinits (hready rfl)
  | sentDead _ _ _ _ m call hcall => exact (InitState.complete h hcall).1
  | heard _ _ _ _ call t hcall hok hstarted hheard =>
    obtain ⟨hinits, hready⟩ := InitState.complete h hcall
    exact hheard.inits href.core hok hinits (hready rfl)
  | silent _ _ _ _ tag call hcall => exact (InitState.complete h hcall).1

/-- A bare half-close is started before the initial metadata. -/
theorem bare_breaks {label : Label} (href : Refines s l) (h : s.Inits)
    (hbad : Bare grpc s label) (hstep : step grpc s label = some t) : ¬ InitFirst t.call := by
  cases label with
  | complete => exact hbad.elim
  | op op =>
    obtain ⟨⟨⟨cb, rfl⟩, hok, hopen, hqueue, hgrpc⟩, hnew⟩ := hbad
    obtain rfl : runOp grpc (.closeWriting cb) s = t := by simpa [step] using hstep
    rcases closeWriting_cases grpc href.core hok cb with ⟨hclosing, -⟩ | ⟨-, hbusy, -⟩ |
      ⟨-, -, -, heq⟩ | ⟨-, -, hrefused, -⟩
    · simp [hopen] at hclosing
    · exact absurd hqueue hbusy
    · intro hfirst
      rw [heq] at hfirst
      have hready : Initialised (s.call.note .closeWriting).log :=
        hfirst.lawful _ (.start .clientSendClose true) [] (by simp [hgrpc]) _ rfl rfl
      have hsend : collect (attemptedOp .sendInitMd) s.call.log ≠ [] := by
        simpa using attempted_of_started hready.1
      exact hsend (InitState.fresh h hok hnew).1
    · simp [hgrpc] at hrefused

private theorem inits_fresh (statusCb : Bool) : (clientAsyncReaderWriterImpl statusCb).Inits := by
  refine ⟨⟨?_, ?_, ?_⟩, ?_, ?_, ?_⟩ <;> simp [clientAsyncReaderWriterImpl]

end steps

/-- Initial metadata goes first throughout a run, just when no half-close is
asked of an object that has not called `InitIfNot`. -/
theorem init_first_iff {grpc : Nat → Bool} {statusCb : Bool} {ls : List Label} {s : Impl}
    (hrun : (machine grpc).run (clientAsyncReaderWriterImpl statusCb) ls = some s) :
    (machine grpc).Throughout (fun s => InitFirst s.call)
        (clientAsyncReaderWriterImpl statusCb) ls ↔
      (machine grpc).Along (fun s label => ¬ Bare grpc s label)
        (clientAsyncReaderWriterImpl statusCb) ls := by
  refine Machine.throughout_iff_along
    (I := fun s => (∃ l, Refines s l) ∧ s.Inits) ?_ ?_ ?_ ?_ hrun
  · exact fun s h => h.2.toInitFirst
  · rintro s label t ⟨⟨l, href⟩, h⟩ hgood hstep
    exact ⟨step_refines href hstep, step_inits href h hgood hstep⟩
  · rintro s label t ⟨⟨l, href⟩, h⟩ hbad hstep
    exact bare_breaks href h (not_not.mp hbad) hstep
  · exact ⟨⟨_, refines_fresh statusCb⟩, inits_fresh statusCb⟩

/-- The half-close after a message. -/
theorem init_first_written :
    (machine fun _ => true).Throughout (fun s => InitFirst s.call)
      (clientAsyncReaderWriterImpl false) [.op (.write [1] []), .op (.closeWriting [])] := by
  have hrun : (machine fun _ => true).run (clientAsyncReaderWriterImpl false)
      [.op (.write [1] []), .op (.closeWriting [])] = some _ := rfl
  refine (init_first_iff hrun).mpr ((Machine.along_cons rfl).mpr ⟨?_, (Machine.along_cons rfl).mpr
    ⟨?_, Machine.along_nil _ _⟩⟩)
  · rintro ⟨⟨⟨cb, hop⟩, -⟩, -⟩
    cases hop
  · rintro ⟨-, hnew⟩
    cases hnew

/-- The destructor of the wrapper half-closes a call that was never used. -/
theorem half_close_without_init :
    ∃ s, (machine fun _ => true).run (clientAsyncReaderWriterImpl false)
        [.op (.closeWriting [])] = some s ∧
      s.call.log = [.note .closeWriting, .start .clientSendClose true] ∧
      ¬ InitFirst s.call := by
  refine ⟨_, rfl, rfl, fun hfirst => ?_⟩
  have hready : Initialised [.note .closeWriting] :=
    hfirst.lawful [.note .closeWriting] (.start .clientSendClose true) [] rfl _ rfl rfl
  exact hready.1 rfl

end GrpcCbCore.Client.ReaderWriterImpl
