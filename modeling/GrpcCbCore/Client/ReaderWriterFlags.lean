import GrpcCbCore.Client.ReaderWriterActs

/-! The ended flags of a `ClientAsyncReaderWriterImpl` where user code runs.
`EndOnErrorStatus` calls the status callback between its assignment to the status
and those to the flags, so a call made there may find the one without the others. -/
namespace GrpcCbCore.Client.ReaderWriterImpl
open GrpcCbCore.Library

section

variable (enter : Impl → Impl) (grpc : Nat → Bool)

mutual

/-- `runOp`, with `enter` run wherever a public call starts. -/
def runOpWith : Op → Impl → Impl
  | .write msg cb, s =>
      let r := write grpc (runOpsWith cb) msg (enter s)
      r.2.note (.write msg r.1)
  | .closeWriting cb, s => closeWriting grpc (runOpsWith cb) ((enter s).note .closeWriting)
  | .readEach hasMsgCb cb, s => readEach grpc (runOpsWith cb) hasMsgCb (enter s)
  | .setErrorStatus errorStatus cb, s =>
      setErrorStatus (runOpsWith cb) errorStatus
        ((enter s).note (.setErrorStatus errorStatus.status))
termination_by structural op => op

def runOpsWith : List Op → Impl → Impl
  | [], s => s
  | op :: ops, s => runOpsWith ops (runOpWith op s)
termination_by structural ops => ops

end

def doCompleteWith (script : Script) (tag : CqTag) (success : Bool) (received : Received)
    (s : Impl) : Impl :=
  match tag with
  | .clientSendMsg _ => onSent grpc (runOpsWith enter grpc script.statusCb) success s
  | .clientReaderRead =>
      onRead grpc (fun s => (script.msgCbResult, runOpsWith enter grpc script.msgCb s))
        (runOpsWith enter grpc script.statusCb) success received s
  | _ => s

def stepWith (s : Impl) : Label → Option Impl
  | .op op => some (runOpWith enter grpc op s)
  | .complete index success received script =>
      match s.call.complete index success received with
      | none => none
      | some (tag, call) =>
        some (doCompleteWith enter grpc script tag success received { s with call := call })

def machineWith : Machine Impl Label where
  step := stepWith enter grpc

end

mutual

private theorem runOpWith_id (grpc : Nat → Bool) : ∀ op, runOpWith id grpc op = runOp grpc op
  | .write msg cb => by
    funext s
    simp only [runOpWith, runOp, runOpsWith_id grpc cb, id]
  | .closeWriting cb => by
    funext s
    simp only [runOpWith, runOp, runOpsWith_id grpc cb, id]
  | .readEach hasMsgCb cb => by
    funext s
    simp only [runOpWith, runOp, runOpsWith_id grpc cb, id]
  | .setErrorStatus errorStatus cb => by
    funext s
    simp only [runOpWith, runOp, runOpsWith_id grpc cb, id]

private theorem runOpsWith_id (grpc : Nat → Bool) : ∀ ops, runOpsWith id grpc ops = runOps grpc ops
  | [] => by
    funext s
    simp only [runOpsWith, runOps]
  | op :: ops => by
    funext s
    simp only [runOpsWith, runOps, runOpWith_id grpc op, runOpsWith_id grpc ops]

end

/-- With nothing to run there, it is the code itself. -/
theorem machineWith_id (grpc : Nat → Bool) : machineWith id grpc = machine grpc := by
  have hstep : stepWith id grpc = step grpc := by
    funext s label
    cases label with
    | op op => simp only [stepWith, step, runOpWith_id]
    | complete index success received script =>
      have hcomplete : doCompleteWith id grpc script = doComplete grpc script := by
        funext tag success received s
        cases tag <;> simp only [doCompleteWith, doComplete, runOpsWith_id]
      cases hcall : s.call.complete index success received with
      | none => simp only [stepWith, step, hcall]
      | some done => simp only [stepWith, step, hcall, hcomplete]
  simp only [machineWith, machine, hstep]

def BothEnded (s : Impl) : Prop := s.readingEnded = true ∧ s.writingEnded = true

/-- An error has ended both directions. -/
def Settled (s : Impl) : Prop := s.status.ok = false → BothEnded s

/-- The assert of `Write`, made where a public call starts. -/
def watch (s : Impl) : Impl :=
  s.check .writeEnded (s.status.ok || (s.readingEnded && s.writingEnded))

def Marked (call : Call Note) : Prop := .note (.fault .writeEnded) ∈ call.log

instance (call : Call Note) : Decidable (Marked call) :=
  inferInstanceAs (Decidable (.note (.fault .writeEnded) ∈ call.log))

/-- Should an error end `s`, its status callback would make the calls `cb` before both
flags are set. -/
def Speaks (cb : List Op) (s : Impl) : Prop := s.statusCb = true ∧ cb ≠ [] ∧ ¬ BothEnded s

/-- What `EndOnErrorStatus` comes to in `t`, entered with the flags and the history of `s`. -/
structure Ends (cb : List Op) (s t : Impl) : Prop where
  failed : t.status.ok = false
  ended : BothEnded t
  silenced : t.statusCb = false
  marked : Marked t.call ↔ Marked s.call ∨ Speaks cb s

section marks

variable {grpc : Nat → Bool} {s t : Impl} {call : Call Note}

@[simp] theorem marked_note (n : Note) :
    Marked (call.note n) ↔ Marked call ∨ n = .fault .writeEnded := by
  simp [Marked, eq_comm]

@[simp] theorem marked_startBatch (tag : CqTag) :
    Marked (call.startBatch grpc tag).2 ↔ Marked call := by
  simp [Marked]

private theorem marked_complete {index : Nat} {success : Bool} {received : Received} {tag : CqTag}
    {call' : Call Note} (h : call.complete index success received = some (tag, call')) :
    Marked call' ↔ Marked call := by
  simp [Marked, Call.complete_log h]

private theorem marked_check (site : Site) (holds : Bool) (s : Impl) :
    Marked (s.check site holds).call ↔ Marked s.call ∨ (site = .writeEnded ∧ holds = false) := by
  cases holds <;> simp [Impl.check]

private theorem check_same (site : Site) (holds : Bool) (s : Impl) :
    s.check site holds = { s with call := (s.check site holds).call } := by
  cases holds <;> rfl

theorem Frozen.marked (h : Frozen s t) (hs : Marked s.call) : Marked t.call := by
  obtain ⟨ns, -, hcall⟩ := h.notes
  rw [Marked, hcall, Call.notes_log]
  exact List.mem_append_left _ hs

end marks

section dead

variable (grpc : Nat → Bool) {s : Impl}

private theorem runOpWith_failed (hfailed : s.status.ok = false) (op : Op) :
    runOpWith watch grpc op s = runOp grpc op (watch s) := by
  have hwatch : (watch s).status.ok = false := by
    rw [watch, check_same]
    exact hfailed
  cases op with
  | write msg cb => simp [runOpWith, runOp, write, initIfNot_failed _ hwatch, hwatch]
  | closeWriting cb => simp [runOpWith, runOp, closeWriting, hwatch]
  | readEach hasMsgCb cb =>
    have hread : ({ watch s with readingStarted := true } : Impl).status.ok = false := hwatch
    simp [runOpWith, runOp, readEach, initIfNot_failed _ hread, hwatch]
  | setErrorStatus errorStatus cb => simp [runOpWith, runOp, setErrorStatus, hwatch]

/-- The assert holds in a call on a dead object whose directions have ended. -/
theorem runOp_marked (hfailed : s.status.ok = false) (hended : BothEnded s) (op : Op) :
    Marked (runOp grpc op s).call ↔ Marked s.call := by
  obtain ⟨hreading, hwriting⟩ := hended
  cases op with
  | write msg cb =>
    simp [runOp, write, initIfNot_failed _ hfailed, hfailed, hreading, hwriting]
  | closeWriting cb =>
    simp only [runOp, closeWriting, Impl.note_status, hfailed]
    split <;> simp
  | readEach hasMsgCb cb =>
    have hread : ({ s with readingStarted := true } : Impl).status.ok = false := hfailed
    simp only [runOp, readEach, initIfNot_failed _ hread, hfailed]
    split <;> simp
  | setErrorStatus errorStatus cb =>
    simp [runOp, setErrorStatus, hfailed, Impl.setStatus]

private theorem runOpsWith_failed (hfailed : s.status.ok = false) (ops : List Op) :
    (runOpsWith watch grpc ops s).status.ok = false ∧
    (BothEnded (runOpsWith watch grpc ops s) ↔ BothEnded s) ∧
    (Marked (runOpsWith watch grpc ops s).call ↔
      Marked s.call ∨ (ops ≠ [] ∧ ¬ BothEnded s)) := by
  induction ops generalizing s with
  | nil => simp [runOpsWith, hfailed]
  | cons op ops ih =>
    have hwatch : (watch s).status.ok = false := by
      rw [watch, check_same]
      exact hfailed
    have hfrozen : Frozen (watch s) (runOp grpc op (watch s)) := runOp_frozen hwatch op
    have hended : BothEnded (runOp grpc op (watch s)) ↔ BothEnded s := by
      rw [BothEnded, hfrozen.readingEnded, hfrozen.writingEnded, watch, check_same]
      rfl
    have hmarked : Marked (runOp grpc op (watch s)).call ↔ Marked s.call ∨ ¬ BothEnded s := by
      by_cases hboth : BothEnded s
      · have hsame : watch s = s := by
          simp [watch, hboth.1, hboth.2]
        simp [hsame, runOp_marked grpc hfailed hboth, hboth]
      · have hmark : Marked (watch s).call := by
          rw [watch, marked_check]
          simp only [BothEnded] at hboth
          exact .inr ⟨rfl, by simpa [hfailed] using hboth⟩
        simp [hfrozen.marked hmark, hboth]
    obtain ⟨hrest, hflags, hmarks⟩ := ih hfrozen.failed
    rw [runOpsWith, runOpWith_failed grpc hfailed]
    refine ⟨hrest, hflags.trans hended, ?_⟩
    rw [hmarks, hmarked, hended]
    simp only [ne_eq, List.cons_ne_nil, not_false_iff, true_and]
    tauto

private theorem endOnErrorStatus_ends {error : Status} (herror : error.ok = false) (cb : List Op)
    (s : Impl) : Ends cb s (endOnErrorStatus (runOpsWith watch grpc cb) error s) := by
  have hcall : Marked (s.check .endOnErrorStatusStatus s.status.ok).call ↔ Marked s.call := by
    simp [marked_check]
  simp only [endOnErrorStatus, herror, Bool.not_false, Impl.check_true]
  rw [check_same]
  generalize (s.check .endOnErrorStatusStatus s.status.ok).call = call at hcall ⊢
  unfold callStatusCb
  rcases Bool.eq_false_or_eq_true s.statusCb with hcb | hcb
  · rw [if_pos (by simp [Impl.setStatus, hcb])]
    obtain ⟨hfailed, -, hmarked⟩ := runOpsWith_failed grpc (s := Impl.note
      (.statusCb error) (Impl.setStatus error { s with call := call })) herror cb
    refine ⟨hfailed, ⟨rfl, rfl⟩, rfl, hmarked.trans ?_⟩
    simp [Impl.setStatus, Speaks, hcb, hcall, BothEnded]
  · rw [if_neg (by simp [Impl.setStatus, hcb])]
    exact ⟨herror, ⟨rfl, rfl⟩, hcb, by simp [Impl.setStatus, Speaks, hcb, hcall]⟩

end dead

section conditions

variable (grpc : Nat → Bool)

/-- Does `InitIfNot` start the initial metadata now, and grpc refuse one of the batches? -/
def initRefused (s : Impl) : Bool :=
  !s.inited && !(grpc s.call.starts && grpc (s.call.starts + 1))

def nextStart (s : Impl) : Nat := if s.inited then s.call.starts else s.call.starts + 2

/-- The call ends a live object by an error, and before both flags are set its status
callback calls the object again. -/
def Interrupts (s : Impl) : Op → Prop
  | .write _ cb => s.status.ok = true ∧ Speaks cb s ∧
      (initRefused grpc s = true ∨ (s.writingClosing || s.writingEnded) = false ∧
        s.msgQueue = [] ∧ grpc (nextStart s) = false)
  | .closeWriting cb => s.status.ok = true ∧ Speaks cb { s with writingEnded := true } ∧
      s.writingClosing = false ∧ s.msgQueue = [] ∧ grpc s.call.starts = false
  | .readEach _ cb => s.status.ok = true ∧ Speaks cb s ∧ s.readingStarted = false ∧
      (initRefused grpc s = true ∨ grpc (nextStart s) = false)
  | .setErrorStatus _ cb => s.status.ok = true ∧ Speaks cb s

end conditions

/-- From `s` to `t` the flags keep to the status, but for user code if `interrupted`. -/
structure Watched (s t : Impl) (interrupted : Prop) : Prop where
  settled : Settled t
  ended : BothEnded s → BothEnded t
  marked : Marked t.call ↔ Marked s.call ∨ interrupted

section calls

variable (grpc : Nat → Bool) {s t u : Impl} {cb : List Op} {p q : Prop}

theorem Watched.trans (h : Watched s t p) (h' : Watched t u q) : Watched s u (p ∨ q) :=
  ⟨h'.settled, fun hs => h'.ended (h.ended hs), by rw [h'.marked, h.marked, or_assoc]⟩

theorem Watched.congr (h : Watched s t p) (hpq : p ↔ q) : Watched s t q :=
  ⟨h.settled, h.ended, by rw [h.marked, hpq]⟩

theorem Watched.of_same (h : Watched u t p) (hmarked : Marked u.call ↔ Marked s.call)
    (hreading : u.readingEnded = s.readingEnded) (hwriting : u.writingEnded = s.writingEnded)
    (hpq : p ↔ q) : Watched s t q :=
  ⟨h.settled, fun hs => h.ended ⟨hreading.trans hs.1, hwriting.trans hs.2⟩,
    by rw [h.marked, hmarked, hpq]⟩

theorem Watched.note (h : Watched s t p) {n : Note} (hn : n ≠ .fault .writeEnded) :
    Watched s (t.note n) p :=
  ⟨h.settled, h.ended, by simp [h.marked, hn]⟩

theorem Ends.watched (h : Ends cb s t) : Watched s t (Speaks cb s) :=
  ⟨fun _ => h.ended, fun _ => h.ended, h.marked⟩

theorem Ends.of_same (h : Ends cb u t) (hmarked : Marked u.call ↔ Marked s.call)
    (hcb : u.statusCb = s.statusCb) (hreading : u.readingEnded = s.readingEnded)
    (hwriting : u.writingEnded = s.writingEnded) : Ends cb s t := by
  refine ⟨h.failed, h.ended, h.silenced, ?_⟩
  rw [h.marked, hmarked]
  simp only [Speaks, BothEnded, hcb, hreading, hwriting]

private theorem check_cases (site : Site) (hsite : site ≠ .writeEnded) (holds : Bool) (s : Impl) :
    ∃ call, s.check site holds = { s with call := call } ∧ call.starts = s.call.starts ∧
      (Marked call ↔ Marked s.call) := by
  refine ⟨_, check_same site holds s, ?_, by simp [marked_check, hsite]⟩
  cases holds <;> rfl

private theorem setInternalError_ends (sError : StdString) (cb : List Op) (s : Impl) :
    Ends cb s (setInternalError (runOpsWith watch grpc cb) sError s) := by
  obtain ⟨call, heq, -, hmarked⟩ :=
    check_cases .setInternalErrorStatus (by simp) s.status.ok s
  rw [setInternalError, heq]
  exact (endOnErrorStatus_ends grpc (Status.ok_internalError sError) cb _).of_same hmarked rfl rfl
    rfl

private theorem initIfNot_watched (hok : s.status.ok = true) (cb : List Op) :
    (initRefused grpc s = true ∧ Ends cb s (initIfNot grpc (runOpsWith watch grpc cb) s)) ∨
    (initRefused grpc s = false ∧ ∃ call, call.starts = nextStart s ∧
      (Marked call ↔ Marked s.call) ∧
      initIfNot grpc (runOpsWith watch grpc cb) s = { s with inited := true, call := call }) := by
  rcases Bool.eq_false_or_eq_true s.inited with hinit | hnew
  · refine .inr ⟨by simp [initRefused, hinit], s.call, by simp [nextStart, hinit], Iff.rfl, ?_⟩
    rw [initIfNot_inited _ hinit, ← hinit]
  obtain ⟨hsend, hrecv, heq⟩ | ⟨hsend, hrecv, heq⟩ | ⟨hsend, heq⟩ :=
    initIfNot_new (runOpsWith watch grpc cb) hok hnew
  · exact .inr ⟨by simp [initRefused, hsend, hrecv], _, by simp [nextStart, hnew], by simp, heq⟩
  · refine .inl ⟨by simp [initRefused, hnew, hrecv], ?_⟩
    rw [heq]
    exact (setInternalError_ends grpc _ cb _).of_same (by simp) rfl rfl rfl
  · refine .inl ⟨by simp [initRefused, hnew, hsend], ?_⟩
    rw [heq]
    exact (setInternalError_ends grpc _ cb _).of_same (by simp) rfl rfl rfl

private theorem sendNext_watched (hok : s.status.ok = true) {front : StdString}
    {rest : List StdString} (hqueue : s.msgQueue = front :: rest) (cb : List Op) :
    Watched s (sendNext grpc (runOpsWith watch grpc cb) s).2
      (grpc s.call.starts = false ∧ Speaks cb s) := by
  rcases Bool.eq_false_or_eq_true (grpc s.call.starts) with hgrpc | hgrpc
  · rw [sendNext_accepted hok hqueue hgrpc]
    exact ⟨by simp [Settled, hok], id, by simp [hgrpc]⟩
  · have hends : Ends cb s (sendNext grpc (runOpsWith watch grpc cb) s).2 := by
      rw [sendNext_fails hok hqueue hgrpc]
      exact (setInternalError_ends grpc _ cb _).of_same (by simp) rfl rfl rfl
    exact hends.watched.congr (by simp [hgrpc])

private theorem readNext_watched (hs : Settled s) (cb : List Op) :
    Watched s (readNext grpc (runOpsWith watch grpc cb) s)
      (grpc s.call.starts = false ∧ Speaks cb s) := by
  obtain ⟨call, heq, hstarts, hmarked⟩ :=
    check_cases .readNextStatus (by simp) s.status.ok s
  simp only [readNext, heq, Impl.startBatch, Call.startBatch_fst, hstarts]
  rcases Bool.eq_false_or_eq_true (grpc s.call.starts) with hgrpc | hgrpc
  · rw [hgrpc]
    exact ⟨hs, id, by simp [hmarked]⟩
  · rw [hgrpc]
    have hends := (setInternalError_ends grpc
      (lit "Failed to async read bi-directional streaming.") cb { s with
        call := (call.startBatch grpc .clientReaderRead).2 }).of_same (s := s)
        (by simp [hmarked]) rfl rfl rfl
    exact hends.watched.congr (by simp)

/-- The half-close, `writing_ended_` being set before it. -/
theorem sendClose_watched (hok : s.status.ok = true) (cb : List Op) :
    (sendClose grpc (runOpsWith watch grpc cb) s).writingEnded = true ∧
    Watched s (sendClose grpc (runOpsWith watch grpc cb) s)
      (grpc s.call.starts = false ∧ Speaks cb { s with writingEnded := true }) := by
  obtain ⟨call, heq, hstarts, hmarked⟩ :=
    check_cases .sendCloseClosing (by simp) s.writingClosing s
  obtain ⟨call', heq', hstarts', hmarked'⟩ :=
    check_cases .sendCloseOnce (by simp) (!s.hasSentClose) { s with call := call }
  simp only [sendClose, heq, heq', hok, Impl.check_true, Impl.startBatch, Call.startBatch_fst,
    hstarts', hstarts]
  have hflag : BothEnded s → s.readingEnded = true := And.left
  rcases Bool.eq_false_or_eq_true (grpc s.call.starts) with hgrpc | hgrpc
  · rw [hgrpc]
    exact ⟨rfl, by simp [Settled, hok], fun hs => ⟨hflag hs, rfl⟩, by simp [hmarked', hmarked]⟩
  · rw [hgrpc]
    have hends := (setInternalError_ends grpc (lit "Failed to close writing.") cb
      { s with
        hasSentClose := true, writingEnded := true
        call := (call'.startBatch grpc .clientSendClose).2 }).of_same
      (s := { s with writingEnded := true }) (by simp [hmarked', hmarked]) rfl rfl rfl
    exact ⟨hends.ended.2, fun _ => hends.ended, fun _ => hends.ended, by simp [hends.marked]⟩

private theorem closesWriting_watched (hok : s.status.ok = true) (cb : List Op) :
    Watched s ((sendClose grpc (runOpsWith watch grpc cb)
        (s.check .closeWritingOnce (!s.hasSentClose))).check .closeWritingEnded
      (sendClose grpc (runOpsWith watch grpc cb)
        (s.check .closeWritingOnce (!s.hasSentClose))).writingEnded)
      (grpc s.call.starts = false ∧ Speaks cb { s with writingEnded := true }) := by
  obtain ⟨call, heq, hstarts, hmarked⟩ :=
    check_cases .closeWritingOnce (by simp) (!s.hasSentClose) s
  obtain ⟨hwriting, hclose⟩ := sendClose_watched grpc (s := { s with call := call })
    hok cb
  rw [heq, hwriting, Impl.check_true]
  exact hclose.of_same hmarked rfl rfl (by simp [hstarts, Speaks, BothEnded])

private theorem runOpWith_ignored (hfailed : s.status.ok = false) (hs : Settled s) (op : Op) :
    Watched s (runOpWith watch grpc op s) False := by
  obtain ⟨-, hended, hmarked⟩ := runOpsWith_failed grpc hfailed [op]
  simp only [runOpsWith] at hended hmarked
  refine ⟨fun _ => hended.mpr (hs hfailed), hended.mpr, ?_⟩
  simp [hmarked, hs hfailed]

private theorem runOpWith_watched (hs : Settled s) (op : Op) :
    Watched s (runOpWith watch grpc op s) (Interrupts grpc s op) := by
  rcases Bool.eq_false_or_eq_true s.status.ok with hok | hfailed
  case inr =>
    refine (runOpWith_ignored grpc hfailed hs op).congr ?_
    cases op <;> simp [Interrupts, hfailed]
  have hwatch : watch s = s := by simp [watch, hok]
  cases op with
  | write msg cb =>
    simp only [runOpWith, hwatch, write, Interrupts, hok, true_and]
    rcases initIfNot_watched grpc hok cb with
      ⟨hrefused, hends⟩ | ⟨haccepted, call, hstarts, hmarked, heq⟩
    · simp only [hends.failed, hends.ended.1, hends.ended.2, Bool.not_false, if_true,
        Bool.and_self, Impl.check_true]
      exact (hends.watched.note (by simp)).congr (by simp [hrefused])
    simp only [heq, hok, Bool.not_true, Bool.false_eq_true, if_false]
    rcases Bool.eq_false_or_eq_true (s.writingClosing || s.writingEnded) with hshut | hopen
    · rw [if_pos hshut]
      exact ⟨by simp [Settled, hok], id, by simp [hmarked, haccepted, hshut]⟩
    rw [if_neg (by simp [hopen])]
    cases hqueue : s.msgQueue with
    | cons front rest =>
      exact ⟨by simp [Settled, hok], id, by simp [hmarked, haccepted]⟩
    | nil =>
      have hnext := sendNext_watched grpc (s := { s with
        inited := true, call := call, msgQueue := [msg] }) hok rfl cb
      refine (hnext.note (by simp)).of_same hmarked rfl rfl ?_
      simp [haccepted, hopen, hstarts, Speaks, BothEnded, and_comm]
  | closeWriting cb =>
    simp only [runOpWith, hwatch, Interrupts, hok, true_and]
    rcases Bool.eq_false_or_eq_true s.writingClosing with hclosing | hopen
    · have heq : closeWriting grpc (runOpsWith watch grpc cb) (s.note .closeWriting) =
          s.note .closeWriting := by
        simp [closeWriting, hclosing]
      rw [heq]
      exact ⟨by simp [Settled, hok], id, by simp [hclosing]⟩
    by_cases hqueue : s.msgQueue = []
    · have hclose := closesWriting_watched grpc
        (s := { s.note .closeWriting with writingClosing := true }) hok cb
      rw [closeWriting, if_neg (by simp [hopen]), if_neg (by simp [hok]),
        if_neg (by simp [hqueue])]
      refine hclose.of_same (by simp) rfl rfl ?_
      simp [hopen, hqueue, Speaks, BothEnded, and_comm]
    · have heq : closeWriting grpc (runOpsWith watch grpc cb) (s.note .closeWriting) =
          { s.note .closeWriting with writingClosing := true } := by
        simp [closeWriting, hopen, hok, hqueue]
      rw [heq]
      exact ⟨by simp [Settled, hok], id, by simp [hqueue]⟩
  | readEach hasMsgCb cb =>
    simp only [runOpWith, hwatch, readEach, Interrupts, hok, true_and]
    rcases Bool.eq_false_or_eq_true s.readingStarted with hstarted | hnew
    · rw [if_pos hstarted]
      exact ⟨hs, id, by simp [hstarted]⟩
    rw [if_neg (by simp [hnew])]
    rcases initIfNot_watched grpc (s := { s with readingStarted := true }) hok cb with
      ⟨hrefused, hends⟩ | ⟨haccepted, call, hstarts, hmarked, heq⟩
    · have hrefused' : initRefused grpc s = true := hrefused
      rw [hends.failed, Bool.not_false, if_pos rfl]
      exact hends.watched.of_same Iff.rfl rfl rfl
        (by simp [hrefused', hnew, Speaks, BothEnded])
    · have haccepted' : initRefused grpc s = false := haccepted
      have hstarts' : call.starts = nextStart s := hstarts
      have hread := readNext_watched grpc (s := { s with
        readingStarted := true, inited := true, call := call, msgCb := hasMsgCb })
        (by simp [Settled, hok]) cb
      simp only [heq, hok, Bool.not_true, Bool.false_eq_true, if_false]
      refine hread.of_same hmarked rfl rfl ?_
      simp [haccepted', hnew, hstarts', Speaks, BothEnded, and_comm]
  | setErrorStatus errorStatus cb =>
    simp only [runOpWith, hwatch, setErrorStatus, Interrupts, hok, true_and, Impl.note_status,
      if_true]
    have hends : Ends cb s (endOnErrorStatus (runOpsWith watch grpc cb) errorStatus.status
        (s.note (.setErrorStatus errorStatus.status))) :=
      (endOnErrorStatus_ends grpc errorStatus.not_ok cb _).of_same (by simp) rfl rfl rfl
    exact hends.watched

def InterruptsIn (grpc : Nat → Bool) : List Op → Impl → Prop
  | [], _ => False
  | op :: ops, s => Interrupts grpc s op ∨ InterruptsIn grpc ops (runOpWith watch grpc op s)

private theorem runOpsWith_watched (hs : Settled s) (ops : List Op) :
    Watched s (runOpsWith watch grpc ops s) (InterruptsIn grpc ops s) := by
  induction ops generalizing s with
  | nil =>
    rw [runOpsWith]
    exact ⟨hs, id, by simp [InterruptsIn]⟩
  | cons op ops ih =>
    have hop := runOpWith_watched grpc hs op
    rw [runOpsWith]
    exact hop.trans (ih hop.settled)

private theorem not_interruptsIn (hs : BothEnded s) (ops : List Op) :
    ¬ InterruptsIn grpc ops s := by
  induction ops generalizing s with
  | nil => exact id
  | cons op ops ih =>
    have hop := runOpWith_watched grpc (fun _ => hs) op
    rintro (hfirst | hrest)
    · have hwriting : BothEnded { s with writingEnded := true } := ⟨hs.1, rfl⟩
      cases op <;> simp [Interrupts, Speaks, hs, hwriting] at hfirst
    · exact ih (hop.ended hs) hrest

private theorem callStatusCb_watched (hs : BothEnded s) (cb : List Op) :
    Watched s (callStatusCb (runOpsWith watch grpc cb) s) False := by
  unfold callStatusCb
  split
  · have hnote : BothEnded (s.note (.statusCb s.status)) := hs
    have hcalls := runOpsWith_watched grpc (fun _ => hnote) cb
    refine ⟨fun _ => hcalls.ended hs, fun _ => hcalls.ended hs, ?_⟩
    simp [hcalls.marked, not_interruptsIn grpc hnote]
  · exact ⟨fun _ => hs, id, by simp⟩

end calls

section completions

variable (grpc : Nat → Bool)

def SentInterrupts (success : Bool) (cb : List Op) (s : Impl) : Prop :=
  s.status.ok = true ∧
    if success then
      grpc s.call.starts = false ∧
        if s.msgQueue.tail.isEmpty then
          s.writingClosing = true ∧ Speaks cb { s with writingEnded := true }
        else Speaks cb s
    else Speaks cb s

def HeardInterrupts (script : Script) (s : Impl) : Prop :=
  (script.msgCbResult.ok = false ∨ grpc s.call.starts = false) ∧ Speaks script.statusCb s

def ReadInterrupts (script : Script) (success : Bool) (received : Received) (s : Impl) : Prop :=
  let s := s.check .onReadStarted s.readingStarted
  s.status.ok = true ∧
    match success, received.recvBuf with
    | false, _ => Speaks script.statusCb s
    | true, none => False
    | true, some recvBuf =>
      match getResultMsg recvBuf [] with
      | (status, sMsg) =>
        if !status.ok then Speaks script.statusCb s
        else if s.msgCb then
          InterruptsIn grpc script.msgCb (s.note (.msgCb sMsg)) ∨ HeardInterrupts grpc script
            (runOpsWith watch grpc script.msgCb (s.note (.msgCb sMsg)))
        else grpc s.call.starts = false ∧ Speaks script.statusCb s

/-- An error ends the object, and its status callback calls it before both flags are set. -/
def InterruptedBy (s : Impl) : Label → Prop
  | .op op => Interrupts grpc s op
  | .complete index success received script =>
    match s.call.complete index success received with
    | some (.clientSendMsg _, call) =>
        SentInterrupts grpc success script.statusCb { s with call := call }
    | some (.clientReaderRead, call) =>
        ReadInterrupts grpc script success received { s with call := call }
    | _ => False

variable {s t : Impl}

private theorem onSent_watched (hs : Settled s) (success : Bool) (cb : List Op) :
    Watched s (onSent grpc (runOpsWith watch grpc cb) success s)
      (SentInterrupts grpc success cb s) := by
  obtain ⟨call, heq, hstarts, hmarked⟩ :=
    check_cases .onSentQueue (by simp) (!s.msgQueue.isEmpty) s
  simp only [onSent, heq, SentInterrupts]
  rcases Bool.eq_false_or_eq_true s.status.ok with hok | hfailed
  case inr =>
    obtain ⟨call', heq', -, hmarked'⟩ := check_cases .onSentStatusCb (by simp)
      (!s.statusCb) { s with call := call, msgQueue := s.msgQueue.tail }
    rw [if_pos (by simp [hfailed]), heq']
    exact ⟨hs, id, by simp [hmarked', hmarked, hfailed]⟩
  rw [if_neg (by simp [hok])]
  cases success with
  | false =>
    have hends := (setInternalError_ends grpc (lit "Failed to send message.") cb
      { s with call := call, msgQueue := s.msgQueue.tail }).of_same hmarked rfl rfl rfl
    exact hends.watched.congr (by simp [hok])
  | true =>
    rw [if_neg (by simp)]
    cases hrest : s.msgQueue.tail with
    | cons front rest =>
      have hnext := sendNext_watched grpc
        (s := { s with call := call, msgQueue := front :: rest }) hok rfl cb
      exact hnext.of_same hmarked rfl rfl (by simp [hstarts, hok, Speaks, BothEnded])
    | nil =>
      rw [if_neg (by simp)]
      rcases Bool.eq_false_or_eq_true s.writingClosing with hclosing | hopen
      · obtain ⟨hwriting, hclose⟩ := sendClose_watched grpc
          (s := { s with call := call, msgQueue := [] }) hok cb
        have hsent : Watched s (sendClose grpc (runOpsWith watch grpc cb)
            { s with call := call, msgQueue := [] }) (grpc s.call.starts = false ∧
              Speaks cb { s with writingEnded := true }) :=
          hclose.of_same hmarked rfl rfl (by simp [hstarts, Speaks, BothEnded])
        rw [if_neg (by simp [hclosing])]
        simp only [hwriting, Impl.check_true]
        split
        · next hreading =>
          have hboth := callStatusCb_watched grpc ⟨hreading, hwriting⟩ cb
          exact (hsent.trans hboth).congr (by simp [hok, hclosing])
        · exact hsent.congr (by simp [hok, hclosing])
      · rw [if_pos (by simp [hopen])]
        exact ⟨hs, id, by simp [hmarked, hopen]⟩

private theorem goesOn_watched (hs : Settled s) (script : Script) :
    Watched s (if !script.msgCbResult.ok then
        endOnErrorStatus (runOpsWith watch grpc script.statusCb) script.msgCbResult
          (s.note (.msgCbReturns script.msgCbResult))
      else readNext grpc (runOpsWith watch grpc script.statusCb)
        (s.note (.msgCbReturns script.msgCbResult)))
      (HeardInterrupts grpc script s) := by
  unfold HeardInterrupts
  cases hresult : script.msgCbResult.ok with
  | false =>
    rw [if_pos (by simp)]
    have hends : Ends script.statusCb s (endOnErrorStatus (runOpsWith watch grpc script.statusCb)
        script.msgCbResult (s.note (.msgCbReturns script.msgCbResult))) :=
      (endOnErrorStatus_ends grpc hresult _ _).of_same (by simp) rfl rfl rfl
    exact hends.watched.congr (by simp)
  | true =>
    rw [if_neg (by simp)]
    have hread := readNext_watched grpc
      (s := s.note (.msgCbReturns script.msgCbResult)) hs script.statusCb
    exact hread.of_same (by simp) rfl rfl (by simp [Speaks, BothEnded])

private theorem onRead_watched (hs : Settled s) (script : Script) (success : Bool)
    (received : Received) :
    Watched s (onRead grpc
        (fun s => (script.msgCbResult, runOpsWith watch grpc script.msgCb s))
        (runOpsWith watch grpc script.statusCb) success received s)
      (ReadInterrupts grpc script success received s) := by
  obtain ⟨call, heq, hstarts, hmarked⟩ :=
    check_cases .onReadStarted (by simp) s.readingStarted s
  simp only [onRead, heq, ReadInterrupts]
  rcases Bool.eq_false_or_eq_true s.status.ok with hok | hfailed
  case inr =>
    obtain ⟨call', heq', -, hmarked'⟩ := check_cases .onReadStatusCb (by simp)
      (!s.statusCb) { s with call := call }
    rw [if_pos (by simp [hfailed]), heq']
    exact ⟨hs, id, by simp [hmarked', hmarked, hfailed]⟩
  rw [if_neg (by simp [hok])]
  cases success with
  | false =>
    have hends := (setInternalError_ends grpc (lit "ClientReaderReadCqTag failed.")
      script.statusCb { s with call := call }).of_same hmarked rfl rfl rfl
    exact hends.watched.congr (by simp [hok, Speaks, BothEnded])
  | true =>
    rw [if_neg (by simp)]
    cases hbuf : received.recvBuf with
    | none =>
      have heos : Watched s { s with call := call, readingEnded := true } False :=
        ⟨by simp [Settled, hok], fun hboth => ⟨rfl, hboth.2⟩, by simp [hmarked]⟩
      dsimp only
      split
      · next hwriting =>
        have hboth := callStatusCb_watched grpc
          (s := { s with call := call, readingEnded := true }) ⟨rfl, hwriting⟩ script.statusCb
        exact (heos.trans hboth).congr (by simp)
      · exact heos.congr (by simp)
    | some recvBuf =>
      rcases hmsg : getResultMsg recvBuf [] with ⟨status, sMsg⟩
      simp only [hmsg]
      rcases Bool.eq_false_or_eq_true status.ok with hgood | hbad
      case inr =>
        have hends := (endOnErrorStatus_ends grpc hbad script.statusCb
          { s with call := call }).of_same hmarked rfl rfl rfl
        rw [if_pos (by simp [hbad])]
        exact hends.watched.congr (by simp [hok, hbad, Speaks, BothEnded])
      rw [if_neg (by simp [hgood])]
      rcases Bool.eq_false_or_eq_true s.msgCb with hcb | hcb
      · rw [if_pos hcb]
        have hcalls := runOpsWith_watched grpc
          (s := ({ s with call := call } : Impl).note (.msgCb sMsg)) hs script.msgCb
        have hrest := hcalls.trans (goesOn_watched grpc hcalls.settled script)
        exact hrest.of_same (by simp [hmarked]) rfl rfl (by simp [hok, hgood, hcb])
      · rw [if_neg (by simp [hcb])]
        have hread := readNext_watched grpc (s := { s with call := call }) hs
          script.statusCb
        exact hread.of_same hmarked rfl rfl (by simp [hok, hgood, hcb, Speaks, BothEnded])

private theorem step_watched {label : Label} (hs : Settled s)
    (hstep : stepWith watch grpc s label = some t) :
    Watched s t (InterruptedBy grpc s label) := by
  cases label with
  | op op =>
    cases hstep
    exact runOpWith_watched grpc hs op
  | complete index success received script =>
    simp only [stepWith] at hstep
    cases hcall : s.call.complete index success received with
    | none => simp [hcall] at hstep
    | some done =>
      obtain ⟨tag, call⟩ := done
      have hmarked := marked_complete hcall
      simp only [hcall, Option.some.injEq] at hstep
      subst hstep
      simp only [InterruptedBy, hcall]
      cases tag with
      | clientSendMsg msg =>
        have hsent := onSent_watched grpc (s := { s with call := call }) hs success
          script.statusCb
        exact hsent.of_same hmarked rfl rfl Iff.rfl
      | clientReaderRead =>
        have hread := onRead_watched grpc (s := { s with call := call }) hs script
          success received
        exact hread.of_same hmarked rfl rfl Iff.rfl
      | _ => exact ⟨hs, id, hmarked.trans (by simp)⟩

end completions

/-- The flags follow the status at every start of a public call, callbacks included,
just when no error lets its status callback call the object before both are set. -/
theorem flags_follow_iff {grpc : Nat → Bool} {statusCb : Bool} {ls : List Label} {s : Impl}
    (hrun : (machineWith watch grpc).run (clientAsyncReaderWriterImpl statusCb) ls = some s) :
    (machineWith watch grpc).Throughout (fun t => ¬ Marked t.call)
        (clientAsyncReaderWriterImpl statusCb) ls ↔
      (machineWith watch grpc).Along (fun t label => ¬ InterruptedBy grpc t label)
        (clientAsyncReaderWriterImpl statusCb) ls := by
  refine Machine.throughout_iff_along (I := fun t => Settled t ∧ ¬ Marked t.call)
    (fun t h => h.2) ?_ ?_ ⟨?_, ?_⟩ hrun
  · rintro t label u ⟨hsettled, hunmarked⟩ hgood hstep
    have hwatched := step_watched grpc hsettled hstep
    exact ⟨hwatched.settled, by simp [hwatched.marked, hunmarked, hgood]⟩
  · rintro t label u ⟨hsettled, hunmarked⟩ hbad hstep
    have hwatched := step_watched grpc hsettled hstep
    simpa [hwatched.marked, hunmarked] using hbad
  · simp [Settled, clientAsyncReaderWriterImpl]
  · simp [Marked, clientAsyncReaderWriterImpl]

/-- A status callback that calls nothing back, and a message callback that does. -/
def politeLabels : List Label :=
  [.op (.readEach true []), .complete 2 true { recvBuf := some (.readable [1]) }
    { msgCb := [.write [2] [], .setErrorStatus ⟨.internalError [], rfl⟩ []] }]

theorem flags_follow_polite :
    (machineWith watch fun _ => true).Throughout (fun t => ¬ Marked t.call)
      (clientAsyncReaderWriterImpl true) politeLabels := by
  have hrun : (machineWith watch fun _ => true).run (clientAsyncReaderWriterImpl true)
      politeLabels = some _ := rfl
  refine (flags_follow_iff hrun).mpr ?_
  rw [politeLabels, Machine.along_cons rfl, Machine.along_cons rfl]
  refine ⟨?_, ?_, Machine.along_nil _ _⟩
  · rintro ⟨-, ⟨-, hcb, -⟩, -⟩
    exact hcb rfl
  · rintro ⟨-, (⟨-, ⟨-, hcb, -⟩, -⟩ | ⟨-, -, hcb, -⟩ | hnone) | ⟨-, -, hcb, -⟩⟩
    · exact hcb rfl
    · exact hcb rfl
    · exact hnone
    · exact hcb rfl

/-- `SetErrorStatus`, with a status callback that writes. -/
def rudeLabels : List Label :=
  [.op (.setErrorStatus ⟨.internalError [], rfl⟩ [.write [1] []])]

theorem flags_lag_behind :
    (∃ s, (machineWith watch fun _ => true).run (clientAsyncReaderWriterImpl true) rudeLabels =
      some s ∧ Marked s.call) ∧
    ∃ s, (machine fun _ => true).run (clientAsyncReaderWriterImpl true) rudeLabels =
      some s ∧ Marked s.call :=
  ⟨⟨_, rfl, by decide⟩, _, rfl, by decide⟩

end GrpcCbCore.Client.ReaderWriterImpl
