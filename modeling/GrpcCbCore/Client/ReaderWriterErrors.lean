import GrpcCbCore.Client.ReaderWriterStatusCb

/-! Errors of `ClientAsyncReaderWriterImpl` are final, but for a message callback
that kills the object: `OnRead` tested the status before it called it, and goes
on with a dead object. -/
namespace GrpcCbCore.Client.ReaderWriterImpl
open GrpcCbCore.Library Relation

@[simp] def error : Event Note → Option Status
  | .note (.status status) => if status.ok then none else some status
  | _ => none

def statusSite : Site → Bool
  | .sendNextStatus | .readNextStatus | .sendCloseStatus | .setInternalErrorStatus
  | .endOnErrorStatusStatus => true
  | _ => false

/-- After an error no batch is started, no message told, and no OK set. -/
def Final (before : List (Event Note)) (e : Event Note) : Prop :=
  collect error before ≠ [] → Event.attempt e = none ∧ (∀ sMsg, e ≠ .note (.msgCb sMsg)) ∧
    ∀ status, e = .note (.status status) → status.ok = false

def Terminal (s : Impl) : Prop :=
  AtEach Final s.call.log ∧ ∀ site, statusSite site = true → .note (.fault site) ∉ s.call.log

structure Clean (call : Call Note) : Prop where
  errors : collect error call.log = []
  asserts : ∀ site, statusSite site = true → .note (.fault site) ∉ call.log

structure Sound (s : Impl) : Prop where
  clean : s.status.ok = true → Clean s.call
  terminal : Terminal s

section clean

variable {grpc : Nat → Bool} {s t u v : Impl} {call : Call Note}

theorem Clean.terminal (h : Clean s.call) : Terminal s := by
  refine ⟨?_, h.asserts⟩
  intro before e after hlog herror
  have hbefore : collect error before = [] := by
    have hall := h.errors
    rw [hlog, collect_append, List.append_eq_nil_iff] at hall
    exact hall.1
  exact absurd hbefore herror

theorem Clean.sound (h : Clean s.call) : Sound s :=
  ⟨fun _ => h, h.terminal⟩

theorem Clean.start (h : Clean call) (grpc : Nat → Bool) (tag : CqTag) :
    Clean (call.startBatch grpc tag).2 :=
  ⟨by simpa using h.errors, by simpa using h.asserts⟩

theorem Clean.note (h : Clean call) {n : Note} (hstatus : ∀ status, n ≠ .status status)
    (hfault : ∀ site, n ≠ .fault site) : Clean (call.note n) := by
  refine ⟨?_, ?_⟩
  · have hnone : error (.note n) = none := by
      cases n with
      | status status => exact absurd rfl (hstatus status)
      | _ => rfl
    rw [Call.note_log, collect_append, h.errors, collect_cons, hnone]
    rfl
  · intro site hsite hmem
    rw [Call.note_log, List.mem_append, List.mem_singleton] at hmem
    rcases hmem with hold | hnew
    · exact h.asserts site hsite hold
    · exact hfault site (Event.note.inj hnew).symm

theorem Clean.complete {index : Nat} {success : Bool} {received : Received} {tag : CqTag}
    {call' : Call Note} (h : Clean call)
    (hcall : call.complete index success received = some (tag, call')) : Clean call' := by
  refine ⟨?_, fun site hsite hmem => ?_⟩
  · simp [Call.complete_log hcall, h.errors]
  · rw [Call.complete_log hcall] at hmem
    exact h.asserts site hsite (by simpa using hmem)

theorem Alive.clean (halive : Alive grpc s t) (h : Clean s.call) : Clean t.call := by
  cases halive with
  | ignoredWrite msg => exact h.note (by simp) (by simp)
  | closedAgain hclosing => exact h.note (by simp) (by simp)
  | init hnew hsend hrecv => exact (h.start grpc _).start grpc _
  | queued msg hopen hqueue => exact h.note (by simp) (by simp)
  | sent msg hopen hqueue hgrpc => exact (h.start grpc _).note (by simp) (by simp)
  | closes hopen hqueue => exact h.note (by simp) (by simp)
  | halfCloses hopen hqueue hgrpc => exact (h.note (by simp) (by simp)).start grpc _
  | reads hasMsgCb hinit hnew hgrpc => exact h.start grpc _

theorem Fatal.clean (hfatal : Fatal grpc s u) (h : Clean s.call) : Clean u.call := by
  cases hfatal with
  | set status => exact h.note (by simp) (by simp)
  | initSend reading hreading hnew hsend => exact h.start grpc _
  | initRecv reading hreading hnew hsend hrecv => exact (h.start grpc _).start grpc _
  | message msg hopen hqueue hgrpc => exact h.start grpc _
  | close hopen hqueue hgrpc => exact (h.note (by simp) (by simp)).start grpc _
  | read hasMsgCb hgrpc => exact h.start grpc _

theorem Quiet.final {n : Note} (hn : Quiet n) (before : List (Event Note)) :
    Final before (.note n) := by
  refine fun _ => ⟨rfl, ?_, ?_⟩
  · rintro sMsg ⟨⟩
    exact hn
  · rintro status ⟨⟩
    exact hn

theorem Quiet.assert {n : Note} (hn : Quiet n) {site : Site} (hsite : statusSite site = true) :
    n ≠ .fault site := by
  rintro rfl
  obtain rfl : site = .writeEnded := hn
  simp [statusSite] at hsite

theorem Frozen.sound (hf : Frozen s t) (h : Sound s) : Sound t := by
  obtain ⟨ns, hns, hcall⟩ := hf.notes
  refine ⟨by simp [hf.failed], ?_, fun site hsite hmem => ?_⟩
  · rw [hcall]
    refine h.terminal.1.append fun e he before => ?_
    obtain ⟨n, hn, rfl⟩ := List.mem_map.mp he
    exact (hns n hn).final before
  · rw [hcall, Call.notes_log, List.mem_append] at hmem
    rcases hmem with hold | hnew
    · exact h.terminal.2 site hsite hold
    · obtain ⟨n, hn, heq⟩ := List.mem_map.mp hnew
      exact (hns n hn).assert hsite (Event.note.inj heq)

theorem Errored.sound (he : Errored u v) (h : Clean u.call) : Sound v := by
  obtain ⟨error, ns, herror, hns, hcall⟩ := he.notes
  have hcb : ∀ n ∈ (if u.statusCb then [.statusCb error] else []),
      n = Note.statusCb error := by
    intro n hn
    split at hn
    · simpa using hn
    · simp at hn
  refine ⟨by simp [he.failed], ?_, fun site hsite hmem => ?_⟩
  · have hset : AtEach Final (u.call.note (.status error)).log := by
      refine (h.terminal (s := u)).1.snoc fun hbefore => ?_
      exact absurd h.errors hbefore
    have heq : v.call.log = (u.call.note (.status error)).log ++
        ((if u.statusCb then [Note.statusCb error] else []) ++ ns).map Event.note := by
      simp [hcall]
    rw [heq]
    refine hset.append fun e hmem before => ?_
    obtain ⟨n, hn, rfl⟩ := List.mem_map.mp hmem
    rcases List.mem_append.mp hn with hn | hn
    · rw [hcb n hn]
      exact fun _ => ⟨rfl, by simp, by simp⟩
    · exact (hns n hn).final before
  · rw [hcall, Call.notes_log, List.mem_append] at hmem
    rcases hmem with hold | hnew
    · exact h.asserts site hsite hold
    · obtain ⟨n, hn, heq⟩ := List.mem_map.mp hnew
      have hfault : n = .fault site := Event.note.inj heq
      rcases List.mem_cons.mp hn with hn | hn
      · simp [hn] at hfault
      · rcases List.mem_append.mp hn with hn | hn
        · simp [hcb n hn] at hfault
        · exact (hns n hn).assert hsite hfault

private theorem runOps_sound (hcore : Core s) (h : Sound s) (ops : List Op) :
    Sound (runOps grpc ops s) := by
  rcases Bool.eq_false_or_eq_true s.status.ok with hok | hfailed
  · refine (runOps_acts hcore hok ops).keeps ?_ ?_ (fun _ _ _ hfrozen hs => hfrozen.sound hs)
      hcore hok h
    · exact fun s t hok _ halive hs => (halive.clean (hs.clean hok)).sound
    · exact fun s u v hok _ hfatal herrored hs => herrored.sound (hfatal.clean (hs.clean hok))
  · exact (runOps_frozen hfailed ops).sound h

private theorem callStatusCb_sound (hcore : Core s) (h : Clean s.call) (cb : List Op) :
    Sound (callStatusCb (runOps grpc cb) s) := by
  unfold callStatusCb
  split
  · have hcore' : Core (s.note (.statusCb s.status)) := { hcore with }
    have hnote : Clean (s.note (.statusCb s.status)).call := h.note (by simp) (by simp)
    have hafter : Sound (runOps grpc cb (s.note (.statusCb s.status))) :=
      runOps_sound hcore' hnote.sound cb
    exact { hafter with }
  · exact h.sound

end clean

section kills

variable {grpc : Nat → Bool} {s t u : Impl}

def Op.sends : Op → Bool
  | .write _ _ | .closeWriting _ => true
  | _ => false

/-- Calls that kill a live object which has started reading: one sets an error,
or the write half is open and idle and the first start on it is refused. -/
def Kills (grpc : Nat → Bool) (s : Impl) (ops : List Op) : Prop :=
  (∃ op ∈ ops, op.setsError = true) ∨
    (s.writingClosing = false ∧ s.msgQueue = [] ∧ grpc s.call.starts = false ∧
      ∃ op ∈ ops, op.sends = true)

/-- With the write half closing or busy, or its next start accepted. -/
theorem kills_busy {ops : List Op}
    (h : ¬ (s.writingClosing = false ∧ s.msgQueue = [] ∧ grpc s.call.starts = false)) :
    Kills grpc s ops ↔ ∃ op ∈ ops, op.setsError = true :=
  or_iff_left fun ⟨hopen, hqueue, hgrpc, _⟩ => h ⟨hopen, hqueue, hgrpc⟩

structure Begun (s : Impl) : Prop where
  ok : s.status.ok = true
  core : Core s
  inited : s.inited = true
  started : s.readingStarted = true

/-- A call that sets no error: it is no send and does nothing; or it is a send
that is refused; or one after which the write half is not open and idle. -/
theorem runOp_begun (grpc : Nat → Bool) (h : Begun s) {op : Op} (hop : op.setsError = false) :
    (op.sends = false ∧ runOp grpc op s = s) ∨
    (op.sends = true ∧ s.writingClosing = false ∧ s.msgQueue = [] ∧
      grpc s.call.starts = false ∧ (runOp grpc op s).status.ok = false) ∨
    (op.sends = true ∧ ¬ (s.writingClosing = false ∧ s.msgQueue = [] ∧
        grpc s.call.starts = false) ∧ Begun (runOp grpc op s) ∧
      ((runOp grpc op s).writingClosing = true ∨ (runOp grpc op s).msgQueue ≠ [])) := by
  obtain ⟨hok, hcore, hinited, hstarted⟩ := h
  cases op with
  | write msg cb =>
    refine .inr ?_
    rcases write_cases grpc hcore hok hinited msg cb with ⟨hclosing, heq⟩ | ⟨hopen, hbusy, heq⟩ |
      ⟨hopen, hqueue, hgrpc, heq⟩ | ⟨hopen, hqueue, hgrpc, v, herrored, heq⟩
    · rw [heq]
      exact .inr ⟨rfl, by simp [hclosing], ⟨hok, { hcore with }, hinited, hstarted⟩,
        .inl hclosing⟩
    · rw [heq]
      exact .inr ⟨rfl, by simp [hbusy], ⟨hok, { hcore with }, hinited, hstarted⟩, .inr (by simp)⟩
    · rw [heq]
      exact .inr ⟨rfl, by simp [hgrpc], ⟨hok, { hcore with }, hinited, hstarted⟩, .inr (by simp)⟩
    · rw [heq]
      exact .inl ⟨rfl, hopen, hqueue, hgrpc, herrored.failed⟩
  | closeWriting cb =>
    refine .inr ?_
    rcases closeWriting_cases grpc hcore hok cb with ⟨hclosing, heq⟩ | ⟨hopen, hbusy, heq⟩ |
      ⟨hopen, hqueue, hgrpc, heq⟩ | ⟨hopen, hqueue, hgrpc, herrored⟩
    · rw [heq]
      exact .inr ⟨rfl, by simp [hclosing], ⟨hok, { hcore with }, hinited, hstarted⟩,
        .inl hclosing⟩
    · have halive : Alive grpc s _ := .closes s hopen hbusy
      have hcore' := halive.core hcore hok
      rw [heq]
      exact .inr ⟨rfl, by simp [hbusy], ⟨hok, hcore', hinited, hstarted⟩, .inl rfl⟩
    · have hcore' := (Alive.halfCloses s hopen hqueue hgrpc).core hcore hok
      rw [heq]
      exact .inr ⟨rfl, by simp [hgrpc], ⟨hok, hcore', hinited, hstarted⟩, .inl rfl⟩
    · exact .inl ⟨rfl, hopen, hqueue, hgrpc, herrored.failed⟩
  | readEach hasMsgCb cb => exact .inl ⟨rfl, by simp [runOp, readEach, hstarted]⟩
  | setErrorStatus errorStatus cb => simp [Op.setsError] at hop

private theorem runOps_dies_iff (grpc : Nat → Bool) (h : Begun s) (ops : List Op) :
    (runOps grpc ops s).status.ok = false ↔ Kills grpc s ops := by
  induction ops generalizing s with
  | nil => simp [runOps, h.ok, Kills]
  | cons op ops ih =>
    rw [runOps]
    cases hop : op.setsError with
    | true =>
      obtain ⟨status, herrored⟩ := setErrorStatus_errored grpc h.ok hop
      have hdead : Frozen (runOp grpc op s) (runOps grpc ops (runOp grpc op s)) :=
        runOps_frozen herrored.failed ops
      have hkills : Kills grpc s (op :: ops) := .inl ⟨op, by simp, hop⟩
      exact iff_of_true hdead.failed hkills
    | false =>
      rcases runOp_begun grpc h hop with ⟨hsends, heq⟩ | ⟨hsends, hopen, hqueue, hgrpc, hfailed⟩ |
        ⟨hsends, hlive, hbegun, hclosed⟩
      · rw [heq, ih h]
        simp [Kills, hop, hsends]
      · have hdead : Frozen (runOp grpc op s) (runOps grpc ops (runOp grpc op s)) :=
          runOps_frozen hfailed ops
        have hkills : Kills grpc s (op :: ops) :=
          .inr ⟨hopen, hqueue, hgrpc, op, by simp, hsends⟩
        exact iff_of_true hdead.failed hkills
      · have hnot : ¬ ((runOp grpc op s).writingClosing = false ∧
            (runOp grpc op s).msgQueue = [] ∧ grpc (runOp grpc op s).call.starts = false) := by
          rintro ⟨hopen, hqueue, -⟩
          rcases hclosed with hclosing | hbusy
          · simp [hopen] at hclosing
          · exact hbusy hqueue
        rw [ih hbegun, kills_busy hnot, kills_busy hlive]
        simp [hop]

end kills

section steps

variable {grpc : Nat → Bool} {s t u : Impl} {l : Lane StdString Unit} {call : Call Note}

/-- A read whose message callback kills the object. -/
def Revives (grpc : Nat → Bool) (s : Impl) : Label → Prop
  | .op _ => False
  | .complete index success received script =>
      s.status.ok = true ∧ s.call.outstanding[index]? = some .clientReaderRead ∧
      success = true ∧ (∃ bytes, received.recvBuf = some (.readable bytes)) ∧
      s.msgCb = true ∧ Kills grpc s script.msgCb

theorem Sent.sound {success : Bool} {cb : List Op} (hsent : Sent grpc cb s call success t)
    (hcore : Core s) (hclean : Clean call) : Sound t := by
  cases hsent with
  | next front rest hqueue hgrpc =>
    exact (show Clean _ from hclean.start grpc (.clientSendMsg front)).sound
  | idle hqueue hopen => exact (show Clean _ from hclean).sound
  | closes hqueue hclosing hreading hgrpc =>
    exact (show Clean _ from hclean.start grpc .clientSendClose).sound
  | ends hqueue hclosing hreading hgrpc =>
    have hcore' : Core { s with
        msgQueue := s.msgQueue.tail, hasSentClose := true, writingEnded := true
        call := (call.startBatch grpc .clientSendClose).2 } :=
      hcore.half_closes hclosing _ _
    exact callStatusCb_sound hcore' (hclean.start grpc .clientSendClose) cb
  | failed t herrored => exact herrored.sound hclean
  | nextRefused front rest t hqueue hgrpc herrored =>
    exact herrored.sound (hclean.start grpc (.clientSendMsg front))
  | closeRefused t hqueue hclosing hgrpc herrored =>
    exact herrored.sound (hclean.start grpc .clientSendClose)

private theorem goesOn_sound (grpc : Nat → Bool) (script : Script) (hok : u.status.ok = true)
    (hclean : Clean u.call) : Sound (goesOn grpc script u) := by
  have hnote : Clean (u.call.note (.msgCbReturns script.msgCbResult)) :=
    hclean.note (by simp) (by simp)
  have hstart := hnote.start grpc .clientReaderRead
  rcases goesOn_cases grpc script hok with herrored | ⟨-, heq⟩ | ⟨-, herrored⟩
  · exact herrored.sound hnote
  · rw [heq]
    exact (show Clean _ from hstart).sound
  · exact herrored.sound hstart

private theorem goesOn_faults (grpc : Nat → Bool) (script : Script) (hfailed : u.status.ok = false)
    (hcb : u.statusCb = false) : ¬ Terminal (goesOn grpc script u) := by
  unfold goesOn
  rintro ⟨-, hasserts⟩
  split at hasserts
  · next hresult =>
    rw [endOnErrorStatus_dead _ (by simpa using hresult) (by exact hfailed) (by exact hcb)]
      at hasserts
    exact hasserts .endOnErrorStatusStatus rfl (by simp)
  · rw [readNext_dead _ (by exact hfailed) (by exact hcb)] at hasserts
    split at hasserts
    · exact hasserts .readNextStatus rfl (by simp)
    · exact hasserts .readNextStatus rfl (by simp)

theorem Heard.sound {script : Script} {success : Bool} {received : Received}
    (hheard : Heard grpc script s call success received t) (hcore : Core s)
    (hok : s.status.ok = true) (hstarted : s.readingStarted = true) (hreads : Reads s)
    (hclean : Clean call) (hstarts : call.starts = s.call.starts)
    (hgood : ∀ bytes, success = true → received.recvBuf = some (.readable bytes) →
      s.msgCb = true → ¬ Kills grpc s script.msgCb) : Sound t := by
  cases hheard with
  | closes _ hnone hwriting => exact (show Clean _ from hclean).sound
  | ends _ hnone hwriting =>
    have hcore' : Core { s with call := call, readingEnded := true } := { hcore with }
    exact callStatusCb_sound hcore' hclean script.statusCb
  | reads _ bytes hbuf hcb hgrpc =>
    exact (show Clean _ from hclean.start grpc .clientReaderRead).sound
  | hears _ bytes hbuf hcb =>
    have hcore' : Core { s with call := call.note (.msgCb bytes) } := { hcore with }
    have hnote : Clean (call.note (.msgCb bytes)) := hclean.note (by simp) (by simp)
    have hbegun : Begun { s with call := call.note (.msgCb bytes) } :=
      ⟨hok, hcore', hreads.inited hok hstarted, hstarted⟩
    have hafter : Sound (runOps grpc script.msgCb { s with call := call.note (.msgCb bytes) }) :=
      runOps_sound hcore' (show Clean _ from hnote).sound script.msgCb
    have hlive : (runOps grpc script.msgCb
        { s with call := call.note (.msgCb bytes) }).status.ok = true := by
      by_contra hdead
      have hkills := (runOps_dies_iff grpc hbegun script.msgCb).mp (by simpa using hdead)
      refine hgood bytes rfl hbuf hcb ?_
      simpa [Kills, hstarts] using hkills
    exact goesOn_sound grpc script hlive (hafter.clean hlive)
  | failed _ t herrored => exact herrored.sound hclean
  | garbled _ t hbuf herrored => exact herrored.sound hclean
  | readRefused _ bytes t hbuf hcb hgrpc herrored =>
    exact herrored.sound (hclean.start grpc .clientReaderRead)

theorem Sound.complete {index : Nat} {success : Bool} {received : Received} {tag : CqTag}
    (h : Sound s) (hcall : s.call.complete index success received = some (tag, call))
    (hcalls : t.call = call) (hstatus : t.status = s.status) : Sound t := by
  refine ⟨fun hok => ?_, ?_, fun site hsite hmem => ?_⟩
  · rw [hcalls]
    exact (h.clean (by rwa [← hstatus])).complete hcall
  · rw [hcalls, Call.complete_log hcall]
    exact h.terminal.1.snoc fun _ => ⟨rfl, by simp, by simp⟩
  · rw [hcalls, Call.complete_log hcall] at hmem
    exact h.terminal.2 site hsite (by simpa using hmem)

private theorem step_sound {label : Label} (h : Refines s l) (hreads : Reads s) (hs : Sound s)
    (hgood : ¬ Revives grpc s label) (hstep : step grpc s label = some t) : Sound t := by
  cases step_cases h hstep with
  | op op => simpa [runOps] using runOps_sound h.core hs [op]
  | sent _ _ _ script m call t hcall hok hsent =>
    exact hsent.sound h.core ((hs.clean hok).complete hcall)
  | sentDead _ _ _ _ m call hcall hfailed => exact hs.complete hcall rfl rfl
  | heard _ _ _ script call t hcall hok hstarted hheard =>
    obtain ⟨hfound, hstarts⟩ := Call.complete_found hcall
    refine hheard.sound h.core hok hstarted hreads ((hs.clean hok).complete hcall) hstarts ?_
    intro bytes hsuccess hbuf hcb hkills
    exact hgood ⟨hok, hfound, hsuccess, ⟨bytes, hbuf⟩, hcb, hkills⟩
  | silent _ _ _ _ tag call hcall hmsg => exact hs.complete hcall rfl rfl

private theorem revives_breaks {label : Label} (h : Refines s l) (hreads : Reads s)
    (hbad : Revives grpc s label) (hstep : step grpc s label = some t) : ¬ Terminal t := by
  cases step_cases h hstep with
  | op op => exact hbad.elim
  | sent _ _ _ script m call t hcall hok hsent =>
    obtain ⟨-, hread, -⟩ := hbad
    simp [(Call.complete_found hcall).1] at hread
  | sentDead _ _ _ _ m call hcall hfailed =>
    obtain ⟨-, hread, -⟩ := hbad
    simp [(Call.complete_found hcall).1] at hread
  | heard _ _ received script call t hcall hok hstarted hheard =>
    obtain ⟨-, -, rfl, ⟨bytes, hbuf⟩, hcb, hkills⟩ := hbad
    obtain ⟨-, hstarts⟩ := Call.complete_found hcall
    cases hheard with
    | hears _ bytes' hbuf' _ =>
      have hcore' : Core { s with call := call.note (.msgCb bytes') } := { h.core with }
      have hbegun : Begun { s with call := call.note (.msgCb bytes') } :=
        ⟨hok, hcore', hreads.inited hok hstarted, hstarted⟩
      have hdead := (runOps_dies_iff grpc hbegun script.msgCb).mpr (by
        simpa [Kills, hstarts] using hkills)
      have hacts : Acts grpc _ (runOps grpc script.msgCb
          { s with call := call.note (.msgCb bytes') }) := runOps_acts hcore' hok script.msgCb
      have hcore'' := hacts.core hcore' hok
      exact goesOn_faults grpc script hdead (hcore''.silenced hdead)
    | closes _ hnone _ => simp [hbuf] at hnone
    | ends _ hnone _ => simp [hbuf] at hnone
    | garbled _ t hgarbled _ => simp [hbuf] at hgarbled
    | reads _ _ _ hnocb _ => simp [hcb] at hnocb
    | readRefused _ _ t _ hnocb _ _ => simp [hcb] at hnocb
  | silent _ _ _ _ tag call hcall hmsg hdead =>
    obtain ⟨hok, hread, -⟩ := hbad
    have htag : tag = .clientReaderRead := by simpa [(Call.complete_found hcall).1] using hread
    simp [hdead htag] at hok

end steps

/-- An error is final, just when no message callback kills the object. -/
theorem error_is_terminal_iff {grpc : Nat → Bool} {statusCb : Bool} {ls : List Label} {s : Impl}
    (hrun : (machine grpc).run (clientAsyncReaderWriterImpl statusCb) ls = some s) :
    (machine grpc).Throughout Terminal (clientAsyncReaderWriterImpl statusCb) ls ↔
      (machine grpc).Along (fun s label => ¬ Revives grpc s label)
        (clientAsyncReaderWriterImpl statusCb) ls := by
  refine Machine.throughout_iff_along
    (I := fun s => (∃ l, Refines s l) ∧ Reads s ∧ Sound s) ?_ ?_ ?_ ?_ hrun
  · exact fun s h => h.2.2.terminal
  · rintro s label t ⟨⟨l, h⟩, hreads, hs⟩ hgood hstep
    exact ⟨step_refines h hstep, step_reads h hreads hstep, step_sound h hreads hs hgood hstep⟩
  · rintro s label t ⟨⟨l, h⟩, hreads, -⟩ hbad hstep
    exact revives_breaks h hreads (not_not.mp hbad) hstep
  · have hclean : Clean (clientAsyncReaderWriterImpl statusCb).call :=
      ⟨rfl, by simp [clientAsyncReaderWriterImpl]⟩
    exact ⟨⟨_, refines_fresh statusCb⟩, reads_fresh statusCb, hclean.sound⟩

/-- An error set from outside, with a status callback that writes; then the read
comes back. -/
def outsideErrorLabels : List Label :=
  [.op (.readEach true []), .op (.setErrorStatus (.internalError []) [.write [1] []]),
    .complete 2 true { recvBuf := some (.readable [2]) } {}]

theorem error_is_terminal_outside :
    (machine fun _ => true).Throughout Terminal (clientAsyncReaderWriterImpl true)
      outsideErrorLabels := by
  have hrun : (machine fun _ => true).run (clientAsyncReaderWriterImpl true) outsideErrorLabels =
      some _ := rfl
  refine (error_is_terminal_iff hrun).mpr ((Machine.along_cons rfl).mpr ⟨id,
    (Machine.along_cons rfl).mpr ⟨id, (Machine.along_cons rfl).mpr ⟨?_, Machine.along_nil _ _⟩⟩⟩)
  rintro ⟨hok, -⟩
  exact absurd hok (by decide)

/-- A message callback sets an error: `OnRead` starts the next read all the same. -/
theorem msg_cb_error_reads_on :
    ∃ s, (machine fun _ => true).run (clientAsyncReaderWriterImpl true)
        [.op (.readEach true []), .complete 2 true { recvBuf := some (.readable [1]) }
          { msgCb := [.setErrorStatus (.internalError []) []] }] = some s ∧
      s.status = .internalError [] ∧ .clientReaderRead ∈ s.call.outstanding ∧
      .note (.fault .readNextStatus) ∈ s.call.log ∧ ¬ Terminal s := by
  have hrun : (machine fun _ => true).run (clientAsyncReaderWriterImpl true)
      [.op (.readEach true []), .complete 2 true { recvBuf := some (.readable [1]) }
        { msgCb := [.setErrorStatus (.internalError []) []] }] = some _ := rfl
  exact ⟨_, hrun, rfl, by decide, by decide, fun h => h.2 .readNextStatus rfl (by decide)⟩

end GrpcCbCore.Client.ReaderWriterImpl
