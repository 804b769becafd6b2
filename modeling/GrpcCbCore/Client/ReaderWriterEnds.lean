import GrpcCbCore.Client.ReaderWriterLane

/-! How the two directions of `ClientAsyncReaderWriterImpl` end, and the status
callback at the end of them. When `CloseWriting` itself ends the writing, and
reading has ended before, the callback is forgotten. -/
namespace GrpcCbCore.Client.ReaderWriterImpl
open GrpcCbCore.Library Relation

@[simp] def told : Event Note → Option Status
  | .note (.statusCb status) => some status
  | _ => none

section told

variable {grpc : Nat → Bool} {s t u v : Impl}

theorem Alive.tells (h : Alive grpc s t) :
    collect told t.call.log = collect told s.call.log ∧ t.statusCb = s.statusCb := by
  cases h <;> simp

theorem Fatal.tells (h : Fatal grpc s u) :
    collect told u.call.log = collect told s.call.log ∧ u.statusCb = s.statusCb := by
  cases h <;> simp

theorem quiet_told {ns : List Note} (hns : ∀ n ∈ ns, Quiet n) :
    collect told (ns.map Event.note) = [] := by
  apply collect_eq_nil
  intro e he
  obtain ⟨n, hn, rfl⟩ := List.mem_map.mp he
  have hquiet := hns n hn
  cases n with
  | statusCb status => exact hquiet.elim
  | _ => rfl

private theorem ghostly_told {ns : List Note} (hns : ∀ n ∈ ns, Ghostly n) :
    collect told (ns.map Event.note) = [] := by
  apply collect_eq_nil
  intro e he
  obtain ⟨n, hn, rfl⟩ := List.mem_map.mp he
  have hghostly := hns n hn
  cases n with
  | statusCb status => exact hghostly.elim
  | _ => rfl

theorem Errored.tells (h : Errored u v) :
    (u.statusCb = true ∧ ∃ error, collect told v.call.log = collect told u.call.log ++ [error]) ∨
    (u.statusCb = false ∧ collect told v.call.log = collect told u.call.log) := by
  obtain ⟨error, ns, -, hns, hcall⟩ := h.notes
  have hquiet := quiet_told hns
  cases hcb : u.statusCb with
  | true => exact .inl ⟨rfl, error, by simp [hcall, hcb, hquiet]⟩
  | false => exact .inr ⟨rfl, by simp [hcall, hcb, hquiet]⟩

theorem Frozen.tells (h : Frozen s t) :
    collect told t.call.log = collect told s.call.log ∧ t.statusCb = s.statusCb := by
  obtain ⟨ns, hns, hcall⟩ := h.notes
  exact ⟨by simp [hcall, quiet_told hns], h.statusCb⟩

theorem Undead.tells (h : Undead grpc u t) :
    collect told t.call.log = collect told u.call.log ∧ t.statusCb = u.statusCb := by
  obtain ⟨ns, ms, hnotes, hcall⟩ := h.call
  have hns := ghostly_told fun n hn => hnotes n (List.mem_append_left ms hn)
  have hms := ghostly_told fun n hn => hnotes n (List.mem_append_right ns hn)
  refine ⟨?_, h.statusCb⟩
  rcases hcall with hcall | hcall
  · simp [hcall, hns, hms]
  · simp [hcall, hns, hms]

end told

/-- The read half of a live object: one read at a time, none once reading ended. -/
structure Reads (s : Impl) : Prop where
  once : s.status.ok = true → s.call.outstanding.count .clientReaderRead ≤ 1
  unended : s.status.ok = true → .clientReaderRead ∈ s.call.outstanding → s.readingEnded = false
  started : s.status.ok = true → .clientReaderRead ∈ s.call.outstanding ∨ s.readingEnded = true →
    s.readingStarted = true
  inited : s.status.ok = true → s.readingStarted = true → s.inited = true

/-- A live object between two reads, as its message callback finds it. -/
structure Hearing (s : Impl) : Prop where
  none_out : s.status.ok = true → .clientReaderRead ∉ s.call.outstanding
  unended : s.status.ok = true → s.readingEnded = false
  started : s.readingStarted = true

section reads

variable {grpc : Nat → Bool} {s t u v : Impl}

theorem Reads.of_failed (hfailed : s.status.ok = false) : Reads s := by
  constructor <;> simp [hfailed]

theorem Reads.of_same (h : Reads s) (hok : t.status.ok = true → s.status.ok = true)
    (hout : t.call.outstanding.count .clientReaderRead ≤
      s.call.outstanding.count .clientReaderRead)
    (hended : t.readingEnded = s.readingEnded) (hstarted : t.readingStarted = s.readingStarted)
    (hinited : s.inited = true → t.inited = true) : Reads t := by
  have hmem : .clientReaderRead ∈ t.call.outstanding → .clientReaderRead ∈ s.call.outstanding := by
    intro ht
    have hpos := List.count_pos_iff.mpr ht
    exact List.count_pos_iff.mp (by omega)
  refine ⟨fun ht => ?_, fun ht hread => ?_, fun ht hbegun => ?_, fun ht hbegun => ?_⟩
  · have hs := h.once (hok ht)
    omega
  · rw [hended]
    exact h.unended (hok ht) (hmem hread)
  · rw [hstarted]
    rw [hended] at hbegun
    exact h.started (hok ht) (hbegun.imp_left hmem)
  · rw [hstarted] at hbegun
    exact hinited (h.inited (hok ht) hbegun)

private theorem count_start {tag : CqTag} {call : Call Note} (htag : tag ≠ .clientReaderRead) :
    (call.startBatch grpc tag).2.outstanding.count .clientReaderRead =
      call.outstanding.count .clientReaderRead := by
  rw [Call.startBatch_outstanding]
  split
  · simp [htag]
  · rfl

theorem Hearing.reads_on (h : Hearing s) (hinited : s.status.ok = true → s.inited = true)
    (grpc : Nat → Bool) :
    Reads { s with call := (s.call.startBatch grpc .clientReaderRead).2 } := by
  refine ⟨fun hok => ?_, fun hok _ => h.unended hok, fun _ _ => h.started, fun hok _ => hinited hok⟩
  have hnone := List.count_eq_zero_of_not_mem (h.none_out hok)
  rw [Call.startBatch_outstanding]
  split
  · simp [hnone]
  · omega

theorem Alive.keeps_reads (halive : Alive grpc s t) (hok : s.status.ok = true) (h : Reads s) :
    Reads t := by
  cases halive with
  | init hnew hsend hrecv =>
    refine h.of_same (fun _ => hok) ?_ rfl rfl fun _ => rfl
    exact Nat.le_of_eq ((count_start (by simp)).trans (count_start (by simp)))
  | sent msg hopen hqueue hgrpc =>
    refine h.of_same (fun _ => hok) ?_ rfl rfl id
    exact Nat.le_of_eq (count_start (by simp))
  | halfCloses hopen hqueue hgrpc =>
    refine h.of_same (fun _ => hok) ?_ rfl rfl id
    exact Nat.le_of_eq (count_start (by simp))
  | reads hasMsgCb hinit hnew hgrpc =>
    have hhearing : Hearing { s with readingStarted := true, msgCb := hasMsgCb } := by
      refine ⟨fun _ hmem => ?_, fun _ => ?_, rfl⟩
      · simp [h.started hok (.inl hmem)] at hnew
      · by_contra hended
        simp [h.started hok (.inr (by simpa using hended))] at hnew
    exact hhearing.reads_on (fun _ => hinit) grpc
  | _ => exact { h with }

theorem Alive.keeps_hearing (halive : Alive grpc s t) (hok : s.status.ok = true)
    (h : Hearing s) : Hearing t := by
  have hnone := h.none_out hok
  cases halive with
  | init hnew hsend hrecv =>
    exact ⟨fun _ => by simpa [hsend, hrecv] using hnone, h.unended, h.started⟩
  | sent msg hopen hqueue hgrpc =>
    exact ⟨fun _ => by simpa [hgrpc] using hnone, h.unended, h.started⟩
  | halfCloses hopen hqueue hgrpc =>
    exact ⟨fun _ => by simpa [hgrpc] using hnone, h.unended, h.started⟩
  | reads hasMsgCb hinit hnew hgrpc => simp [h.started] at hnew
  | _ => exact { h with }

private theorem runOps_reads (hcore : Core s) (h : Reads s) (ops : List Op) :
    Reads (runOps grpc ops s) := by
  rcases Bool.eq_false_or_eq_true s.status.ok with hok | hfailed
  · exact (runOps_acts hcore hok ops).keeps
      (fun _ _ hok _ halive hs => halive.keeps_reads hok hs)
      (fun _ _ _ _ _ _ herrored _ => .of_failed herrored.failed)
      (fun _ _ _ hfrozen _ => .of_failed hfrozen.failed) hcore hok h
  · exact .of_failed (runOps_frozen hfailed ops).failed

theorem runOps_hearing (hcore : Core s) (hok : s.status.ok = true) (h : Hearing s)
    (ops : List Op) : Hearing (runOps grpc ops s) := by
  have hstarted : (runOps grpc ops s).readingStarted = true := runOps_started hcore h.started ops
  have hacts : Acts grpc s (runOps grpc ops s) := runOps_acts hcore hok ops
  have hlive := hacts.keeps
    (J := fun t => t.status.ok = true → Hearing t)
    (fun _ _ hok _ halive hs _ => halive.keeps_hearing hok (hs hok))
    (fun _ _ _ _ _ _ herrored _ htrue => by simp [herrored.failed] at htrue)
    (fun _ _ _ hfrozen _ htrue => by simp [hfrozen.failed] at htrue) hcore hok fun _ => h
  exact ⟨fun htrue => (hlive htrue).none_out htrue, fun htrue => (hlive htrue).unended htrue,
    hstarted⟩

private theorem callStatusCb_reads (hcore : Core s) (h : Reads s) (cb : List Op) :
    Reads (callStatusCb (runOps grpc cb) s) := by
  unfold callStatusCb
  split
  · have hnote : Reads (s.note (.statusCb s.status)) := { h with }
    have hcore' : Core (s.note (.statusCb s.status)) := { hcore with }
    have hafter : Reads (runOps grpc cb (s.note (.statusCb s.status))) :=
      runOps_reads hcore' hnote cb
    exact { hafter with }
  · exact h

theorem complete_reads {index : Nat} {success : Bool} {received : Received} {tag : CqTag}
    {call : Call Note} (h : Reads s)
    (hcall : s.call.complete index success received = some (tag, call)) :
    Reads { s with call := call } ∧
      (s.status.ok = true → tag = .clientReaderRead → Hearing { s with call := call }) := by
  obtain ⟨before, after, hsplit, rfl⟩ := Call.complete_eq_some hcall
  constructor
  · refine h.of_same id ?_ rfl rfl id
    simp only [hsplit, List.count_append, List.count_cons]
    omega
  · rintro hok rfl
    have hmem : .clientReaderRead ∈ s.call.outstanding := by simp [hsplit]
    refine ⟨fun _ => ?_, fun _ => h.unended hok hmem, h.started hok (.inl hmem)⟩
    have hcount := h.once hok
    simp only [hsplit, List.count_append, List.count_cons_self] at hcount
    apply List.count_eq_zero.mp
    rw [List.count_append]
    omega

theorem Sent.keeps_reads {call : Call Note} {success : Bool} {cb : List Op}
    (hsent : Sent grpc cb s call success t) (hcore : Core s) (h : Reads { s with call := call }) :
    Reads t := by
  have hclose : Reads { s with
      msgQueue := s.msgQueue.tail, hasSentClose := true, writingEnded := true
      call := (call.startBatch grpc .clientSendClose).2 } :=
    h.of_same id (Nat.le_of_eq (count_start (by simp))) rfl rfl id
  cases hsent with
  | next front rest hqueue hgrpc =>
    exact h.of_same id (Nat.le_of_eq (count_start (by simp))) rfl rfl id
  | idle hqueue hopen => exact { h with }
  | closes hqueue hclosing hreading hgrpc => exact hclose
  | ends hqueue hclosing hreading hgrpc =>
    exact callStatusCb_reads (hcore.half_closes hclosing _ _) hclose cb
  | failed t herrored => exact .of_failed herrored.failed
  | nextRefused front rest t hqueue hgrpc herrored => exact .of_failed herrored.failed
  | closeRefused t hqueue hclosing hgrpc herrored => exact .of_failed herrored.failed

private theorem goesOn_reads (script : Script) (hcore : Core u) (h : Hearing u)
    (hinited : u.status.ok = true → u.inited = true) : Reads (goesOn grpc script u) := by
  rcases Bool.eq_false_or_eq_true u.status.ok with hok | hfailed
  · rcases goesOn_cases grpc script hok with herrored | ⟨-, heq⟩ | ⟨-, herrored⟩
    · exact .of_failed herrored.failed
    · have hnote : Hearing (u.note (.msgCbReturns script.msgCbResult)) := { h with }
      rw [heq]
      exact hnote.reads_on hinited grpc
    · exact .of_failed herrored.failed
  · exact .of_failed (goesOn_dead script hfailed (hcore.silenced hfailed)).failed

theorem Heard.keeps_reads {script : Script} {call : Call Note} {success : Bool}
    {received : Received} (hheard : Heard grpc script s call success received t) (hcore : Core s)
    (hok : s.status.ok = true) (h : Reads { s with call := call })
    (hh : Hearing { s with call := call }) : Reads t := by
  have hended : Reads { s with call := call, readingEnded := true } := by
    have hnone := hh.none_out hok
    exact ⟨h.once, fun _ hmem => absurd hmem hnone, fun _ _ => hh.started, h.inited⟩
  cases hheard with
  | closes _ hnone hwriting => exact hended
  | ends _ hnone hwriting =>
    have hcore' : Core { s with call := call, readingEnded := true } := { hcore with }
    exact callStatusCb_reads hcore' hended script.statusCb
  | reads _ bytes hbuf hcb hgrpc => exact hh.reads_on (fun hok => h.inited hok hh.started) grpc
  | hears _ bytes hbuf hcb =>
    have hcore' : Core { s with call := call.note (.msgCb bytes) } := { hcore with }
    have hnote : Hearing { s with call := call.note (.msgCb bytes) } := { hh with }
    have hreads : Reads { s with call := call.note (.msgCb bytes) } := { h with }
    have hafter : Reads (runOps grpc script.msgCb { s with call := call.note (.msgCb bytes) }) :=
      runOps_reads hcore' hreads script.msgCb
    have hhearing : Hearing (runOps grpc script.msgCb
        { s with call := call.note (.msgCb bytes) }) :=
      runOps_hearing hcore' hok hnote script.msgCb
    have hcore'' : Core (runOps grpc script.msgCb { s with call := call.note (.msgCb bytes) }) :=
      (runOps_acts hcore' hok script.msgCb).core hcore' hok
    exact goesOn_reads script hcore'' hhearing fun hok => hafter.inited hok hhearing.started
  | failed _ t herrored => exact .of_failed herrored.failed
  | garbled _ t hbuf herrored => exact .of_failed herrored.failed
  | readRefused _ bytes t hbuf hcb hgrpc herrored => exact .of_failed herrored.failed

theorem step_reads {l : Lane StdString Unit} {label : Label} (h : Refines s l) (hreads : Reads s)
    (hstep : step grpc s label = some t) : Reads t := by
  cases step_cases h hstep with
  | op op =>
    have hops : Reads (runOps grpc [op] s) := runOps_reads h.core hreads [op]
    simpa [runOps] using hops
  | sent _ _ _ _ m call t hcall hok hsent =>
    exact hsent.keeps_reads h.core (complete_reads hreads hcall).1
  | sentDead _ _ _ _ m call hcall hfailed => exact .of_failed hfailed
  | heard _ _ _ _ call t hcall hok hstarted hheard =>
    obtain ⟨hafter, hhearing⟩ := complete_reads hreads hcall
    exact hheard.keeps_reads h.core hok hafter (hhearing hok rfl)
  | silent _ _ _ _ tag call hcall hmsg => exact (complete_reads hreads hcall).1

theorem reads_fresh (statusCb : Bool) : Reads (clientAsyncReaderWriterImpl statusCb) := by
  constructor <;> simp [clientAsyncReaderWriterImpl]

end reads

section ends

variable {grpc : Nat → Bool} {s t u v : Impl}

def SameEnds (s t : Impl) : Prop :=
  t.readingEnded = s.readingEnded ∧ t.writingEnded = s.writingEnded

private theorem initIfNot_ends (hok : s.status.ok = true) (cb : List Op)
    (hlive : (initIfNot grpc (runOps grpc cb) s).status.ok = true) :
    SameEnds s (initIfNot grpc (runOps grpc cb) s) := by
  rcases Bool.eq_false_or_eq_true s.inited with hinit | hnew
  · rw [initIfNot_inited _ hinit]
    exact ⟨rfl, rfl⟩
  · rcases initIfNot_cases grpc hok hnew cb s.readingStarted id with
      ⟨-, -, heq⟩ | ⟨u, -, herrored⟩
    · rw [show initIfNot grpc (runOps grpc cb) s = _ from heq]
      exact ⟨rfl, rfl⟩
    · have hfailed : (initIfNot grpc (runOps grpc cb) s).status.ok = false := herrored.failed
      simp [hfailed] at hlive

private theorem readNext_ends (hok : s.status.ok = true) (cb : List Op)
    (hlive : (readNext grpc (runOps grpc cb) s).status.ok = true) :
    SameEnds s (readNext grpc (runOps grpc cb) s) := by
  rcases Bool.eq_false_or_eq_true (grpc s.call.starts) with hgrpc | hgrpc
  · rw [readNext_accepted hok hgrpc]
    exact ⟨rfl, rfl⟩
  · simp [(readNext_refused hok hgrpc cb).failed] at hlive

private theorem write_ends (hcore : Core s) (hok : s.status.ok = true) (hinit : s.inited = true)
    (msg : StdString) (cb : List Op)
    (hlive : (runOp grpc (.write msg cb) s).status.ok = true) :
    SameEnds s (runOp grpc (.write msg cb) s) := by
  rcases write_cases grpc hcore hok hinit msg cb with ⟨-, heq⟩ | ⟨-, -, heq⟩ | ⟨-, -, -, heq⟩ |
    ⟨-, -, -, v, herrored, heq⟩
  · rw [heq]
    exact ⟨rfl, rfl⟩
  · rw [heq]
    exact ⟨rfl, rfl⟩
  · rw [heq]
    exact ⟨rfl, rfl⟩
  · simp [heq, herrored.failed] at hlive

/-- A `CloseWriting` that ends the writing at once. -/
def EndsWriting (grpc : Nat → Bool) (s : Impl) (op : Op) : Prop :=
  (∃ cb, op = .closeWriting cb) ∧ s.status.ok = true ∧ s.writingClosing = false ∧
    s.msgQueue = [] ∧ grpc s.call.starts = true

/-- A call that leaves the object alive ends no direction, but for that one. -/
theorem runOp_ends (hcore : Core s) (hok : s.status.ok = true) (op : Op)
    (hlive : (runOp grpc op s).status.ok = true) :
    (runOp grpc op s).readingEnded = s.readingEnded ∧
      ((runOp grpc op s).writingEnded = s.writingEnded ∨ EndsWriting grpc s op) := by
  cases op with
  | write msg cb =>
    rcases Bool.eq_false_or_eq_true s.inited with hinit | hnew
    · have hends := write_ends hcore hok hinit msg cb hlive
      exact ⟨hends.1, .inl hends.2⟩
    · rcases write_first grpc hok hnew msg cb with ⟨hsend, hrecv, heq⟩ |
        ⟨u, v, -, herrored, heq⟩
      · have halive : Alive grpc s _ := .init s hnew hsend hrecv
        rw [heq] at hlive ⊢
        have hends := write_ends (halive.core hcore hok) hok rfl msg cb hlive
        exact ⟨hends.1, .inl hends.2⟩
      · simp [heq, herrored.failed] at hlive
  | closeWriting cb =>
    rcases closeWriting_cases grpc hcore hok cb with ⟨-, heq⟩ | ⟨-, -, heq⟩ |
      ⟨hopen, hqueue, hgrpc, heq⟩ | ⟨-, -, -, herrored⟩
    · rw [heq]
      exact ⟨rfl, .inl rfl⟩
    · rw [heq]
      exact ⟨rfl, .inl rfl⟩
    · exact ⟨by rw [heq]; rfl, .inr ⟨⟨cb, rfl⟩, hok, hopen, hqueue, hgrpc⟩⟩
    · simp [herrored.failed] at hlive
  | readEach hasMsgCb cb =>
    revert hlive
    simp only [runOp, readEach]
    split
    · exact fun _ => ⟨rfl, .inl rfl⟩
    · have hinit : _ → SameEnds s
          (initIfNot grpc (runOps grpc cb) { s with readingStarted := true }) :=
        initIfNot_ends (s := { s with readingStarted := true }) hok cb
      generalize initIfNot grpc (runOps grpc cb) { s with readingStarted := true } = u at hinit
      cases hu : u.status.ok with
      | false => simp [hu]
      | true =>
        obtain ⟨hreading, hwriting⟩ := hinit hu
        simp only [Bool.not_true, Bool.false_eq_true, if_false]
        intro hlive
        have hread := readNext_ends (s := { u with msgCb := hasMsgCb }) hu cb hlive
        exact ⟨hread.1.trans hreading, .inl (hread.2.trans hwriting)⟩
  | setErrorStatus errorStatus cb =>
    obtain ⟨status, herrored⟩ := setErrorStatus_errored grpc hok
      (show (Op.setErrorStatus errorStatus cb).setsError = true from rfl)
    simp [herrored.failed] at hlive

end ends

end GrpcCbCore.Client.ReaderWriterImpl
