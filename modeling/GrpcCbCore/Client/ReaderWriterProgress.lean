import GrpcCbCore.Client.ReaderWriterDestroy
import GrpcCbCore.Client.ReaderWriterFlags
import GrpcCbCore.Client.ReaderWriterHears
import GrpcCbCore.Client.ReaderWriterOnce

/-! A `ClientAsyncReaderWriterImpl` that is closing, and whose batches complete with success:
each completion brings its two directions nearer to their ends, and behind the later of them
the status callback is told OK. -/
namespace GrpcCbCore.Client.ReaderWriterImpl
open GrpcCbCore.Library

/-- The message callback returns OK, and no callback sets an error. -/
structure Script.Mild (script : Script) : Prop where
  result : script.msgCbResult.ok = true
  msgCb : ∀ op ∈ script.msgCb, op.setsError = false
  statusCb : ∀ op ∈ script.statusCb, op.setsError = false

/-- grpc carries out what it has accepted; the user does no more but in the callbacks. -/
def Succeeds (s : Impl) : Label → Prop
  | .op _ => False
  | .complete index success received script =>
      success = true ∧ script.Mild ∧
        (s.call.outstanding[index]? = some .clientReaderRead →
          received.recvBuf ≠ some .unreadable)

/-- A completion makes this smaller, but for a read with a message: the next one follows. -/
def left (s : Impl) : Nat := s.call.outstanding.length + 2 * s.msgQueue.length

def EndsReading (s : Impl) : Label → Prop
  | .op _ => False
  | .complete index _ received _ =>
      s.call.outstanding[index]? = some .clientReaderRead ∧ received.recvBuf = none

/-- The status callback is told OK where both directions have come to their ends, and nothing
before that. -/
inductive Tells (s t : Impl) : Prop
  | silent (hboth : BothEnded t → BothEnded s) (hcb : t.statusCb = s.statusCb)
      (htold : collect told t.call.log = collect told s.call.log)
  | ends (hboth : BothEnded t) (hcb : t.statusCb = false)
      (htold : collect told t.call.log =
        collect told s.call.log ++ if s.statusCb then [.OK] else [])

/-- What a completion that goes well comes to; `last` is that of a read with the end. -/
structure Goes (last : Prop) (s t : Impl) : Prop where
  live : Over t
  starts : s.call.starts ≤ t.call.starts
  nears : left t < left s ∨ left t = left s ∧ ∃ bytes, taken t = taken s ++ [bytes]
  ends : t.readingEnded = s.readingEnded ∨ t.readingEnded = true ∧ last
  tells : Tells s t

section goes

variable {grpc : Nat → Bool} {s t : Impl} {call : Call Note} {index : Nat}
  {received : Received} {last : Prop}

private theorem callStatusCb_over (grpc : Nat → Bool) (h : Over s) {cb : List Op}
    (hcb : ∀ op ∈ cb, op.setsError = false) :
    ∃ ns, (∀ n ∈ ns, Quiet n) ∧ callStatusCb (runOps grpc cb) s = { s with
      call := s.call.notes ((if s.statusCb then [.statusCb s.status] else []) ++ ns)
      statusCb := false } := by
  unfold callStatusCb
  split
  · next hset =>
    have hover : Over (s.note (.statusCb s.status)) := { h with }
    obtain ⟨ns, hns, heq⟩ := runOps_over grpc hover hcb
    refine ⟨ns, hns, ?_⟩
    rw [heq]
    simp [Impl.note, Call.note, Call.notes]
  · next hset =>
    refine ⟨[], by simp, ?_⟩
    cases s
    simp_all

private theorem ends_tells (grpc : Nat → Bool) {u : Impl} (hover : Over u) (hcore : Core u)
    (hboth : BothEnded u) {cb : List Op} (hcb : ∀ op ∈ cb, op.setsError = false)
    (hsame : u.statusCb = s.statusCb)
    (htold : collect told u.call.log = collect told s.call.log) :
    Over (callStatusCb (runOps grpc cb) u) ∧
      (callStatusCb (runOps grpc cb) u).call.starts = u.call.starts ∧
      left (callStatusCb (runOps grpc cb) u) = left u ∧
      (callStatusCb (runOps grpc cb) u).readingEnded = true ∧
      Tells s (callStatusCb (runOps grpc cb) u) := by
  obtain ⟨ns, hns, heq⟩ := callStatusCb_over grpc hover hcb
  rw [heq]
  refine ⟨{ hover with }, rfl, rfl, hboth.1, .ends hboth rfl ?_⟩
  rw [← hsame, ← htold, hcore.status hover.ok]
  cases hset : u.statusCb <;> simp [quiet_told hns]

theorem Sent.goes {cb : List Op} {m : StdString} (hsent : Sent grpc cb s call true t)
    (hover : Over s) (hcore : Core s) (hqueue : s.msgQueue ≠ [])
    (hgrpc : grpc s.call.starts = true) (hcb : ∀ op ∈ cb, op.setsError = false)
    (hcall : s.call.complete index true received = some (.clientSendMsg m, call)) :
    Goes last s t := by
  have hstarts := (Call.complete_found hcall).2
  have hlength := Call.complete_length hcall
  have htold := complete_told hcall
  have hnow : grpc call.starts = true := by rw [hstarts, hgrpc]
  have hless : s.msgQueue.length = s.msgQueue.tail.length + 1 := by
    obtain ⟨front, rest, hq⟩ := List.exists_cons_of_ne_nil hqueue
    simp [hq]
  cases hsent with
  | next front rest htail hgrpc =>
    refine ⟨{ hover with }, by simp [hstarts], .inl ?_, .inl rfl, .silent id rfl (by simp [htold])⟩
    simp only [left, Call.startBatch_outstanding, hnow, if_true, List.length_append,
      List.length_singleton]
    omega
  | nextRefused front rest t htail hrefused => simp [hnow] at hrefused
  | idle htail hopen => simp [hover.closing] at hopen
  | closes htail hclosing hreading hgrpc =>
    refine ⟨{ hover with }, by simp [hstarts], .inl ?_, .inl rfl, .silent ?_ rfl (by simp [htold])⟩
    · simp only [left, Call.startBatch_outstanding, hnow, if_true, List.length_append,
        List.length_singleton]
      omega
    · exact fun hboth => absurd hboth.1 (by simp [hreading])
  | ends htail hclosing hreading hgrpc =>
    obtain ⟨hafter, hnumber, hleft, hended, htells⟩ := ends_tells (s := s) grpc
      (u := { s with
        msgQueue := s.msgQueue.tail, hasSentClose := true, writingEnded := true
        call := (call.startBatch grpc .clientSendClose).2 })
      { hover with } (hcore.half_closes hclosing _ _) ⟨hreading, rfl⟩ hcb rfl (by simp [htold])
    refine ⟨hafter, ?_, .inl ?_, .inl (hended.trans hreading.symm), htells⟩
    · rw [hnumber]
      simp [hstarts]
    · rw [hleft]
      simp only [left, Call.startBatch_outstanding, hnow, if_true, List.length_append,
        List.length_singleton]
      omega
  | closeRefused t htail hclosing hrefused => simp [hnow] at hrefused

theorem Heard.taken_eq {script : Script} {success : Bool}
    (hheard : Heard grpc script s call success received t) (hcore : Core s)
    (hok : s.status.ok = true)
    (hcall : s.call.complete index success received = some (.clientReaderRead, call)) :
    taken t = taken s ++ if success then received.message?.toList else [] := by
  have hbrought : collect (Event.brought .clientReaderRead) t.call.log =
      collect (Event.brought .clientReaderRead) call.log := by
    rcases hheard.silently hcore hok with hsilent | ⟨bytes, hsilent⟩
    · exact hsilent.brought_eq
    · exact hsilent.brought_eq.trans (by simp)
  rw [taken, hbrought, Call.complete_log hcall]
  cases success <;> simp [taken]

private theorem goesOn_accepted {u : Impl} {script : Script} (hok : u.status.ok = true)
    (hresult : script.msgCbResult.ok = true) (hgrpc : grpc u.call.starts = true) :
    goesOn grpc script u = { u with
      call := ((u.call.note (.msgCbReturns script.msgCbResult)).startBatch grpc
        .clientReaderRead).2 } := by
  unfold goesOn
  rw [if_neg (by simp [hresult]), readNext_accepted (by exact hok) (by exact hgrpc)]
  rfl

theorem Heard.goes {script : Script} (hheard : Heard grpc script s call true received t)
    (hover : Over s) (hcore : Core s) (hreading : s.readingEnded = false)
    (hgrpc : grpc s.call.starts = true) (hmild : script.Mild)
    (hreadable : received.recvBuf ≠ some .unreadable)
    (hcall : s.call.complete index true received = some (.clientReaderRead, call)) :
    Goes (received.recvBuf = none) s t := by
  have hstarts := (Call.complete_found hcall).2
  have hlength := Call.complete_length hcall
  have htold := complete_told hcall
  have hnow : grpc call.starts = true := by rw [hstarts, hgrpc]
  have htaken := hheard.taken_eq hcore hover.ok hcall
  have hunended : ¬ BothEnded s := fun hboth => absurd hboth.1 (by simp [hreading])
  cases hheard with
  | closes _ hnone hwriting =>
    refine ⟨{ hover with }, by simp [hstarts], .inl ?_, .inr ⟨rfl, hnone⟩,
      .silent ?_ rfl (by simp [htold])⟩
    · simp only [left]
      omega
    · exact fun hboth => absurd hboth.2 (by simp [hwriting])
  | ends _ hnone hwriting =>
    obtain ⟨hafter, hnumber, hleft, hended, htells⟩ := ends_tells (s := s) grpc
      (u := { s with call := call, readingEnded := true })
      { hover with } { hcore with } ⟨rfl, hwriting⟩ hmild.statusCb rfl htold
    refine ⟨hafter, ?_, .inl ?_, .inr ⟨hended, hnone⟩, htells⟩
    · rw [hnumber]
      simp [hstarts]
    · rw [hleft]
      simp only [left]
      omega
  | garbled _ t hbuf herrored => exact absurd hbuf hreadable
  | reads _ bytes hbuf hcb hgrpc =>
    refine ⟨{ hover with }, by simp [hstarts], .inr ⟨?_, bytes, ?_⟩, .inl rfl,
      .silent (fun hboth => absurd hboth hunended) rfl (by simp [htold])⟩
    · simp only [left, Call.startBatch_outstanding, hnow, if_true, List.length_append,
        List.length_singleton]
      omega
    · simpa [hbuf] using htaken
  | readRefused _ bytes t hbuf hcb hrefused herrored => simp [hnow] at hrefused
  | hears _ bytes hbuf hcb =>
    have hnote : Over { s with call := call.note (.msgCb bytes) } := { hover with }
    obtain ⟨ns, hns, heq⟩ := runOps_over grpc hnote hmild.msgCb
    rw [heq, goesOn_accepted (by exact hover.ok) hmild.result (by simpa using hnow)] at htaken ⊢
    refine ⟨{ hover with }, by simp [hstarts], .inr ⟨?_, bytes, ?_⟩, .inl rfl,
      .silent (fun hboth => absurd hboth hunended) rfl (by simp [htold, quiet_told hns])⟩
    · simp only [left, Call.startBatch_outstanding, Call.note_starts, Call.notes_starts, hnow,
        if_true, List.length_append, List.length_singleton, Call.note_outstanding,
        Call.notes_outstanding]
      omega
    · simpa [hbuf] using htaken

private theorem silent_goes {success : Bool} {tag : CqTag} (hover : Over s)
    (hcall : s.call.complete index success received = some (tag, call)) :
    Goes last s { s with call := call } := by
  have hstarts := (Call.complete_found hcall).2
  have hlength := Call.complete_length hcall
  refine ⟨{ hover with }, by simp [hstarts], .inl ?_, .inl rfl,
    .silent id rfl (complete_told hcall)⟩
  simp only [left]
  omega

private theorem step_goes {l : Lane StdString Unit} {label : Label} (h : Refines s l)
    (hreads : Reads s)
    (hover : Over s) (hgrpc : grpc s.call.starts = true) (hlabel : Succeeds s label)
    (hstep : step grpc s label = some t) : Goes (EndsReading s label) s t := by
  cases step_cases h hstep with
  | op op => exact hlabel.elim
  | sent index success received script m call t hcall hok hsent =>
    obtain ⟨rfl, hmild, -⟩ := hlabel
    obtain ⟨-, hqueue, -⟩ := h.flying (Call.complete_subset hcall).1
    exact hsent.goes hover h.core hqueue hgrpc hmild.statusCb hcall
  | sentDead index success received script m call hcall hfailed => simp [hover.ok] at hfailed
  | heard index success received script call t hcall hok hstarted hheard =>
    obtain ⟨rfl, hmild, hreadable⟩ := hlabel
    have htag := (Call.complete_found hcall).1
    have hreading := hreads.unended hok (List.mem_of_getElem? htag)
    have hgoes := hheard.goes hover h.core hreading hgrpc hmild (hreadable htag) hcall
    exact { hgoes with
      ends := hgoes.ends.imp_right fun ⟨hended, hnone⟩ => ⟨hended, htag, hnone⟩ }
  | silent index success received script tag call hcall hmsg hdead =>
    exact silent_goes hover hcall

end goes

section underway

variable {grpc : Nat → Bool} {s t first : Impl} {l l' : Lane StdString Unit}

def Told (first s : Impl) : Prop :=
  ¬ BothEnded s ∧ s.statusCb = first.statusCb ∧
      collect told s.call.log = collect told first.call.log ∨
    s.statusCb = false ∧ collect told s.call.log =
      collect told first.call.log ++ if first.statusCb then [.OK] else []

theorem Tells.since (h : Tells s t) (hs : Told first s) : Told first t := by
  rcases h with ⟨hboth, hcb, htold⟩ | ⟨hboth, hcb, htold⟩
  · rcases hs with ⟨hunended, hset, hsame⟩ | ⟨hset, hmore⟩
    · exact .inl ⟨fun ht => hunended (hboth ht), hcb.trans hset, htold.trans hsame⟩
    · exact .inr ⟨hcb.trans hset, htold.trans hmore⟩
  · rcases hs with ⟨hunended, hset, hsame⟩ | ⟨hset, hmore⟩
    · exact .inr ⟨hcb, by rw [htold, hsame, hset]⟩
    · exact .inr ⟨hcb, by simp [htold, hmore, hset]⟩

/-- A live object that is closing, nothing being refused to it any more. -/
structure Underway (grpc : Nat → Bool) (first s : Impl) (l : Lane StdString Unit) : Prop where
  refines : Refines s l
  live : Over s
  reads : Reads s
  rests : Rests s
  listens : Listens s
  hears : Hears s
  grants : ∀ k, s.call.starts ≤ k → grpc k = true
  told : Told first s

theorem Underway.asked (h : Underway grpc first s l) : l.closing.isSome = true :=
  (h.refines.closing (h.refines.ok h.live.ok)).symm.trans h.live.closing

theorem Underway.closed (h : Underway grpc first s l) : collect closeCall s.call.log ≠ [] := by
  intro hnone
  have hhead := h.refines.closeCall h.live.ok
  have hasked := h.asked
  simp [← hhead, hnone] at hasked

theorem Underway.accepts_no_more (h : Underway grpc first s l) (h' : Refines t l')
    (hlog : s.call.log <+: t.call.log) : l'.accepted = l.accepted := by
  obtain ⟨more, hmore⟩ := hlog
  rw [← h'.accepted, ← h.refines.accepted, ← hmore, collect_append, collect_eq_nil _ more,
    List.append_nil]
  intro e he
  by_contra haccepted
  obtain ⟨before, after, rfl⟩ := List.append_of_mem he
  have hrefused := h'.refuses (s.call.log ++ before) e after (by simp [← hmore])
    (by simp [h.closed])
  rcases e with _ | _ | ⟨msg, _ | _⟩ | _ | _ | _ | _ | _ | _ | _ <;> simp at haccepted
  simpa using hrefused msg true rfl

theorem Underway.goes_on (h : Underway grpc first s l) {label : Label}
    (hlabel : Succeeds s label) (hstep : step grpc s label = some t) :
    Goes (EndsReading s label) s t ∧ ∃ l', Underway grpc first t l' ∧
      l.started <+: l'.started ∧ l'.accepted = l.accepted ∧
      (l.closeSent = true → l'.closeSent = true ∧ l'.started = l.started) := by
  have hgoes := step_goes h.refines h.reads h.live (h.grants _ (Nat.le_refl _)) hlabel hstep
  obtain ⟨l', hrefines⟩ := step_refines h.refines hstep
  have hlog := (step_adds h.refines hstep).1
  obtain ⟨hstarted, hclosed⟩ := h.refines.started_grows hrefines hlog
  obtain ⟨hrests, hlistens⟩ := step_rests h.refines ⟨h.rests, h.listens⟩ hstep
  exact ⟨hgoes, l', ⟨hrefines, hgoes.live, step_reads h.refines h.reads hstep, hrests, hlistens,
    step_hears h.refines h.hears hstep, fun k hk => h.grants k (Nat.le_trans hgoes.starts hk),
    hgoes.tells.since h.told⟩, hstarted, h.accepts_no_more hrefines hlog, hclosed⟩

/-- What an object has come to that waits for nothing: both directions have ended, and the
status callback, if it is set, was told OK. -/
structure Rested (first s : Impl) : Prop where
  outstanding : s.call.outstanding = []
  ended : BothEnded s
  status : s.status = .OK
  told : collect told s.call.log =
    collect told first.call.log ++ if first.statusCb then [.OK] else []

theorem Underway.rested (h : Underway grpc first s l) (hnone : s.call.outstanding = []) :
    Rested first s ∧ l.closeSent = true := by
  have hidle : s.call.outstanding.filterMap CqTag.message? = [] := by simp [hnone]
  have hboth : BothEnded s := by
    constructor
    · exact (h.listens h.live.ok h.live.started).resolve_left (by simp [hnone])
    · exact h.refines.writing_ended h.rests h.closed hidle
  constructor
  · refine ⟨hnone, hboth, h.refines.core.status h.live.ok, ?_⟩
    exact (h.told.resolve_left fun hsilent => hsilent.1 hboth).2
  · have hattempt := h.refines.half_closed h.live.ok h.closed hidle
    rw [h.refines.closeAttempt] at hattempt
    by_contra hunsent
    simp [hunsent] at hattempt

theorem Underway.close_accepted (h : Underway grpc first s l) (hsent : l.closeSent = true) :
    .start .clientSendClose true ∈ s.call.log := by
  have hclean := h.refines.ledger.broke.mp (h.refines.ok h.live.ok)
  rw [collect_flatMap_eq_nil _ fun e => (sights_columns e).2.2.2.2.2] at hclean
  obtain ⟨word, hword⟩ := Option.isSome_iff_exists.mp h.asked
  have hattempt := h.refines.closeAttempt
  rw [if_pos hsent, hword] at hattempt
  obtain ⟨e, hmem, he⟩ := (collect_ne_nil closeAttempt s.call.log).mp (by simp [hattempt])
  rcases e with ⟨tag, ok⟩ | _ | _ <;> simp at he
  subst he
  cases ok with
  | true => exact hmem
  | false =>
    have hfailed : collect Event.failed s.call.log ≠ [] :=
      (collect_ne_nil _ _).mpr ⟨_, hmem, by simp⟩
    exact absurd (failed_of_trouble hclean) hfailed

/-- A live object that reads, and was told to close, is underway. -/
theorem run_underway {statusCb : Bool} {ls : List Label}
    (hrun : (machine grpc).run (clientAsyncReaderWriterImpl statusCb) ls = some s)
    (h : Refines s l) (hok : s.status.ok = true) (hread : .clientReaderRead ∈ s.call.outstanding)
    (hclosed : collect closeCall s.call.log ≠ [])
    (hgrpc : ∀ k, s.call.starts ≤ k → grpc k = true) : Underway grpc s s l := by
  obtain ⟨-, hreads, hrests, hlistens⟩ := (machine grpc).invariant
    (I := fun s => (∃ l, Refines s l) ∧ Reads s ∧ Rests s ∧ Listens s)
    (fun _ _ _ ⟨⟨_, h⟩, hreads, hrests⟩ hstep =>
      ⟨step_refines h hstep, step_reads h hreads hstep, step_rests h hrests hstep⟩)
    ⟨⟨_, refines_fresh statusCb⟩, reads_fresh statusCb,
      ⟨by simp [clientAsyncReaderWriterImpl], by simp [clientAsyncReaderWriterImpl]⟩,
      fun _ hstarted => by simp [clientAsyncReaderWriterImpl] at hstarted⟩ hrun
  have hstarted := hreads.started hok (.inl hread)
  have hclosing : s.writingClosing = true := by
    have hasked : s.writingClosing = l.closing.isSome := h.closing (h.ok hok)
    rw [hasked, ← h.closeCall hok, List.isSome_head?]
    simpa using hclosed
  have hreading := hreads.unended hok hread
  exact ⟨h, ⟨hok, hreads.inited hok hstarted, hstarted, hclosing⟩, hreads, hrests, hlistens,
    run_hears hrun, hgrpc, .inl ⟨fun hboth => absurd hboth.1 (by simp [hreading]), rfl, rfl⟩⟩

end underway

end GrpcCbCore.Client.ReaderWriterImpl
