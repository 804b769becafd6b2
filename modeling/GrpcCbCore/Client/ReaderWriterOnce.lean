import GrpcCbCore.Client.ReaderWriterStatusCb

/-! `CallStatusCb` forgets the callback only after it has returned. At an error
the object is dead by then and nothing comes of it; at the normal end a callback
that sets an error is called again. -/
namespace GrpcCbCore.Client.ReaderWriterImpl
open GrpcCbCore.Library Relation

/-- The callback was called at most once, and not at all while it is still set. -/
structure Once (s : Impl) : Prop where
  unsaid : s.statusCb = true → collect told s.call.log = []
  once : (collect told s.call.log).length ≤ 1

structure Over (s : Impl) : Prop where
  ok : s.status.ok = true
  inited : s.inited = true
  started : s.readingStarted = true
  closing : s.writingClosing = true

section once

variable {grpc : Nat → Bool} {s t u v : Impl}

theorem Once.of_same (h : Once s) (htold : collect told t.call.log = collect told s.call.log)
    (hcb : t.statusCb = s.statusCb) : Once t :=
  ⟨by rw [htold, hcb]; exact h.unsaid, by rw [htold]; exact h.once⟩

theorem Errored.tells_once (he : Errored u v) (h : Once u) : Once v := by
  refine ⟨by simp [he.statusCb], ?_⟩
  rcases he.tells with ⟨hcb, error, htold⟩ | ⟨-, htold⟩
  · simp [htold, h.unsaid hcb]
  · rw [htold]
    exact h.once

private theorem runOps_once (hcore : Core s) (h : Once s) (ops : List Op) : Once
    (runOps grpc ops s) := by
  rcases Bool.eq_false_or_eq_true s.status.ok with hok | hfailed
  · refine (runOps_acts hcore hok ops).keeps ?_ ?_ ?_ hcore hok h
    · intro s t _ _ halive hs
      exact hs.of_same halive.tells.1 halive.tells.2
    · intro s u v _ _ hfatal herrored hs
      exact herrored.tells_once (hs.of_same hfatal.tells.1 hfatal.tells.2)
    · intro s t _ hfrozen hs
      exact hs.of_same hfrozen.tells.1 hfrozen.tells.2
  · have hfrozen : Frozen s (runOps grpc ops s) := runOps_frozen hfailed ops
    exact h.of_same hfrozen.tells.1 hfrozen.tells.2

private theorem runOps_append (xs ys : List Op) :
    runOps grpc (xs ++ ys) s = runOps grpc ys (runOps grpc xs s) := by
  induction xs generalizing s with
  | nil => simp [runOps]
  | cons op xs ih => simp [runOps, ih]

private theorem runOp_over (grpc : Nat → Bool) (h : Over s) {op : Op} (hop : op.setsError = false) :
    runOp grpc op s = s ∨ ∃ n, Quiet n ∧ runOp grpc op s = s.note n := by
  cases op with
  | write msg cb =>
    refine .inr ⟨.write msg false, by simp [Quiet], ?_⟩
    simp [runOp, write, initIfNot_inited _ h.inited, h.ok, h.closing]
  | closeWriting cb =>
    refine .inr ⟨.closeWriting, trivial, ?_⟩
    simp [runOp, closeWriting, h.closing]
  | readEach hasMsgCb cb =>
    left
    simp [runOp, readEach, h.started]
  | setErrorStatus errorStatus cb => simp [Op.setsError] at hop

theorem runOps_over (grpc : Nat → Bool) (h : Over s) {ops : List Op}
    (hops : ∀ op ∈ ops, op.setsError = false) :
    ∃ ns, (∀ n ∈ ns, Quiet n) ∧ runOps grpc ops s = { s with call := s.call.notes ns } := by
  induction ops generalizing s with
  | nil => exact ⟨[], by simp, by simp [runOps]⟩
  | cons op ops ih =>
    have hrest : ∀ op ∈ ops, op.setsError = false := fun x hx => hops x (List.mem_cons_of_mem _ hx)
    rw [runOps]
    rcases runOp_over grpc h (hops op (by simp)) with heq | ⟨n, hn, heq⟩
    · rw [heq]
      exact ih h hrest
    · have hover : Over (s.note n) := { h with }
      obtain ⟨ns, hns, hafter⟩ := ih hover hrest
      refine ⟨n :: ns, by simpa [hn] using hns, ?_⟩
      rw [heq, hafter, Impl.note_call, Call.notes_note]
      rfl

private theorem callStatusCb_once (h : Over s) (hone : Once s) {cb : List Op}
    (hgood : s.statusCb = true → ∀ op ∈ cb, op.setsError = false) :
    Once (callStatusCb (runOps grpc cb) s) := by
  unfold callStatusCb
  split
  · next hcb =>
    have hover : Over (s.note (.statusCb s.status)) := { h with }
    obtain ⟨ns, hns, heq⟩ := runOps_over grpc hover (hgood hcb)
    refine ⟨by simp, ?_⟩
    rw [heq]
    simp [hone.unsaid hcb, quiet_told hns]
  · exact hone

/-- `SetErrorStatus` on a live object whose callback is running calls it again. -/
theorem setErrorStatus_tells (hok : s.status.ok = true) (hcb : s.statusCb = true)
    (hcalled : collect told s.call.log ≠ []) {op : Op} (hop : op.setsError = true)
    (ops : List Op) : ¬ (collect told (runOps grpc (op :: ops) s).call.log).length ≤ 1 := by
  obtain ⟨status, herrored⟩ := setErrorStatus_errored grpc hok hop
  rw [runOps, (runOps_frozen herrored.failed ops).tells.1]
  rcases herrored.tells with ⟨-, error, htold⟩ | ⟨hfalse, -⟩
  · have hlength := List.length_pos_of_ne_nil hcalled
    rw [htold]
    simp
    omega
  · simp [hcb] at hfalse

/-- A callback that sets an error is called again. -/
theorem callStatusCb_twice (h : Over s) (hcb : s.statusCb = true) {cb : List Op}
    (hbad : ∃ op ∈ cb, op.setsError = true) :
    ¬ (collect told (callStatusCb (runOps grpc cb) s).call.log).length ≤ 1 := by
  -- the first call of `SetErrorStatus` in the callback
  obtain ⟨before, op, after, rfl, hop, hbefore⟩ :
      ∃ before op after, cb = before ++ op :: after ∧ op.setsError = true ∧
        ∀ op ∈ before, op.setsError = false := by
    obtain ⟨op, hmem, hop⟩ := hbad
    have hfind : (cb.find? Op.setsError).isSome = true := by
      rw [List.find?_isSome]
      exact ⟨op, hmem, hop⟩
    obtain ⟨first, hfirst⟩ := Option.isSome_iff_exists.mp hfind
    obtain ⟨hsets, before, after, hsplit, hbefore⟩ := List.find?_eq_some_iff_append.mp hfirst
    exact ⟨before, first, after, hsplit, hsets, fun op hop => by simpa using hbefore op hop⟩
  have hover : Over (s.note (.statusCb s.status)) := { h with }
  obtain ⟨ns, hns, heq⟩ := runOps_over grpc hover hbefore
  rw [callStatusCb, if_pos hcb, runOps_append, heq]
  exact setErrorStatus_tells (by exact h.ok) (by exact hcb) (by simp) hop after

end once

section steps

variable {grpc : Nat → Bool} {s t u : Impl} {l : Lane StdString Unit} {call : Call Note}

/-- A completion that ends the second direction, with a status callback that
sets an error. -/
def Repeats (grpc : Nat → Bool) (s : Impl) : Label → Prop
  | .op _ => False
  | .complete index success received script =>
      s.status.ok = true ∧ s.statusCb = true ∧ success = true ∧
      (∃ op ∈ script.statusCb, op.setsError = true) ∧
      ((s.call.outstanding[index]? = some .clientReaderRead ∧ received.recvBuf = none ∧
          s.writingEnded = true) ∨
        ((∃ msg, s.call.outstanding[index]? = some (.clientSendMsg msg)) ∧
          s.msgQueue.tail = [] ∧ s.writingClosing = true ∧ s.readingEnded = true ∧
          grpc s.call.starts = true))

theorem Sent.once {success : Bool} {cb : List Op} (hsent : Sent grpc cb s call success t)
    (hok : s.status.ok = true) (hreads : Reads s) (hone : Once s)
    (htold : collect told call.log = collect told s.call.log)
    (hgood : success = true → s.msgQueue.tail = [] → s.writingClosing = true →
      s.readingEnded = true → grpc call.starts = true → s.statusCb = true →
      ∀ op ∈ cb, op.setsError = false) : Once t := by
  cases hsent with
  | next front rest hqueue hgrpc => exact hone.of_same (by simp [htold]) rfl
  | idle hqueue hopen => exact hone.of_same htold rfl
  | closes hqueue hclosing hreading hgrpc => exact hone.of_same (by simp [htold]) rfl
  | ends hqueue hclosing hreading hgrpc =>
    have hstarted := hreads.started hok (.inr hreading)
    have hover : Over { s with
        msgQueue := s.msgQueue.tail, hasSentClose := true, writingEnded := true
        call := (call.startBatch grpc .clientSendClose).2 } :=
      ⟨hok, hreads.inited hok hstarted, hstarted, hclosing⟩
    have hsame : Once { s with
        msgQueue := s.msgQueue.tail, hasSentClose := true, writingEnded := true
        call := (call.startBatch grpc .clientSendClose).2 } :=
      hone.of_same (by simp [htold]) rfl
    exact callStatusCb_once hover hsame (hgood rfl hqueue hclosing hreading hgrpc)
  | failed t herrored => exact herrored.tells_once (hone.of_same htold rfl)
  | nextRefused front rest t hqueue hgrpc herrored =>
    exact herrored.tells_once (hone.of_same (by simp [htold]) rfl)
  | closeRefused t hqueue hclosing hgrpc herrored =>
    exact herrored.tells_once (hone.of_same (by simp [htold]) rfl)

private theorem goesOn_once (grpc : Nat → Bool) (script : Script) (hcore : Core u) (hone : Once u) :
    Once (goesOn grpc script u) := by
  rcases Bool.eq_false_or_eq_true u.status.ok with hok | hfailed
  · rcases goesOn_cases grpc script hok with herrored | ⟨-, heq⟩ | ⟨-, herrored⟩
    · exact herrored.tells_once (hone.of_same (by simp) rfl)
    · rw [heq]
      exact hone.of_same (by simp) rfl
    · exact herrored.tells_once (hone.of_same (by simp) rfl)
  · have hundead : Undead grpc u (goesOn grpc script u) :=
      goesOn_dead script hfailed (hcore.silenced hfailed)
    exact hone.of_same hundead.tells.1 hundead.tells.2

theorem Heard.once {script : Script} {success : Bool} {received : Received}
    (hheard : Heard grpc script s call success received t) (hcore : Core s)
    (hok : s.status.ok = true) (hstarted : s.readingStarted = true) (hreads : Reads s)
    (hone : Once s) (htold : collect told call.log = collect told s.call.log)
    (hgood : success = true → received.recvBuf = none → s.writingEnded = true →
      s.statusCb = true → ∀ op ∈ script.statusCb, op.setsError = false) : Once t := by
  cases hheard with
  | closes _ hnone hwriting => exact hone.of_same htold rfl
  | ends _ hnone hwriting =>
    have hover : Over { s with call := call, readingEnded := true } :=
      ⟨hok, hreads.inited hok hstarted, hstarted, hcore.ended hok hwriting⟩
    have hsame : Once { s with call := call, readingEnded := true } := hone.of_same htold rfl
    exact callStatusCb_once hover hsame (hgood rfl hnone hwriting)
  | reads _ bytes hbuf hcb hgrpc => exact hone.of_same (by simp [htold]) rfl
  | hears _ bytes hbuf hcb =>
    have hcore' : Core { s with call := call.note (.msgCb bytes) } := { hcore with }
    have hnote : Once { s with call := call.note (.msgCb bytes) } :=
      hone.of_same (by simp [htold]) rfl
    have hacts : Acts grpc { s with call := call.note (.msgCb bytes) }
        (runOps grpc script.msgCb { s with call := call.note (.msgCb bytes) }) :=
      runOps_acts hcore' hok script.msgCb
    exact goesOn_once grpc script (hacts.core hcore' hok) (runOps_once hcore' hnote script.msgCb)
  | failed _ t herrored => exact herrored.tells_once (hone.of_same htold rfl)
  | garbled _ t hbuf herrored => exact herrored.tells_once (hone.of_same htold rfl)
  | readRefused _ bytes t hbuf hcb hgrpc herrored =>
    exact herrored.tells_once (hone.of_same (by simp [htold]) rfl)

private theorem step_once {label : Label} (h : Refines s l) (hreads : Reads s) (hone : Once s)
    (hgood : ¬ Repeats grpc s label) (hstep : step grpc s label = some t) : Once t := by
  have hno (ops : List Op) (hnone : ¬ ∃ op ∈ ops, op.setsError = true) :
      ∀ op ∈ ops, op.setsError = false := by
    intro op hop
    by_contra hsets
    exact hnone ⟨op, hop, by simpa using hsets⟩
  cases step_cases h hstep with
  | op op => simpa [runOps] using runOps_once h.core hone [op]
  | sent _ _ _ script m call t hcall hok hsent =>
    obtain ⟨hfound, hstarts⟩ := Call.complete_found hcall
    refine hsent.once hok hreads hone (complete_told hcall) ?_
    intro hsuccess hqueue hclosing hreading hgrpc hcb
    refine hno _ fun hsets => hgood ⟨hok, hcb, hsuccess, hsets, .inr ?_⟩
    exact ⟨⟨m, hfound⟩, hqueue, hclosing, hreading, by rwa [← hstarts]⟩
  | sentDead _ _ _ _ m call hcall hfailed => exact hone.of_same (complete_told hcall) rfl
  | heard _ _ _ script call t hcall hok hstarted hheard =>
    obtain ⟨hfound, -⟩ := Call.complete_found hcall
    refine hheard.once h.core hok hstarted hreads hone (complete_told hcall) ?_
    intro hsuccess hnone hwriting hcb
    exact hno _ fun hsets => hgood ⟨hok, hcb, hsuccess, hsets, .inl ⟨hfound, hnone, hwriting⟩⟩
  | silent _ _ _ _ tag call hcall hmsg => exact hone.of_same (complete_told hcall) rfl

private theorem repeats_breaks {label : Label} (h : Refines s l) (hreads : Reads s)
    (hbad : Repeats grpc s label) (hstep : step grpc s label = some t) :
    ¬ (collect told t.call.log).length ≤ 1 := by
  cases step_cases h hstep with
  | op op => exact hbad.elim
  | sent _ _ _ script m call t hcall hok hsent =>
    obtain ⟨-, hcb, rfl, hsets, hends⟩ := hbad
    obtain ⟨hfound, hstarts⟩ := Call.complete_found hcall
    rcases hends with ⟨hread, -⟩ | ⟨-, hqueue, hclosing, hreading, hgrpc⟩
    · simp [hfound] at hread
    · have hstarted := hreads.started hok (.inr hreading)
      cases hsent with
      | ends _ _ _ _ =>
        have hover : Over { s with
            msgQueue := s.msgQueue.tail, hasSentClose := true, writingEnded := true
            call := (call.startBatch grpc .clientSendClose).2 } :=
          ⟨hok, hreads.inited hok hstarted, hstarted, hclosing⟩
        exact callStatusCb_twice hover hcb hsets
      | next front rest htail _ => simp [hqueue] at htail
      | nextRefused front rest t htail _ _ => simp [hqueue] at htail
      | idle _ hopen => simp [hclosing] at hopen
      | closes _ _ hunended _ => simp [hreading] at hunended
      | closeRefused t _ _ hrefused _ => simp [hstarts, hgrpc] at hrefused
  | sentDead _ _ _ _ m call hcall hfailed =>
    obtain ⟨hok, -⟩ := hbad
    simp [hok] at hfailed
  | heard _ _ received script call t hcall hok hstarted hheard =>
    obtain ⟨-, hcb, rfl, hsets, hends⟩ := hbad
    obtain ⟨hfound, -⟩ := Call.complete_found hcall
    rcases hends with ⟨-, hnone, hwriting⟩ | ⟨⟨msg, hmsg⟩, -⟩
    · cases hheard with
      | ends _ _ _ =>
        have hover : Over { s with call := call, readingEnded := true } :=
          ⟨hok, hreads.inited hok hstarted, hstarted, h.core.ended hok hwriting⟩
        exact callStatusCb_twice hover hcb hsets
      | closes _ _ hopen => simp [hwriting] at hopen
      | garbled _ t hbuf _ => simp [hnone] at hbuf
      | reads _ bytes hbuf _ _ => simp [hnone] at hbuf
      | readRefused _ bytes t hbuf _ _ _ => simp [hnone] at hbuf
      | hears _ bytes hbuf _ => simp [hnone] at hbuf
    · simp [hfound] at hmsg
  | silent _ _ _ _ tag call hcall hmsg hdead =>
    obtain ⟨hok, -, -, -, hends⟩ := hbad
    obtain ⟨hfound, -⟩ := Call.complete_found hcall
    rcases hends with ⟨hread, -⟩ | ⟨⟨msg, hsent⟩, -⟩
    · have htag : tag = .clientReaderRead := by simpa [hfound] using hread
      simp [hdead htag] at hok
    · have htag : tag = .clientSendMsg msg := by simpa [hfound] using hsent
      simp [htag] at hmsg

end steps

/-- The status callback is called at most once, just when it never sets an error
at the normal end. -/
theorem tells_once_iff {grpc : Nat → Bool} {statusCb : Bool} {ls : List Label} {s : Impl}
    (hrun : (machine grpc).run (clientAsyncReaderWriterImpl statusCb) ls = some s) :
    (machine grpc).Throughout (fun s => (collect told s.call.log).length ≤ 1)
        (clientAsyncReaderWriterImpl statusCb) ls ↔
      (machine grpc).Along (fun s label => ¬ Repeats grpc s label)
        (clientAsyncReaderWriterImpl statusCb) ls := by
  refine Machine.throughout_iff_along
    (I := fun s => (∃ l, Refines s l) ∧ Reads s ∧ Once s) ?_ ?_ ?_ ?_ hrun
  · exact fun s h => h.2.2.once
  · rintro s label t ⟨⟨l, h⟩, hreads, hone⟩ hgood hstep
    exact ⟨step_refines h hstep, step_reads h hreads hstep, step_once h hreads hone hgood hstep⟩
  · rintro s label t ⟨⟨l, h⟩, hreads, -⟩ hbad hstep
    exact repeats_breaks h hreads (not_not.mp hbad) hstep
  · refine ⟨⟨_, refines_fresh statusCb⟩, reads_fresh statusCb, fun _ => rfl, ?_⟩
    simp [clientAsyncReaderWriterImpl]

/-- A callback that sets an error when a read fails. -/
def failedReadLabels : List Label :=
  [.op (.readEach false []), .complete 2 false {}
    { statusCb := [.setErrorStatus (.internalError []) []] }]

theorem tells_once_failed_read :
    (machine fun _ => true).Throughout (fun s => (collect told s.call.log).length ≤ 1)
      (clientAsyncReaderWriterImpl true) failedReadLabels := by
  have hrun : (machine fun _ => true).run (clientAsyncReaderWriterImpl true) failedReadLabels =
      some _ := rfl
  refine (tells_once_iff hrun).mpr ((Machine.along_cons rfl).mpr ⟨id, (Machine.along_cons rfl).mpr
    ⟨?_, Machine.along_nil _ _⟩⟩)
  rintro ⟨-, -, hsuccess, -⟩
  simp at hsuccess

/-- A callback that sets an error at the normal end is told of it. -/
theorem callback_called_twice :
    ∃ s, (machine fun _ => true).run (clientAsyncReaderWriterImpl true)
        [.op (.readEach false []), .op (.closeWriting []), .complete 2 true {}
          { statusCb := [.setErrorStatus (.internalError []) []] }] = some s ∧
      collect told s.call.log = [.OK, .internalError []] ∧
      ¬ (collect told s.call.log).length ≤ 1 :=
  ⟨_, rfl, rfl, by decide⟩

end GrpcCbCore.Client.ReaderWriterImpl
