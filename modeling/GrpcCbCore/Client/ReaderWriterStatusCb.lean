import GrpcCbCore.Client.ReaderWriterEnds

/-! The status callback of `ClientAsyncReaderWriterImpl`: it is called once both
directions have ended, but not if `CloseWriting` itself ends the writing after
the reading; and it is called once, but not if at the normal end it sets an
error itself. -/
namespace GrpcCbCore.Client.ReaderWriterImpl
open GrpcCbCore.Library Relation

/-- The callback is set until it is called; it is called at an error, and in a
live object only when both directions have ended. -/
structure Due (s : Impl) : Prop where
  due : s.statusCb = true ∨ collect told s.call.log ≠ []
  failed : s.status.ok = false → collect told s.call.log ≠ []
  early : s.status.ok = true → collect told s.call.log ≠ [] →
    s.readingEnded = true ∧ s.writingEnded = true

/-- When both directions have ended the callback was called. -/
def CallsBack (s : Impl) : Prop :=
  s.readingEnded = true → s.writingEnded = true → collect told s.call.log ≠ []

section due

variable {grpc : Nat → Bool} {s t u v : Impl}

theorem Alive.due (halive : Alive grpc s t) (h : Due s) : Due t := by
  obtain ⟨htold, hcb⟩ := halive.tells
  refine ⟨by rw [htold, hcb]; exact h.due, ?_, ?_⟩
  · rw [htold]
    cases halive <;> exact h.failed
  · rw [htold]
    cases halive with
    | halfCloses => exact fun hok hcalled => ⟨(h.early hok hcalled).1, rfl⟩
    | _ => exact h.early

theorem Errored.due (he : Errored u v)
    (hdue : u.statusCb = true ∨ collect told u.call.log ≠ []) : Due v := by
  have hcalled : collect told v.call.log ≠ [] := by
    rcases he.tells with ⟨-, error, htold⟩ | ⟨hcb, htold⟩
    · simp [htold]
    · rw [htold]
      simpa [hcb] using hdue
  exact ⟨.inr hcalled, fun _ => hcalled, by simp [he.failed]⟩

theorem Frozen.due (hf : Frozen s t) (hfailed : s.status.ok = false) (h : Due s) : Due t := by
  have hcalled : collect told t.call.log ≠ [] := by
    rw [hf.tells.1]
    exact h.failed hfailed
  exact ⟨.inr hcalled, fun _ => hcalled, by simp [hf.failed]⟩

theorem Undead.due (hu : Undead grpc u t) (hfailed : u.status.ok = false) (h : Due u) : Due t := by
  have hcalled : collect told t.call.log ≠ [] := by
    rw [hu.tells.1]
    exact h.failed hfailed
  exact ⟨.inr hcalled, fun _ => hcalled, by simp [hu.failed]⟩

private theorem runOps_due (hcore : Core s) (h : Due s) (ops : List Op) : Due
    (runOps grpc ops s) := by
  rcases Bool.eq_false_or_eq_true s.status.ok with hok | hfailed
  · refine (runOps_acts hcore hok ops).keeps (fun _ _ _ _ halive hs => halive.due hs) ?_
      (fun _ _ hfailed hfrozen hs => hfrozen.due hfailed hs) hcore hok h
    intro s u v _ _ hfatal herrored hs
    obtain ⟨htold, hcb⟩ := hfatal.tells
    exact herrored.due (by rw [htold, hcb]; exact hs.due)
  · exact (runOps_frozen hfailed ops).due hfailed h

private theorem runOps_told (hcore : Core s) (hcalled : collect told s.call.log ≠ [])
    (ops : List Op) : collect told (runOps grpc ops s).call.log ≠ [] := by
  rcases Bool.eq_false_or_eq_true s.status.ok with hok | hfailed
  · have hacts : Acts grpc s (runOps grpc ops s) := runOps_acts hcore hok ops
    refine hacts.keeps (J := fun s => collect told s.call.log ≠ []) ?_ ?_ ?_ hcore hok hcalled
    · intro s t _ _ halive hs
      rwa [halive.tells.1]
    · intro s u v _ _ hfatal herrored hs
      exact (herrored.due (.inr (by rwa [hfatal.tells.1]))).failed herrored.failed
    · intro s t _ hfrozen hs
      rwa [hfrozen.tells.1]
  · rwa [(runOps_frozen hfailed ops).tells.1]

private theorem callStatusCb_due (hcore : Core s) (hok : s.status.ok = true) (h : Due s)
    (hreading : s.readingEnded = true) (hwriting : s.writingEnded = true) (cb : List Op) :
    Due (callStatusCb (runOps grpc cb) s) ∧ CallsBack (callStatusCb (runOps grpc cb) s) := by
  unfold callStatusCb
  split
  · have hcore' : Core (s.note (.statusCb s.status)) := { hcore with }
    have hcalled : collect told (s.note (.statusCb s.status)).call.log ≠ [] := by simp
    have hnote : Due (s.note (.statusCb s.status)) :=
      ⟨.inr hcalled, by simp [hok], fun _ _ => ⟨hreading, hwriting⟩⟩
    have hafter : Due (runOps grpc cb (s.note (.statusCb s.status))) :=
      runOps_due hcore' hnote cb
    have hstill : collect told (runOps grpc cb (s.note (.statusCb s.status))).call.log ≠ [] :=
      runOps_told hcore' hcalled cb
    exact ⟨{ hafter with due := .inr hstill }, fun _ _ => hstill⟩
  · next hcb =>
    have hcalled : collect told s.call.log ≠ [] := by simpa [hcb] using h.due
    exact ⟨h, fun _ _ => hcalled⟩

theorem complete_told {index : Nat} {success : Bool} {received : Received} {tag : CqTag}
    {call : Call Note} (hcall : s.call.complete index success received = some (tag, call)) :
    collect told call.log = collect told s.call.log := by
  simp [Call.complete_log hcall]

theorem Due.of_same (h : Due s) (htold : collect told t.call.log = collect told s.call.log)
    (hcb : t.statusCb = s.statusCb) (hok : t.status = s.status)
    (hreading : s.readingEnded = true → t.readingEnded = true)
    (hwriting : s.writingEnded = true → t.writingEnded = true) : Due t := by
  refine ⟨by rw [htold, hcb]; exact h.due, by rw [htold, hok]; exact h.failed, ?_⟩
  rw [htold, hok]
  exact fun hlive hcalled => (h.early hlive hcalled).imp hreading hwriting

theorem CallsBack.of_failed (h : Due s) (hfailed : s.status.ok = false) : CallsBack s :=
  fun _ _ => h.failed hfailed

end due

section calls

variable {grpc : Nat → Bool} {s t u : Impl} {l : Lane StdString Unit} {call : Call Note}

theorem Sent.calls {success : Bool} {cb : List Op} (hsent : Sent grpc cb s call success t)
    (hcore : Core s) (hok : s.status.ok = true) (hd : Due s) (hback : CallsBack s)
    (htold : collect told call.log = collect told s.call.log) : Due t ∧ CallsBack t := by
  have hdue : s.statusCb = true ∨ collect told call.log ≠ [] := by
    rw [htold]
    exact hd.due
  have hclose : Due { s with
      msgQueue := s.msgQueue.tail, hasSentClose := true, writingEnded := true
      call := (call.startBatch grpc .clientSendClose).2 } :=
    hd.of_same (by simp [htold]) rfl rfl id fun _ => rfl
  cases hsent with
  | next front rest hqueue hgrpc =>
    refine ⟨hd.of_same (by simp [htold]) rfl rfl id id, ?_⟩
    simpa [CallsBack, htold] using hback
  | idle hqueue hopen =>
    refine ⟨hd.of_same htold rfl rfl id id, ?_⟩
    simpa [CallsBack, htold] using hback
  | closes hqueue hclosing hreading hgrpc =>
    exact ⟨hclose, fun hended => by simp [hreading] at hended⟩
  | ends hqueue hclosing hreading hgrpc =>
    have hcore' : Core { s with
        msgQueue := s.msgQueue.tail, hasSentClose := true, writingEnded := true
        call := (call.startBatch grpc .clientSendClose).2 } :=
      hcore.half_closes hclosing _ _
    exact callStatusCb_due hcore' hok hclose hreading rfl cb
  | failed t herrored =>
    have hafter := herrored.due hdue
    exact ⟨hafter, .of_failed hafter herrored.failed⟩
  | nextRefused front rest t hqueue hgrpc herrored =>
    have hafter := herrored.due (by simpa using hdue)
    exact ⟨hafter, .of_failed hafter herrored.failed⟩
  | closeRefused t hqueue hclosing hgrpc herrored =>
    have hafter := herrored.due (by simpa using hdue)
    exact ⟨hafter, .of_failed hafter herrored.failed⟩

private theorem goesOn_calls (grpc : Nat → Bool) (script : Script) (hcore : Core u) (hd : Due u)
    (hreading : u.status.ok = true → u.readingEnded = false) :
    Due (goesOn grpc script u) ∧ CallsBack (goesOn grpc script u) := by
  rcases Bool.eq_false_or_eq_true u.status.ok with hok | hfailed
  · rcases goesOn_cases grpc script hok with herrored | ⟨-, heq⟩ | ⟨-, herrored⟩
    · have hafter := herrored.due (by simpa using hd.due)
      exact ⟨hafter, .of_failed hafter herrored.failed⟩
    · rw [heq]
      refine ⟨hd.of_same (by simp) rfl rfl id id, fun hended => ?_⟩
      simp [hreading hok] at hended
    · have hafter := herrored.due (by simpa using hd.due)
      exact ⟨hafter, .of_failed hafter herrored.failed⟩
  · have hundead : Undead grpc u (goesOn grpc script u) :=
      goesOn_dead script hfailed (hcore.silenced hfailed)
    have hafter := hundead.due hfailed hd
    exact ⟨hafter, .of_failed hafter hundead.failed⟩

theorem Heard.calls {script : Script} {success : Bool} {received : Received}
    (hheard : Heard grpc script s call success received t) (hcore : Core s)
    (hok : s.status.ok = true) (hd : Due s)
    (htold : collect told call.log = collect told s.call.log)
    (hh : Hearing { s with call := call }) : Due t ∧ CallsBack t := by
  have hdue : s.statusCb = true ∨ collect told call.log ≠ [] := by
    rw [htold]
    exact hd.due
  have hended : Due { s with call := call, readingEnded := true } :=
    hd.of_same htold rfl rfl (fun _ => rfl) id
  cases hheard with
  | closes _ hnone hwriting => exact ⟨hended, fun _ hend => by simp [hwriting] at hend⟩
  | ends _ hnone hwriting =>
    have hcore' : Core { s with call := call, readingEnded := true } := { hcore with }
    exact callStatusCb_due hcore' hok hended rfl hwriting script.statusCb
  | reads _ bytes hbuf hcb hgrpc =>
    refine ⟨hd.of_same (by simp [htold]) rfl rfl id id, fun hend => ?_⟩
    have hunended : s.readingEnded = false := hh.unended hok
    simp [hunended] at hend
  | hears _ bytes hbuf hcb =>
    have hcore' : Core { s with call := call.note (.msgCb bytes) } := { hcore with }
    have hnote : Due { s with call := call.note (.msgCb bytes) } :=
      hd.of_same (by simp [htold]) rfl rfl id id
    have hacts : Acts grpc { s with call := call.note (.msgCb bytes) }
        (runOps grpc script.msgCb { s with call := call.note (.msgCb bytes) }) :=
      runOps_acts hcore' hok script.msgCb
    have hhearing : Hearing (runOps grpc script.msgCb
        { s with call := call.note (.msgCb bytes) }) :=
      runOps_hearing hcore' hok { hh with } script.msgCb
    exact goesOn_calls grpc script (hacts.core hcore' hok) (runOps_due hcore' hnote script.msgCb)
      hhearing.unended
  | failed _ t herrored =>
    have hafter := herrored.due hdue
    exact ⟨hafter, .of_failed hafter herrored.failed⟩
  | garbled _ t hbuf herrored =>
    have hafter := herrored.due hdue
    exact ⟨hafter, .of_failed hafter herrored.failed⟩
  | readRefused _ bytes t hbuf hcb hgrpc herrored =>
    have hafter := herrored.due (by simpa using hdue)
    exact ⟨hafter, .of_failed hafter herrored.failed⟩

/-- The call that ends the writing when the reading has ended before. -/
def Forgets (grpc : Nat → Bool) (s : Impl) : Label → Prop
  | .op op => EndsWriting grpc s op ∧ s.readingEnded = true
  | .complete _ _ _ _ => False

private theorem runOp_calls (hcore : Core s) (hd : Due s) (hback : CallsBack s) (op : Op)
    (hgood : ¬ Forgets grpc s (.op op)) : CallsBack (runOp grpc op s) := by
  have hafter : Due (runOp grpc op s) := by simpa [runOps] using runOps_due hcore hd [op]
  rcases Bool.eq_false_or_eq_true (runOp grpc op s).status.ok with hlive | hdied
  · rcases Bool.eq_false_or_eq_true s.status.ok with hok | hfailed
    · obtain ⟨hreading, hwriting⟩ := runOp_ends hcore hok op hlive
      intro hended hending
      rw [hreading] at hended
      rcases hwriting with hwriting | hends
      · have hcalled := hback hended (hwriting.symm.trans hending)
        simpa [runOps] using runOps_told hcore hcalled [op]
      · exact absurd ⟨hends, hended⟩ hgood
    · have hfrozen : Frozen s (runOp grpc op s) := runOp_frozen hfailed op
      simp [hfrozen.failed] at hlive
  · exact .of_failed hafter hdied

private theorem step_calls {label : Label} (h : Refines s l) (hreads : Reads s) (hd : Due s)
    (hback : CallsBack s) (hgood : ¬ Forgets grpc s label)
    (hstep : step grpc s label = some t) : Due t ∧ CallsBack t := by
  cases step_cases h hstep with
  | op op =>
    have hafter : Due (runOp grpc op s) := by simpa [runOps] using runOps_due h.core hd [op]
    exact ⟨hafter, runOp_calls h.core hd hback op hgood⟩
  | sent _ _ _ _ m call t hcall hok hsent =>
    exact hsent.calls h.core hok hd hback (complete_told hcall)
  | sentDead _ _ _ _ m call hcall hfailed =>
    have hafter := hd.of_same (t := { s with call := call, msgQueue := s.msgQueue.tail })
      (complete_told hcall) rfl rfl id id
    exact ⟨hafter, .of_failed hafter hfailed⟩
  | heard _ _ _ _ call t hcall hok hstarted hheard =>
    exact hheard.calls h.core hok hd (complete_told hcall) ((complete_reads hreads hcall).2 hok rfl)
  | silent _ _ _ _ tag call hcall hmsg =>
    refine ⟨hd.of_same (complete_told hcall) rfl rfl id id, ?_⟩
    simpa [CallsBack, complete_told hcall] using hback

/-- It leaves both directions ended, and the callback not called. -/
theorem forgets_breaks {label : Label} (h : Refines s l) (hd : Due s)
    (hbad : Forgets grpc s label) (hstep : step grpc s label = some t) : ¬ CallsBack t := by
  cases label with
  | complete => exact hbad.elim
  | op op =>
    obtain ⟨⟨⟨cb, rfl⟩, hok, hopen, hqueue, hgrpc⟩, hreading⟩ := hbad
    obtain rfl : runOp grpc (.closeWriting cb) s = t := by simpa [step] using hstep
    rcases closeWriting_cases grpc h.core hok cb with ⟨hclosing, -⟩ | ⟨-, hbusy, -⟩ |
      ⟨-, -, -, heq⟩ | ⟨-, -, hrefused, -⟩
    · simp [hopen] at hclosing
    · exact absurd hqueue hbusy
    · intro hback
      rw [heq] at hback
      have hcalled : collect told s.call.log ≠ [] := by simpa using hback hreading rfl
      have hclosing := h.core.ended hok (hd.early hok hcalled).2
      simp [hopen] at hclosing
    · simp [hgrpc] at hrefused

private theorem due_fresh : Due (clientAsyncReaderWriterImpl true) :=
  ⟨.inl rfl, by simp [clientAsyncReaderWriterImpl], by simp [clientAsyncReaderWriterImpl]⟩

end calls

/-- The final callback is never lost, just when no `CloseWriting` ends the
writing at once after the reading has ended. -/
theorem calls_back_iff {grpc : Nat → Bool} {ls : List Label} {s : Impl}
    (hrun : (machine grpc).run (clientAsyncReaderWriterImpl true) ls = some s) :
    (machine grpc).Throughout CallsBack (clientAsyncReaderWriterImpl true) ls ↔
      (machine grpc).Along (fun s label => ¬ Forgets grpc s label)
        (clientAsyncReaderWriterImpl true) ls := by
  refine Machine.throughout_iff_along
    (I := fun s => (∃ l, Refines s l) ∧ Reads s ∧ Due s ∧ CallsBack s) ?_ ?_ ?_ ?_ hrun
  · exact fun s h => h.2.2.2
  · rintro s label t ⟨⟨l, h⟩, hreads, hd, hback⟩ hgood hstep
    exact ⟨step_refines h hstep, step_reads h hreads hstep,
      step_calls h hreads hd hback hgood hstep⟩
  · rintro s label t ⟨⟨l, h⟩, -, hd, -⟩ hbad hstep
    exact forgets_breaks h hd (not_not.mp hbad) hstep
  · exact ⟨⟨_, refines_fresh true⟩, reads_fresh true, due_fresh,
      by simp [CallsBack, clientAsyncReaderWriterImpl]⟩

/-- Writing ends first, then reading. -/
def closedFirstLabels : List Label :=
  [.op (.readEach false []), .op (.closeWriting []), .complete 2 true {} {}]

theorem calls_back_closed_first :
    (machine fun _ => true).Throughout CallsBack (clientAsyncReaderWriterImpl true)
      closedFirstLabels := by
  have hrun : (machine fun _ => true).run (clientAsyncReaderWriterImpl true) closedFirstLabels =
      some _ := rfl
  refine (calls_back_iff hrun).mpr ((Machine.along_cons rfl).mpr ⟨?_, (Machine.along_cons rfl).mpr
    ⟨?_, (Machine.along_cons rfl).mpr ⟨?_, Machine.along_nil _ _⟩⟩⟩)
  · rintro ⟨⟨⟨cb, hop⟩, -⟩, -⟩
    simp at hop
  · rintro ⟨-, hreading⟩
    exact absurd hreading (by decide)
  · exact id

/-- Reading ends first, then `CloseWriting` ends the writing. -/
theorem close_writing_forgets_callback :
    ∃ s, (machine fun _ => true).run (clientAsyncReaderWriterImpl true)
        [.op (.readEach false []), .complete 2 true {} {}, .op (.closeWriting [])] = some s ∧
      s.readingEnded = true ∧ s.writingEnded = true ∧ s.statusCb = true ∧
      ¬ CallsBack s := by
  have hrun : (machine fun _ => true).run (clientAsyncReaderWriterImpl true)
      [.op (.readEach false []), .complete 2 true {} {}, .op (.closeWriting [])] = some _ := rfl
  exact ⟨_, hrun, rfl, rfl, rfl, fun hback => hback rfl rfl rfl⟩

end GrpcCbCore.Client.ReaderWriterImpl
