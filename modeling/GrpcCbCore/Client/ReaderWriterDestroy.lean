import GrpcCbCore.Client.ReaderWriterDelivery
import GrpcCbCore.Client.ReaderWriterEnds

/-! The end of a `ClientAsyncReaderWriterImpl`. Its destructor asserts that both
directions have ended. The writing ends by the CloseWriting of the wrapper's
destructor; nothing ends a reading that was never started. -/
namespace GrpcCbCore.Client.ReaderWriterImpl
open GrpcCbCore.Library Relation

/-- The tags whose callbacks share the object. -/
def sharesImpl : CqTag → Bool
  | .clientSendMsg _ | .clientReaderRead => true
  | _ => false

/-- An error ends both directions, and the half-close ends the writing. -/
structure Rests (s : Impl) : Prop where
  dead : s.status.ok = false → s.readingEnded = true ∧ s.writingEnded = true
  closed : s.hasSentClose = true → s.writingEnded = true

/-- The reading of a live object goes on until it ends. -/
def Listens (s : Impl) : Prop :=
  s.status.ok = true → s.readingStarted = true →
    .clientReaderRead ∈ s.call.outstanding ∨ s.readingEnded = true

section acts

variable {grpc : Nat → Bool} {s t u v : Impl} {call : Call Note}

theorem Alive.rests (halive : Alive grpc s t) (hok : s.status.ok = true) (h : Rests s) :
    Rests t := by
  refine ⟨fun hfailed => ?_, ?_⟩
  · simp [halive.ok hok] at hfailed
  · cases halive with
    | halfCloses => exact fun _ => rfl
    | _ => exact h.closed

theorem Errored.rests (he : Errored u v) : Rests v :=
  ⟨fun _ => ⟨he.readingEnded, he.writingEnded⟩, fun _ => he.writingEnded⟩

theorem Frozen.rests (hf : Frozen s t) (hfailed : s.status.ok = false) (h : Rests s) :
    Rests t := by
  obtain ⟨hreading, hwriting⟩ := h.dead hfailed
  exact ⟨fun _ => ⟨hf.readingEnded.trans hreading, hf.writingEnded.trans hwriting⟩,
    fun _ => hf.writingEnded.trans hwriting⟩

theorem Undead.rests (hu : Undead grpc u t) (hfailed : u.status.ok = false) (h : Rests u) :
    Rests t := by
  obtain ⟨hreading, hwriting⟩ := h.dead hfailed
  exact ⟨fun _ => ⟨hu.readingEnded hreading, hu.writingEnded hwriting⟩,
    fun _ => hu.writingEnded hwriting⟩

private theorem runOps_rests (hcore : Core s) (h : Rests s) (ops : List Op) :
    Rests (runOps grpc ops s) := by
  rcases Bool.eq_false_or_eq_true s.status.ok with hok | hfailed
  · exact (runOps_acts hcore hok ops).keeps (fun _ _ hok _ halive hs => halive.rests hok hs)
      (fun _ _ _ _ _ _ herrored _ => herrored.rests)
      (fun _ _ hfailed hfrozen hs => hfrozen.rests hfailed hs) hcore hok h
  · exact (runOps_frozen hfailed ops).rests hfailed h

private theorem callStatusCb_rests (hcore : Core s) (h : Rests s) (cb : List Op) :
    Rests (callStatusCb (runOps grpc cb) s) := by
  unfold callStatusCb
  split
  · have hcore' : Core (s.note (.statusCb s.status)) := { hcore with }
    have hnote : Rests (s.note (.statusCb s.status)) := { h with }
    have hafter : Rests (runOps grpc cb (s.note (.statusCb s.status))) :=
      runOps_rests hcore' hnote cb
    exact { hafter with }
  · exact h

theorem Alive.listens (halive : Alive grpc s t) (hok : s.status.ok = true) (h : Listens s) :
    Listens t := by
  intro _ hstarted
  cases halive with
  | init hnew hsend hrecv =>
    refine (h hok hstarted).imp_left fun hmem => ?_
    simp [hsend, hrecv, hmem]
  | sent msg hopen hqueue hgrpc =>
    refine (h hok hstarted).imp_left fun hmem => ?_
    simp [hgrpc, hmem]
  | halfCloses hopen hqueue hgrpc =>
    refine (h hok hstarted).imp_left fun hmem => ?_
    simp [hgrpc, hmem]
  | reads hasMsgCb hinit hnew hgrpc => exact .inl (by simp [hgrpc])
  | _ => exact h hok hstarted

theorem Listens.of_failed (hfailed : s.status.ok = false) : Listens s :=
  fun hok => absurd hok (by simp [hfailed])

private theorem runOps_listens (hcore : Core s) (h : Listens s) (ops : List Op) :
    Listens (runOps grpc ops s) := by
  rcases Bool.eq_false_or_eq_true s.status.ok with hok | hfailed
  · exact (runOps_acts hcore hok ops).keeps (fun _ _ hok _ halive hs => halive.listens hok hs)
      (fun _ _ _ _ _ _ herrored _ => .of_failed herrored.failed)
      (fun _ _ _ hfrozen _ => .of_failed hfrozen.failed) hcore hok h
  · exact .of_failed (runOps_frozen hfailed ops).failed

private theorem callStatusCb_listens (hcore : Core s) (h : Listens s) (cb : List Op) :
    Listens (callStatusCb (runOps grpc cb) s) := by
  unfold callStatusCb
  split
  · have hcore' : Core (s.note (.statusCb s.status)) := { hcore with }
    have hnote : Listens (s.note (.statusCb s.status)) := h
    exact runOps_listens hcore' hnote cb
  · exact h

end acts

section completions

variable {grpc : Nat → Bool} {s t u : Impl} {call : Call Note}

theorem Sent.rests {success : Bool} {cb : List Op} (hsent : Sent grpc cb s call success t)
    (hcore : Core s) (hok : s.status.ok = true) (h : Rests s) : Rests t := by
  cases hsent with
  | next | idle => exact { h with }
  | closes => exact ⟨by simp [hok], fun _ => rfl⟩
  | ends hqueue hclosing hreading hgrpc =>
    exact callStatusCb_rests (hcore.half_closes hclosing _ _) ⟨by simp [hok], fun _ => rfl⟩ cb
  | failed t herrored => exact herrored.rests
  | nextRefused front rest t hqueue hgrpc herrored => exact herrored.rests
  | closeRefused t hqueue hclosing hgrpc herrored => exact herrored.rests

private theorem complete_listens {index : Nat} {success : Bool} {received : Received} {tag : CqTag}
    (h : Listens s) (hcall : s.call.complete index success received = some (tag, call))
    (htag : tag ≠ .clientReaderRead) : Listens { s with call := call } := by
  obtain ⟨before, after, hsplit, rfl⟩ := Call.complete_eq_some hcall
  intro hok hstarted
  refine (h hok hstarted).imp_left fun hmem => ?_
  simpa [hsplit, htag.symm] using hmem

theorem Sent.listens {success : Bool} {cb : List Op} (hsent : Sent grpc cb s call success t)
    (hcore : Core s) (h : Listens { s with call := call }) : Listens t := by
  have hstart (tag : CqTag) {queue : List StdString} {closed ended : Bool} : Listens { s with
      msgQueue := queue, hasSentClose := closed, writingEnded := ended
      call := (call.startBatch grpc tag).2 } := by
    intro hok hstarted
    refine (h hok hstarted).imp_left fun hmem => ?_
    rw [Call.startBatch_outstanding]
    split
    · exact List.mem_append_left _ hmem
    · exact hmem
  cases hsent with
  | next front rest hqueue hgrpc => exact hstart (.clientSendMsg front)
  | idle hqueue hopen => exact h
  | closes hqueue hclosing hreading hgrpc => exact hstart .clientSendClose
  | ends hqueue hclosing hreading hgrpc =>
    exact callStatusCb_listens (hcore.half_closes hclosing _ _) (hstart .clientSendClose) cb
  | failed t herrored => exact .of_failed herrored.failed
  | nextRefused front rest t hqueue hgrpc herrored => exact .of_failed herrored.failed
  | closeRefused t hqueue hclosing hgrpc herrored => exact .of_failed herrored.failed

private theorem goesOn_rests (script : Script) (hcore : Core u) (h : Rests u) :
    Rests (goesOn grpc script u) ∧ Listens (goesOn grpc script u) := by
  rcases Bool.eq_false_or_eq_true u.status.ok with hok | hfailed
  · rcases goesOn_cases grpc script hok with herrored | ⟨hgrpc, heq⟩ | ⟨-, herrored⟩
    · exact ⟨herrored.rests, .of_failed herrored.failed⟩
    · rw [heq]
      exact ⟨{ h with }, fun _ _ => .inl (by simp [hgrpc])⟩
    · exact ⟨herrored.rests, .of_failed herrored.failed⟩
  · have hundead : Undead grpc u (goesOn grpc script u) :=
      goesOn_dead script hfailed (hcore.silenced hfailed)
    exact ⟨hundead.rests hfailed h, .of_failed hundead.failed⟩

theorem Heard.rests {script : Script} {success : Bool} {received : Received}
    (hheard : Heard grpc script s call success received t) (hcore : Core s)
    (hok : s.status.ok = true) (h : Rests s) : Rests t ∧ Listens t := by
  cases hheard with
  | closes _ hnone hwriting => exact ⟨⟨by simp [hok], h.closed⟩, fun _ _ => .inr rfl⟩
  | ends _ hnone hwriting =>
    have hcore' : Core { s with call := call, readingEnded := true } := { hcore with }
    have hrests : Rests { s with call := call, readingEnded := true } :=
      ⟨by simp [hok], h.closed⟩
    exact ⟨callStatusCb_rests hcore' hrests script.statusCb,
      callStatusCb_listens hcore' (fun _ _ => .inr rfl) script.statusCb⟩
  | reads _ bytes hbuf hcb hgrpc => exact ⟨{ h with }, fun _ _ => .inl (by simp [hgrpc])⟩
  | hears _ bytes hbuf hcb =>
    have hcore' : Core { s with call := call.note (.msgCb bytes) } := { hcore with }
    have hrests : Rests { s with call := call.note (.msgCb bytes) } := { h with }
    exact goesOn_rests script ((runOps_acts hcore' hok script.msgCb).core hcore' hok)
      (runOps_rests hcore' hrests script.msgCb)
  | failed _ t herrored => exact ⟨herrored.rests, .of_failed herrored.failed⟩
  | garbled _ t hbuf herrored => exact ⟨herrored.rests, .of_failed herrored.failed⟩
  | readRefused _ bytes t hbuf hcb hgrpc herrored =>
    exact ⟨herrored.rests, .of_failed herrored.failed⟩

theorem step_rests {l : Lane StdString Unit} {label : Label} (h : Refines s l)
    (hrests : Rests s ∧ Listens s) (hstep : step grpc s label = some t) :
    Rests t ∧ Listens t := by
  obtain ⟨hr, hlistens⟩ := hrests
  cases step_cases h hstep with
  | op op =>
    have hops : Rests (runOps grpc [op] s) ∧ Listens (runOps grpc [op] s) :=
      ⟨runOps_rests h.core hr [op], runOps_listens h.core hlistens [op]⟩
    simpa [runOps] using hops
  | sent _ _ _ _ m call t hcall hok hsent =>
    exact ⟨hsent.rests h.core hok hr,
      hsent.listens h.core (complete_listens hlistens hcall (by simp))⟩
  | sentDead _ _ _ _ m call hcall hfailed => exact ⟨{ hr with }, .of_failed hfailed⟩
  | heard _ _ _ _ call t hcall hok hstarted hheard => exact hheard.rests h.core hok hr
  | silent _ _ _ _ tag call hcall hmsg hdead =>
    refine ⟨{ hr with }, ?_⟩
    by_cases htag : tag = .clientReaderRead
    · exact .of_failed (hdead htag)
    · exact complete_listens hlistens hcall htag

end completions

section destroy

variable {grpc : Nat → Bool} {s : Impl} {l : Lane StdString Unit}

theorem Refines.writing_ended (h : Refines s l) (hr : Rests s)
    (hclosing : collect ReaderWriterImpl.closeCall s.call.log ≠ [])
    (hidle : s.call.outstanding.filterMap CqTag.message? = []) : s.writingEnded = true := by
  cases hok : s.status.ok with
  | false => exact (hr.dead hok).2
  | true =>
    have hattempt := h.half_closed hok hclosing hidle
    rw [h.closeAttempt] at hattempt
    have hsent : l.closeSent = true := by
      by_contra hunsent
      simp [hunsent] at hattempt
    exact hr.closed (h.sentClose.trans hsent)

private theorem message?_of_unshared {tag : CqTag} {started : Bool}
    (hown : ownTag started tag = true) (htag : sharesImpl tag = false) : tag.message? = none := by
  cases tag <;> simp [ownTag, sharesImpl] at hown htag ⊢

end destroy

/-- Once CloseWriting was called and no tag shares the object any more, the destructor's
asserts hold just when the reading was started, or an error has come up. -/
theorem destroyable_iff {grpc : Nat → Bool} {statusCb : Bool} {ls : List Label} {s : Impl}
    (hrun : (machine grpc).run (clientAsyncReaderWriterImpl statusCb) ls = some s)
    (hclosed : collect closeCall s.call.log ≠ [])
    (hdone : ∀ tag ∈ s.call.outstanding, sharesImpl tag = false) :
    (s.readingEnded = true ∧ s.writingEnded = true) ↔
      (s.readingStarted = true ∨ s.status.ok = false) := by
  obtain ⟨⟨l, h⟩, hreads, hr, hlistens⟩ := (machine grpc).invariant
    (I := fun s => (∃ l, Refines s l) ∧ Reads s ∧ Rests s ∧ Listens s)
    (fun _ _ _ ⟨⟨_, h⟩, hreads, hrests⟩ hstep =>
      ⟨step_refines h hstep, step_reads h hreads hstep, step_rests h hrests hstep⟩)
    ⟨⟨_, refines_fresh statusCb⟩, reads_fresh statusCb,
      ⟨by simp [clientAsyncReaderWriterImpl], by simp [clientAsyncReaderWriterImpl]⟩,
      fun _ hstarted => by simp [clientAsyncReaderWriterImpl] at hstarted⟩ hrun
  have hidle : s.call.outstanding.filterMap CqTag.message? = [] :=
    List.filterMap_eq_nil_iff.mpr fun tag htag =>
      message?_of_unshared (h.own tag htag) (hdone tag htag)
  have hwriting := h.writing_ended hr hclosed hidle
  cases hok : s.status.ok with
  | false => simp [hr.dead hok]
  | true =>
    simp only [hwriting, and_true, Bool.true_eq_false, or_false]
    constructor
    · exact fun hended => hreads.started hok (.inr hended)
    · intro hstarted
      refine (hlistens hok hstarted).resolve_left fun hmem => ?_
      simpa [sharesImpl] using hdone _ hmem

/-- A stream that was read to its end and written to. -/
def usedLabels : List Label :=
  [.op (.readEach true []), .op (.write [1] []), .op (.closeWriting []), .complete 3 true {} {},
    .complete 2 true {} {}]

theorem destroyable_used :
    ∃ s, (machine fun _ => true).run (clientAsyncReaderWriterImpl true) usedLabels = some s ∧
      s.readingEnded = true ∧ s.writingEnded = true := by
  have hrun : (machine fun _ => true).run (clientAsyncReaderWriterImpl true) usedLabels =
      some _ := rfl
  exact ⟨_, hrun, (destroyable_iff hrun (by decide) (by decide)).mpr (.inl rfl)⟩

/-- An object that is made and dropped, CloseWriting being the wrapper's. -/
theorem unread_not_destroyable :
    ∃ s, (machine fun _ => true).run (clientAsyncReaderWriterImpl true)
        [.op (.closeWriting [])] = some s ∧
      collect closeCall s.call.log ≠ [] ∧ (∀ tag ∈ s.call.outstanding, sharesImpl tag = false) ∧
      ¬ (s.readingEnded = true ∧ s.writingEnded = true) := by
  have hrun : (machine fun _ => true).run (clientAsyncReaderWriterImpl true)
      [.op (.closeWriting [])] = some _ := rfl
  exact ⟨_, hrun, by decide, by decide, by decide⟩

end GrpcCbCore.Client.ReaderWriterImpl
