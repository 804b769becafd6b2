import GrpcCbCore.Client.ReaderWriterEvents
import GrpcCbCore.Client.WriteHalf

/-! `ClientAsyncReaderWriterImpl` refines the lane of its write half. An error
of either half, or one that is set, breaks the lane. -/
namespace GrpcCbCore.Client.ReaderWriterImpl
open GrpcCbCore.Library Relation

def reading : Reading Note where
  closeTag := .clientSendClose
  noteSights
    | .write msg true => [.accept msg]
    | .closeWriting => [.askClose ()]
    | .status status => if status.ok then [] else [.breaks]
    | _ => []

def Impl.half (s : Impl) : WriteHalf Note where
  call := s.call
  ok := s.status.ok
  closing := s.writingClosing
  hasSentClose := s.hasSentClose
  msgQueue := s.msgQueue

@[simp] def accepted : Event Note → Option StdString
  | .note (.write msg true) => some msg
  | _ => none

@[simp] def closeCall : Event Note → Option Unit
  | .note .closeWriting => some ()
  | _ => none

@[simp] def closeAttempt : Event Note → Option Unit
  | .start tag _ => if tag = .clientSendClose then some () else none
  | _ => none

/-- A start refused, a message not delivered, or an error set. -/
@[simp] def trouble : Event Note → Option Unit
  | .note (.status status) => if status.ok then none else some ()
  | e => (Event.failed e).map fun _ => ()

def ownTag (readingStarted : Bool) : CqTag → Bool
  | .clientSendInitMd | .clientRecvInitMd | .clientSendMsg _ | .clientSendClose => true
  | .clientReaderRead => readingStarted
  | _ => false

structure Refines (s : Impl) (l : Lane StdString Unit) : Prop
    extends Tracks reading s.half l where
  core : Core s
  dead : s.status.ok = false → l.broken = true
  own : ∀ tag ∈ s.call.outstanding, ownTag s.readingStarted tag = true
  settled : l.Settled

namespace Impl

@[simp] theorem half_call (s : Impl) : s.half.call = s.call := rfl
@[simp] theorem half_ok (s : Impl) : s.half.ok = s.status.ok := rfl
@[simp] theorem half_closing (s : Impl) : s.half.closing = s.writingClosing := rfl
@[simp] theorem half_hasSentClose (s : Impl) : s.half.hasSentClose = s.hasSentClose := rfl
@[simp] theorem half_msgQueue (s : Impl) : s.half.msgQueue = s.msgQueue := rfl

end Impl

theorem sights_columns (e : Event Note) :
    collect Sight.accepted (reading.sights e) = (accepted e).toList ∧
    collect Sight.started (reading.sights e) = (Event.sent e).toList ∧
    collect Sight.finished (reading.sights e) = (Event.finished e).toList ∧
    collect Sight.asked (reading.sights e) = (closeCall e).toList ∧
    collect Sight.closed (reading.sights e) = (closeAttempt e).toList ∧
    (collect Sight.broke (reading.sights e) = [] ↔ trouble e = none) := by
  cases e with
  | start tag ok =>
    by_cases htag : tag = reading.closeTag <;> cases ok <;> cases hm : tag.message? <;>
      simp_all [Reading.sights, reading]
  | complete tag success received =>
    cases success <;> cases hm : tag.message? <;> simp [Reading.sights, hm]
  | note n =>
    rcases n with ⟨_, _ | _⟩ | _ | _ | status | _ | _ | _ | _
    case status => cases hok : status.ok <;> simp [Reading.sights, reading, hok]
    all_goals simp [Reading.sights, reading]

section silent

variable {h : WriteHalf Note} {l : Lane StdString Unit} {grpc : Nat → Bool}

private theorem start_silent (t : Tracks reading h l) {tag : CqTag} (hmsg : tag.message? = none)
    (hclose : tag ≠ .clientSendClose) (hgrpc : grpc h.call.starts = true) :
    Tracks reading { h with call := (h.call.startBatch grpc tag).2 } l :=
  t.silent (e := .start tag true) (by simp [hgrpc])
    (by simp [Reading.sights, reading, hmsg, hclose]) (by simp [hgrpc, hmsg])
    (by simp [Reading.Lawful, reading, hmsg, hclose])

private theorem start_breaks (t : Tracks reading h l) {tag : CqTag} (hmsg : tag.message? = none)
    (hclose : tag ≠ .clientSendClose) (hgrpc : grpc h.call.starts = false) :
    Tracks reading { h with call := (h.call.startBatch grpc tag).2, ok := false } l.break_ :=
  t.breaks (e := .start tag false) (by simp [hgrpc])
    (by simp [Reading.sights, reading, hclose]) (by simp [hgrpc])
    (by simp [Reading.Lawful, reading, hmsg, hclose])

private theorem note_silent (t : Tracks reading h l) {n : Note}
    (hsight : reading.noteSights n = []) : Tracks reading { h with call := h.call.note n } l :=
  t.silent (e := .note n) rfl hsight rfl (by simp [Reading.Lawful, hsight])

private theorem note_error (t : Tracks reading h l) {status : Status}
    (hfailed : status.ok = false) :
    Tracks reading { h with call := h.call.note (.status status), ok := false } l.break_ :=
  t.breaks (e := .note (.status status)) rfl (by simp [Reading.sights, reading, hfailed]) rfl
    (by simp [Reading.Lawful, reading, hfailed])

private theorem note_broken (t : Tracks reading h l) (hbroken : l.broken = true) {n : Note}
    (hn : ∀ msg, n ≠ .write msg true) :
    ∃ l', l'.broken = true ∧
      Tracks reading { h with call := h.call.note n, ok := false } l' := by
  have hsame : reading.noteSights n = [] →
      Tracks reading { h with call := h.call.note n, ok := false } l :=
    fun hsight => (note_silent t hsight).set_failed (.inl hbroken)
  cases n with
  | write msg result =>
    cases result with
    | true => exact absurd rfl (hn msg)
    | false => exact ⟨l, hbroken, hsame rfl⟩
  | closeWriting =>
    exact ⟨l, hbroken, (t.ask_again (.inl hbroken) rfl).set_failed (.inl hbroken)⟩
  | status status =>
    rcases Bool.eq_false_or_eq_true status.ok with hok | hfailed
    · exact ⟨l, hbroken, hsame (by simp [reading, hok])⟩
    · exact ⟨l.break_, rfl, note_error t hfailed⟩
  | _ => exact ⟨l, hbroken, hsame rfl⟩

private theorem notes_broken (t : Tracks reading h l) (hbroken : l.broken = true) {ns : List Note}
    (hns : ∀ n ∈ ns, ∀ msg, n ≠ .write msg true) :
    ∃ l', l'.broken = true ∧
      Tracks reading { h with call := h.call.notes ns, ok := false } l' := by
  induction ns generalizing h l with
  | nil => exact ⟨l, hbroken, by simpa using t.set_failed (.inl hbroken)⟩
  | cons n ns ih =>
    obtain ⟨l₁, hbroken₁, t₁⟩ := note_broken t hbroken (hns n (by simp))
    obtain ⟨l₂, hbroken₂, t₂⟩ := ih t₁ hbroken₁ fun m hm => hns m (List.mem_cons_of_mem n hm)
    exact ⟨l₂, hbroken₂, by simpa using t₂⟩

/-- Nobody reads whether a broken write half is closing. -/
theorem reclose (t : Tracks reading h l) (hbroken : l.broken = true) (closing : Bool) :
    Tracks reading { h with closing := closing } l :=
  { t with closing := by simp [hbroken] }

end silent

section own

variable {grpc : Nat → Bool} {call : Call Note} {tag : CqTag} {started : Bool}

private theorem own_start (hown : ∀ t ∈ call.outstanding, ownTag started t = true)
    (htag : ownTag started tag = true) :
    ∀ t ∈ (call.startBatch grpc tag).2.outstanding, ownTag started t = true := by
  intro t ht
  rw [Call.startBatch_outstanding] at ht
  split at ht
  · rcases List.mem_append.mp ht with hold | hnew
    · exact hown t hold
    · rwa [List.mem_singleton.mp hnew]
  · exact hown t ht

private theorem own_mono {more : Bool} (hown : ∀ t ∈ call.outstanding, ownTag started t = true)
    (hmore : started = true → more = true) : ∀ t ∈ call.outstanding, ownTag more t = true := by
  intro t ht
  have htag := hown t ht
  cases t with
  | clientReaderRead => exact hmore htag
  | _ => exact htag

end own

section acts

variable {grpc : Nat → Bool} {s t u v : Impl} {l : Lane StdString Unit}

theorem Alive.refines (halive : Alive grpc s t) (hok : s.status.ok = true) (h : Refines s l) :
    ∃ l', Refines t l' := by
  have hcore := halive.core h.core hok
  have hdead : ∀ m : Lane StdString Unit, t.status.ok = false → m.broken = true :=
    fun _ hfailed => by simp [halive.ok hok] at hfailed
  cases halive with
  | ignoredWrite msg =>
    exact ⟨l, note_silent h.toTracks rfl, hcore, hdead l, h.own, h.settled⟩
  | closedAgain hclosing =>
    have hasked : l.closing.isSome = true := (h.closing (h.ok hok)).symm.trans hclosing
    exact ⟨l, h.toTracks.ask_again (.inr hasked) rfl, hcore, hdead l, h.own, h.settled⟩
  | init hnew hsend hrecv =>
    have hsent := start_silent h.toTracks CqTag.message?_clientSendInitMd (by simp) hsend
    have hboth := start_silent hsent CqTag.message?_clientRecvInitMd (by simp) hrecv
    exact ⟨l, hboth, hcore, hdead l, own_start (own_start h.own rfl) rfl, h.settled⟩
  | queued msg hopen hqueue =>
    obtain ⟨hlive, hclosing, -⟩ := h.toTracks.live hok hopen
    have hbusy := h.toTracks.flying_of_queue h.settled hok hqueue
    exact ⟨_, h.toTracks.write_queued hok hclosing rfl, hcore, hdead _, h.own,
      Lane.settled_of_busy (.inl hbusy)⟩
  | sent msg hopen hqueue hgrpc =>
    obtain ⟨hlive, hclosing, -⟩ := h.toTracks.live hok hopen
    obtain ⟨hidle, hempty⟩ := h.toTracks.idle_of_queue hok hqueue
    have hstart := h.toTracks.write_started (n := .write msg true) hok hclosing hidle hempty rfl
      (by simp [reading]) hgrpc
    exact ⟨_, hstart, hcore, hdead _, own_start h.own rfl, Lane.settled_of_busy (.inl rfl)⟩
  | closes hopen hqueue =>
    obtain ⟨hlive, hclosing, -⟩ := h.toTracks.live hok hopen
    have hbusy := h.toTracks.flying_of_queue h.settled hok hqueue
    exact ⟨_, h.toTracks.ask_close hok hclosing rfl, hcore, hdead _, h.own,
      Lane.settled_of_busy (.inl hbusy)⟩
  | halfCloses hopen hqueue hgrpc =>
    obtain ⟨hlive, hclosing, hunsent⟩ := h.toTracks.live hok hopen
    obtain ⟨hidle, hempty⟩ := h.toTracks.idle_of_queue hok hqueue
    have hask := h.toTracks.ask_close (n := .closeWriting) hok hclosing rfl
    have hclose := hask.send_close hok hidle hempty rfl hunsent rfl hgrpc
    exact ⟨_, hclose, hcore, hdead _, own_start h.own rfl, fun _ _ => ⟨hempty, fun _ => rfl⟩⟩
  | reads hasMsgCb hinit hnew hgrpc =>
    have hread := start_silent h.toTracks CqTag.message?_clientReaderRead (by simp) hgrpc
    have hown := own_mono h.own fun _ => (rfl : true = true)
    exact ⟨l, hread, hcore, hdead l, own_start hown rfl, h.settled⟩

/-- An object on the way to `EndOnErrorStatus`; a refused start has broken its
lane already. -/
theorem Fatal.tracks (hfatal : Fatal grpc s u) (hok : s.status.ok = true) (h : Refines s l) :
    (∀ t ∈ u.call.outstanding, ownTag u.readingStarted t = true) ∧
      ∃ ok l', Tracks reading { u.half with ok := ok } l' := by
  cases hfatal with
  | set status =>
    exact ⟨h.own, _, l, note_silent (n := .setErrorStatus status) h.toTracks rfl⟩
  | initSend reading hreading hnew hsend =>
    have hrefused := start_breaks h.toTracks CqTag.message?_clientSendInitMd (by simp) hsend
    exact ⟨own_start (own_mono h.own hreading) rfl, _, _, hrefused⟩
  | initRecv reading hreading hnew hsend hrecv =>
    have hsent := start_silent h.toTracks CqTag.message?_clientSendInitMd (by simp) hsend
    have hrefused := start_breaks hsent CqTag.message?_clientRecvInitMd (by simp) hrecv
    exact ⟨own_start (own_start (own_mono h.own hreading) rfl) rfl, _, _, hrefused⟩
  | message msg hopen hqueue hgrpc =>
    obtain ⟨hlive, hclosing, hunsent⟩ := h.toTracks.live hok hopen
    obtain ⟨hidle, hempty⟩ := h.toTracks.idle_of_queue hok hqueue
    have hrefused := h.toTracks.message_refused hok hidle hunsent (m := msg) (by simp [reading])
      hgrpc [msg]
    exact ⟨own_start h.own rfl, _, _, hrefused⟩
  | close hopen hqueue hgrpc =>
    obtain ⟨hlive, hclosing, hunsent⟩ := h.toTracks.live hok hopen
    obtain ⟨hidle, hempty⟩ := h.toTracks.idle_of_queue hok hqueue
    have hask := h.toTracks.ask_close (n := .closeWriting) hok hclosing rfl
    have hrefused := hask.close_refused hok hidle hempty rfl hunsent hgrpc
    exact ⟨own_start h.own rfl, _, _, hrefused⟩
  | read hasMsgCb hgrpc =>
    have hrefused := start_breaks h.toTracks CqTag.message?_clientReaderRead (by simp) hgrpc
    have hown := own_mono h.own fun _ => (rfl : true = true)
    exact ⟨own_start hown rfl, _, _, hrefused⟩

theorem Quiet.no_write {n : Note} (hn : Quiet n) (msg : StdString) : n ≠ .write msg true := by
  rintro rfl
  simp [Quiet] at hn

theorem Ghostly.no_write {n : Note} (hn : Ghostly n) (msg : StdString) : n ≠ .write msg true := by
  rintro rfl
  exact hn

theorem Errored.refines (he : Errored u v) {ok : Bool}
    (t : Tracks reading { u.half with ok := ok } l)
    (hown : ∀ tag ∈ u.call.outstanding, ownTag u.readingStarted tag = true)
    (hsent : u.hasSentClose = true → u.writingClosing = true) : ∃ l', Refines v l' := by
  obtain ⟨error, ns, herror, hns, hcall⟩ := he.notes
  have hset := note_error t herror
  have hrest : ∀ n ∈ (if u.statusCb then [.statusCb error] else []) ++ ns,
      ∀ msg, n ≠ Note.write msg true := by
    intro n hn
    rcases List.mem_append.mp hn with hcb | hn
    · have hcb : n = .statusCb error := by
        split at hcb
        · simpa using hcb
        · simp at hcb
      simp [hcb]
    · exact (hns n hn).no_write
  obtain ⟨l', hbroken, t'⟩ := notes_broken hset rfl hrest
  have hout : v.call.outstanding = u.call.outstanding := by simp [hcall]
  refine ⟨l', ?_, he.core hsent, fun _ => hbroken, ?_, Lane.settled_of_busy (.inr hbroken)⟩
  case refine_2 =>
    rw [hout]
    exact own_mono hown he.started
  have hhalf : v.half = { u.half with
      call := (u.call.note (.status error)).notes
        ((if u.statusCb then [.statusCb error] else []) ++ ns)
      ok := false, closing := v.writingClosing } := by
    simp [Impl.half, hcall, he.failed, he.hasSentClose, he.msgQueue]
  rw [hhalf]
  exact reclose t' hbroken v.writingClosing

theorem Frozen.refines (hf : Frozen s t) (hfailed : s.status.ok = false) (h : Refines s l) :
    ∃ l', Refines t l' := by
  obtain ⟨ns, hns, hcall⟩ := hf.notes
  obtain ⟨l', hbroken, t'⟩ := notes_broken h.toTracks (h.dead hfailed) fun n hn =>
    (hns n hn).no_write
  have hout : t.call.outstanding = s.call.outstanding := by simp [hcall]
  refine ⟨l', ?_, hf.core h.core hfailed, fun _ => hbroken, ?_, Lane.settled_of_busy (.inr hbroken)⟩
  · have hhalf : t.half = { s.half with
        call := s.call.notes ns, ok := false, closing := t.writingClosing } := by
      simp [Impl.half, hcall, hf.failed, hf.hasSentClose, hf.msgQueue]
    rw [hhalf]
    exact reclose t' hbroken t.writingClosing
  · rw [hout]
    exact own_mono h.own hf.started

theorem Acts.refines (ha : Acts grpc s t) (hok : s.status.ok = true) (h : Refines s l) :
    ∃ l', Refines t l' := by
  refine ha.keeps (J := fun s => ∃ l, Refines s l) ?_ ?_ ?_ h.core hok ⟨l, h⟩
  · rintro s t hok - halive ⟨l, h⟩
    exact halive.refines hok h
  · rintro s u v hok hcore hfatal herrored ⟨l, h⟩
    obtain ⟨hown, ok, l', ht⟩ := hfatal.tracks hok h
    exact herrored.refines ht hown (hfatal.sentClose hcore)
  · rintro s t hfailed hfrozen ⟨l, h⟩
    exact hfrozen.refines hfailed h

private theorem runOps_refines (grpc : Nat → Bool) (h : Refines s l) (ops : List Op) :
    ∃ l', Refines (runOps grpc ops s) l' := by
  rcases Bool.eq_false_or_eq_true s.status.ok with hok | hfailed
  · exact (runOps_acts h.core hok ops).refines hok h
  · exact (runOps_frozen hfailed ops).refines hfailed h

private theorem callStatusCb_refines (grpc : Nat → Bool) (h : Refines s l) (cb : List Op) :
    ∃ l', Refines (callStatusCb (runOps grpc cb) s) l' := by
  unfold callStatusCb
  split
  · have hnote : Refines (s.note (.statusCb s.status)) l :=
      ⟨note_silent h.toTracks rfl, { h.core with }, h.dead, h.own, h.settled⟩
    obtain ⟨l', h'⟩ := runOps_refines grpc hnote cb
    exact ⟨l', { h' with core := { h'.core with silenced := fun _ => rfl } }⟩
  · exact ⟨l, h⟩

end acts

section completions

variable {grpc : Nat → Bool} {s t u : Impl} {l : Lane StdString Unit} {call : Call Note}

private theorem own_complete {index : Nat} {success started : Bool} {received : Received}
    {tag : CqTag} (hcall : s.call.complete index success received = some (tag, call))
    (hown : ∀ t ∈ s.call.outstanding, ownTag started t = true) :
    ownTag started tag = true ∧ ∀ t ∈ call.outstanding, ownTag started t = true := by
  obtain ⟨htag, hsub⟩ := Call.complete_subset hcall
  exact ⟨hown tag htag, fun t ht => hown t (hsub t ht)⟩

private theorem complete_silent {index : Nat} {success : Bool} {received : Received} {tag : CqTag}
    (h : Refines s l) (hmsg : tag.message? = none)
    (hcall : s.call.complete index success received = some (tag, call)) :
    Refines { s with call := call } l := by
  have hown := (own_complete hcall h.own).2
  have hsilent : Tracks reading { s.half with call := call } l :=
    h.toTracks.completes_silent hmsg hcall
  exact ⟨hsilent, { h.core with }, h.dead, hown, h.settled⟩

theorem Refines.flying (h : Refines s l) {m : StdString}
    (hmem : .clientSendMsg m ∈ s.call.outstanding) :
    l.flying = some m ∧ s.msgQueue ≠ [] ∧ s.hasSentClose = false := by
  have hhead := h.toTracks.front_of_outstanding hmem
  have hflying : l.flying = some m := h.toTracks.flying_of_outstanding hmem
  refine ⟨hflying, ?_, h.sentClose.trans (Lane.unsent_of_flying hflying)⟩
  intro hempty
  simp [hempty] at hhead

theorem Sent.refines {index : Nat} {success : Bool} {received : Received} {cb : List Op}
    {m : StdString} (hsent : Sent grpc cb s call success t) (h : Refines s l)
    (hok : s.status.ok = true)
    (hcall : s.call.complete index success received = some (.clientSendMsg m, call)) :
    ∃ l', Refines t l' := by
  obtain ⟨hflying, hqueue, hunsent⟩ := h.flying (Call.complete_subset hcall).1
  have hlive := h.ok hok
  have hown := (own_complete hcall h.own).2
  have hwaiting : s.msgQueue.tail = l.waiting := by
    rw [show s.msgQueue = _ from h.queue hlive, hflying]
    rfl
  have hclosed : l.finish.closeSent = false := h.sentClose.symm.trans hunsent
  have hasked : s.writingClosing = true → l.finish.closing.isSome = true :=
    fun hclosing => (h.closing hlive).symm.trans hclosing
  have hsentClose : s.hasSentClose = true → s.writingClosing = true := h.core.sentClose
  cases hsent with
  | failed t herrored =>
    have hfailed := (h.toTracks.completes_failed hcall).2
    exact herrored.refines hfailed hown hsentClose
  | next front rest htail hgrpc =>
    have hdone := (h.toTracks.completes_sent hcall).2
    have hnext := hdone.next_started hok rfl (hwaiting.symm.trans htail) (by simp [reading]) hgrpc
    exact ⟨_, hnext, { h.core with }, by simp [hok], own_start hown rfl,
      Lane.settled_of_busy (.inl rfl)⟩
  | nextRefused front rest t htail hgrpc herrored =>
    have hdone := (h.toTracks.completes_sent hcall).2
    have hrefused := hdone.message_refused (m := front) hok rfl hclosed (by simp [reading]) hgrpc
      s.msgQueue.tail
    exact herrored.refines hrefused (own_start hown rfl) hsentClose
  | idle htail hopen =>
    have hdone := (h.toTracks.completes_sent hcall).2
    refine ⟨_, hdone, { h.core with }, by simp [hok], hown, ?_⟩
    intro _ _
    refine ⟨hwaiting.symm.trans htail, fun hclosing => ?_⟩
    have hask : s.writingClosing = l.closing.isSome := h.closing hlive
    simp [hopen, show l.closing.isSome = true from hclosing] at hask
  | closes htail hclosing hreading hgrpc =>
    have hdone := (h.toTracks.completes_sent hcall).2
    have hempty : l.waiting = [] := hwaiting.symm.trans htail
    have hclose := hdone.send_close hok rfl hempty (hasked hclosing) hclosed rfl hgrpc
    exact ⟨_, hclose, h.core.half_closes hclosing _ _, by simp [hok], own_start hown rfl,
      fun _ _ => ⟨hempty, fun _ => rfl⟩⟩
  | ends htail hclosing hreading hgrpc =>
    have hdone := (h.toTracks.completes_sent hcall).2
    have hempty : l.waiting = [] := hwaiting.symm.trans htail
    have hclose := hdone.send_close hok rfl hempty (hasked hclosing) hclosed rfl hgrpc
    have hended : Refines { s with
        msgQueue := s.msgQueue.tail, hasSentClose := true, writingEnded := true
        call := (call.startBatch grpc .clientSendClose).2 }
        (l.finish.sendClose rfl hempty (hasked hclosing)) :=
      ⟨hclose, h.core.half_closes hclosing _ _, by simp [hok], own_start hown rfl,
        fun _ _ => ⟨hempty, fun _ => rfl⟩⟩
    exact callStatusCb_refines grpc hended cb
  | closeRefused t htail hclosing hgrpc herrored =>
    have hdone := (h.toTracks.completes_sent hcall).2
    have hempty : l.waiting = [] := hwaiting.symm.trans htail
    have hrefused := hdone.close_refused hok rfl hempty (hasked hclosing) hclosed hgrpc
    exact herrored.refines hrefused (own_start hown rfl) fun _ => hclosing

private theorem dead_refines {index : Nat} {success : Bool} {received : Received} {m : StdString}
    (h : Refines s l) (hfailed : s.status.ok = false)
    (hcall : s.call.complete index success received = some (.clientSendMsg m, call)) :
    ∃ l', Refines { s with call := call, msgQueue := s.msgQueue.tail } l' := by
  have hown := (own_complete hcall h.own).2
  have hbroken := h.dead hfailed
  cases success with
  | true =>
    have hdone := (h.toTracks.completes_sent hcall).2
    exact ⟨_, hdone, { h.core with }, fun _ => hbroken, hown,
      Lane.settled_of_busy (.inr hbroken)⟩
  | false =>
    have hdone := (h.toTracks.completes_failed hcall).2
    refine ⟨l.finish.break_, ?_, { h.core with }, fun _ => rfl, hown,
      Lane.settled_of_busy (.inr rfl)⟩
    simpa [Impl.half, hfailed] using hdone

theorem Undead.refines (hu : Undead grpc u t) (hfailed : u.status.ok = false)
    (hstarted : u.readingStarted = true) (h : Refines u l) : ∃ l', Refines t l' := by
  obtain ⟨ns, ms, hnotes, hcall⟩ := hu.call
  have hns : ∀ n ∈ ns, ∀ msg, n ≠ .write msg true :=
    fun n hn => (hnotes n (List.mem_append_left ms hn)).no_write
  have hms : ∀ n ∈ ms, ∀ msg, n ≠ .write msg true :=
    fun n hn => (hnotes n (List.mem_append_right ns hn)).no_write
  have hcore : Core t := ⟨by simp [hu.failed], by simp [hu.failed],
    by simpa [hu.hasSentClose, hu.closing] using h.core.sentClose,
    fun _ => hu.statusCb.trans (h.core.silenced hfailed)⟩
  obtain ⟨l₁, hbroken₁, t₁⟩ := notes_broken h.toTracks (h.dead hfailed) hns
  have hhalf : t.half = { u.half with call := t.call, ok := false } := by
    simp [Impl.half, hu.failed, hu.closing, hu.hasSentClose, hu.msgQueue]
  rcases hcall with hcall | hcall
  · obtain ⟨l₂, hbroken₂, t₂⟩ := notes_broken t₁ hbroken₁ hms
    refine ⟨l₂, ?_, hcore, fun _ => hbroken₂, ?_, Lane.settled_of_busy (.inr hbroken₂)⟩
    · rw [hhalf, hcall]
      simpa using t₂
    · rw [hcall, hu.started]
      exact h.own
  · have hstart : ∃ l₂, l₂.broken = true ∧ Tracks reading { u.half with
        call := ((u.call.notes ns).startBatch grpc .clientReaderRead).2, ok := false } l₂ := by
      rcases Bool.eq_false_or_eq_true (grpc u.call.starts) with hgrpc | hgrpc
      · exact ⟨l₁, hbroken₁,
          start_silent t₁ CqTag.message?_clientReaderRead (by simp) hgrpc⟩
      · exact ⟨_, rfl, start_breaks t₁ CqTag.message?_clientReaderRead (by simp) hgrpc⟩
    obtain ⟨l₂, hbroken₂, t₂⟩ := hstart
    obtain ⟨l₃, hbroken₃, t₃⟩ := notes_broken t₂ hbroken₂ hms
    refine ⟨l₃, ?_, hcore, fun _ => hbroken₃, ?_, Lane.settled_of_busy (.inr hbroken₃)⟩
    · rw [hhalf, hcall]
      exact t₃
    · have hown : ∀ t ∈ ((u.call.notes ns).startBatch grpc .clientReaderRead).2.outstanding,
          ownTag u.readingStarted t = true := own_start h.own hstarted
      rw [hcall, hu.started]
      exact hown

private theorem goesOn_refines (grpc : Nat → Bool) (script : Script) (h : Refines u l)
    (hstarted : u.readingStarted = true) : ∃ l', Refines (goesOn grpc script u) l' := by
  rcases Bool.eq_false_or_eq_true u.status.ok with hok | hfailed
  · have hnote := note_silent (n := .msgCbReturns script.msgCbResult) h.toTracks rfl
    rcases goesOn_cases grpc script hok with herrored | ⟨hgrpc, heq⟩ | ⟨hgrpc, herrored⟩
    · exact herrored.refines hnote h.own h.core.sentClose
    · rw [heq]
      have hread := start_silent hnote CqTag.message?_clientReaderRead (by simp) hgrpc
      exact ⟨l, hread, { h.core with }, h.dead, own_start h.own hstarted, h.settled⟩
    · have hrefused := start_breaks hnote CqTag.message?_clientReaderRead (by simp) hgrpc
      exact herrored.refines hrefused (own_start h.own hstarted) h.core.sentClose
  · exact (goesOn_dead script hfailed (h.core.silenced hfailed)).refines hfailed hstarted h

theorem runOps_started (hcore : Core s) (hstarted : s.readingStarted = true) (ops : List Op) :
    (runOps grpc ops s).readingStarted = true := by
  rcases Bool.eq_false_or_eq_true s.status.ok with hok | hfailed
  · have hacts : Acts grpc s (runOps grpc ops s) := runOps_acts hcore hok ops
    refine hacts.keeps (J := fun s => s.readingStarted = true) ?_ ?_ ?_ hcore hok hstarted
    · intro s t _ _ halive hs
      cases halive with
      | reads => rfl
      | _ => exact hs
    · intro s u v _ _ hfatal herrored hs
      apply herrored.started
      cases hfatal with
      | initSend reading hreading => exact hreading hs
      | initRecv reading hreading => exact hreading hs
      | read => rfl
      | _ => exact hs
    · intro s t _ hfrozen hs
      exact hfrozen.started hs
  · exact (runOps_frozen hfailed ops).started hstarted

theorem Heard.refines {script : Script} {success : Bool} {received : Received}
    (hheard : Heard grpc script s call success received t) (h : Refines { s with call := call } l)
    (hstarted : s.readingStarted = true) : ∃ l', Refines t l' := by
  cases hheard with
  | failed _ t herrored => exact herrored.refines h.toTracks h.own h.core.sentClose
  | closes _ hnone hwriting =>
    exact ⟨l, { h with core := { h.core with } }⟩
  | ends _ hnone hwriting =>
    have hended : Refines { s with call := call, readingEnded := true } l :=
      { h with core := { h.core with } }
    exact callStatusCb_refines grpc hended script.statusCb
  | garbled _ t hbuf herrored => exact herrored.refines h.toTracks h.own h.core.sentClose
  | reads _ bytes hbuf hcb hgrpc =>
    have hread := start_silent h.toTracks CqTag.message?_clientReaderRead (by simp) hgrpc
    exact ⟨l, hread, { h.core with }, h.dead, own_start h.own hstarted, h.settled⟩
  | readRefused _ bytes t hbuf hcb hgrpc herrored =>
    have hrefused := start_breaks h.toTracks CqTag.message?_clientReaderRead (by simp) hgrpc
    exact herrored.refines hrefused (own_start h.own hstarted) h.core.sentClose
  | hears _ bytes hbuf hcb =>
    have hnote : Refines { s with call := call.note (.msgCb bytes) } l :=
      ⟨note_silent h.toTracks rfl, { h.core with }, h.dead, h.own, h.settled⟩
    obtain ⟨l', h'⟩ := runOps_refines grpc hnote script.msgCb
    exact goesOn_refines grpc script h' (runOps_started hnote.core hstarted script.msgCb)

end completions

section runs

variable {grpc : Nat → Bool} {s t : Impl} {l : Lane StdString Unit}

inductive Comes (grpc : Nat → Bool) (s : Impl) : Label → Impl → Prop
  | op (op : Op) : Comes grpc s (.op op) (runOp grpc op s)
  | sent (index : Nat) (success : Bool) (received : Received) (script : Script) (m : StdString)
      (call : Call Note) (t : Impl)
      (hcall : s.call.complete index success received = some (.clientSendMsg m, call))
      (hok : s.status.ok = true) (hsent : Sent grpc script.statusCb s call success t) :
      Comes grpc s (.complete index success received script) t
  | sentDead (index : Nat) (success : Bool) (received : Received) (script : Script)
      (m : StdString) (call : Call Note)
      (hcall : s.call.complete index success received = some (.clientSendMsg m, call))
      (hfailed : s.status.ok = false) :
      Comes grpc s (.complete index success received script)
        { s with call := call, msgQueue := s.msgQueue.tail }
  | heard (index : Nat) (success : Bool) (received : Received) (script : Script)
      (call : Call Note) (t : Impl)
      (hcall : s.call.complete index success received = some (.clientReaderRead, call))
      (hok : s.status.ok = true) (hstarted : s.readingStarted = true)
      (hheard : Heard grpc script s call success received t) :
      Comes grpc s (.complete index success received script) t
  | silent (index : Nat) (success : Bool) (received : Received) (script : Script) (tag : CqTag)
      (call : Call Note) (hcall : s.call.complete index success received = some (tag, call))
      (hmsg : tag.message? = none) (hdead : tag = .clientReaderRead → s.status.ok = false) :
      Comes grpc s (.complete index success received script) { s with call := call }

theorem step_cases {label : Label} (h : Refines s l) (hstep : step grpc s label = some t) :
    Comes grpc s label t := by
  cases label with
  | op op =>
    obtain rfl : runOp grpc op s = t := by simpa [step] using hstep
    exact .op op
  | complete index success received script =>
    cases hcall : s.call.complete index success received with
    | none => simp [step, hcall] at hstep
    | some found =>
      obtain ⟨tag, call⟩ := found
      obtain rfl : doComplete grpc script tag success received { s with call := call } = t := by
        simpa [step, hcall] using hstep
      have htag := (own_complete hcall h.own).1
      cases tag with
      | clientSendMsg m =>
        obtain ⟨-, hqueue, hunsent⟩ := h.flying (Call.complete_subset hcall).1
        rcases Bool.eq_false_or_eq_true s.status.ok with hok | hfailed
        · exact .sent index success received script m call _ hcall hok
            (onSent_cases grpc script.statusCb hok hqueue hunsent call success)
        · simp only [doComplete]
          rw [onSent_dead hfailed (h.core.silenced hfailed) hqueue]
          exact .sentDead index success received script m call hcall hfailed
      | clientReaderRead =>
        rcases Bool.eq_false_or_eq_true s.status.ok with hok | hfailed
        · exact .heard index success received script call _ hcall hok htag
            (onRead_cases grpc script hok htag call success received)
        · simp only [doComplete]
          rw [onRead_dead hfailed (h.core.silenced hfailed) htag]
          exact .silent index success received script .clientReaderRead call hcall rfl
            fun _ => hfailed
      | clientSendInitMd =>
        exact .silent index success received script .clientSendInitMd call hcall rfl (by simp)
      | clientRecvInitMd =>
        exact .silent index success received script .clientRecvInitMd call hcall rfl (by simp)
      | clientSendClose =>
        exact .silent index success received script .clientSendClose call hcall rfl (by simp)
      | _ => simp [ownTag] at htag

theorem step_refines {label : Label} (h : Refines s l) (hstep : step grpc s label = some t) :
    ∃ l', Refines t l' := by
  cases step_cases h hstep with
  | op op => simpa [runOps] using runOps_refines grpc h [op]
  | sent _ _ _ _ m call t hcall hok hsent => exact hsent.refines h hok hcall
  | sentDead _ _ _ _ m call hcall hfailed => exact dead_refines h hfailed hcall
  | heard _ _ _ _ call t hcall hok hstarted hheard =>
    exact hheard.refines (complete_silent h rfl hcall) hstarted
  | silent _ _ _ _ tag call hcall hmsg => exact ⟨l, complete_silent h hmsg hcall⟩

theorem refines_fresh (statusCb : Bool) :
    Refines (clientAsyncReaderWriterImpl statusCb) Lane.fresh where
  toTracks := Tracks.fresh reading
  core := ⟨fun _ => rfl, by simp [clientAsyncReaderWriterImpl],
    by simp [clientAsyncReaderWriterImpl], by simp [clientAsyncReaderWriterImpl]⟩
  dead := by simp [clientAsyncReaderWriterImpl]
  own := by simp [clientAsyncReaderWriterImpl]
  settled := Lane.settled_fresh

theorem run_refines {statusCb : Bool} {ls : List Label}
    (hrun : (machine grpc).run (clientAsyncReaderWriterImpl statusCb) ls = some s) :
    ∃ l, Refines s l :=
  (machine grpc).invariant (I := fun s => ∃ l, Refines s l)
    (fun _ _ _ ⟨_, h⟩ hstep => step_refines h hstep) ⟨_, refines_fresh statusCb⟩ hrun

end runs

end GrpcCbCore.Client.ReaderWriterImpl
