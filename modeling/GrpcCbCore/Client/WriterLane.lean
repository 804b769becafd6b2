import GrpcCbCore.Client.WriterImpl
import GrpcCbCore.Client.WriteHalf

/-! `ClientAsyncWriterImpl` refines the lane of its write half. A close callback
finds the object closing, so whatever it calls is ignored. -/
namespace GrpcCbCore.Client.WriterImpl
open GrpcCbCore.Library

def reading : Reading Note where
  closeTag := .clientWriterClose
  noteSights
    | .write request true => [.accept request]
    | .close _ => [.askClose ()]
    | _ => []

def Impl.half (s : Impl) : WriteHalf Note where
  call := s.call
  ok := s.status.ok
  closing := s.isClosing
  hasSentClose := s.hasSentClose
  msgQueue := s.msgQueue

@[simp] def accepted : Event Note → Option StdString
  | .note (.write request true) => some request
  | _ => none

@[simp] def closeCall : Event Note → Option Bool
  | .note (.close hasCloseCb) => some hasCloseCb
  | _ => none

@[simp] def closeAttempt : Event Note → Option Unit
  | .start tag _ => if tag = .clientWriterClose then some () else none
  | _ => none

/-- The initial metadata goes first; after it, messages and the close batch,
which completes only if it was started. -/
def Begins (before : List (Event Note)) : Event Note → Prop
  | .start tag _ =>
      if before = [] then tag = .clientSendInitMd
      else tag.message?.isSome = true ∨ tag = .clientWriterClose
  | .complete tag _ _ => before ≠ [] ∧
      (tag = .clientWriterClose → collect closeAttempt before ≠ [])
  | .note _ => before ≠ []

def ownTag : CqTag → Bool
  | .clientSendInitMd | .clientSendMsg _ | .clientWriterClose => true
  | _ => false

/-- Errors come up only while no message is in flight. -/
structure Writes (s : Impl) (l : Lane StdString Unit) : Prop
    extends Tracks reading s.half l where
  rest : l.broken = true → l.flying = none
  own : ∀ tag ∈ s.call.outstanding, ownTag tag = true
  closeOut : .clientWriterClose ∈ s.call.outstanding → l.closeSent = true
  begun : s.call.log ≠ []
  begins : AtEach Begins s.call.log

/-- Between operations the lane is settled as well. -/
structure Refines (s : Impl) (l : Lane StdString Unit) : Prop extends Writes s l where
  settled : l.Settled

namespace Impl

@[simp] theorem check_true (site : Site) (s : Impl) : s.check site true = s := rfl

@[simp] theorem check_status (site : Site) (holds : Bool) (s : Impl) :
    (s.check site holds).status = s.status := by
  unfold check
  split <;> rfl

@[simp] theorem check_isClosing (site : Site) (holds : Bool) (s : Impl) :
    (s.check site holds).isClosing = s.isClosing := by
  unfold check
  split <;> rfl

@[simp] theorem note_call (n : Note) (s : Impl) : (s.note n).call = s.call.note n := rfl
@[simp] theorem note_status (n : Note) (s : Impl) : (s.note n).status = s.status := rfl
@[simp] theorem note_crashed (n : Note) (s : Impl) : (s.note n).crashed = s.crashed := rfl
@[simp] theorem note_hasSentClose (n : Note) (s : Impl) :
    (s.note n).hasSentClose = s.hasSentClose := rfl
@[simp] theorem note_closeCb (n : Note) (s : Impl) : (s.note n).closeCb = s.closeCb := rfl
@[simp] theorem note_isClosing (n : Note) (s : Impl) : (s.note n).isClosing = s.isClosing := rfl
@[simp] theorem note_msgQueue (n : Note) (s : Impl) : (s.note n).msgQueue = s.msgQueue := rfl

@[simp] theorem half_call (s : Impl) : s.half.call = s.call := rfl
@[simp] theorem half_ok (s : Impl) : s.half.ok = s.status.ok := rfl
@[simp] theorem half_closing (s : Impl) : s.half.closing = s.isClosing := rfl
@[simp] theorem half_hasSentClose (s : Impl) : s.half.hasSentClose = s.hasSentClose := rfl
@[simp] theorem half_msgQueue (s : Impl) : s.half.msgQueue = s.msgQueue := rfl

end Impl

theorem sights_columns (e : Event Note) :
    collect Sight.accepted (reading.sights e) = (accepted e).toList ∧
    collect Sight.started (reading.sights e) = (Event.sent e).toList ∧
    collect Sight.finished (reading.sights e) = (Event.finished e).toList ∧
    (collect Sight.asked (reading.sights e) = [] ↔ closeCall e = none) ∧
    collect Sight.closed (reading.sights e) = (closeAttempt e).toList ∧
    (collect Sight.broke (reading.sights e) = [] ↔ Event.failed e = none) := by
  cases e with
  | start tag ok =>
    by_cases htag : tag = reading.closeTag <;> cases ok <;> cases hm : tag.message? <;>
      simp_all [Reading.sights, reading]
  | complete tag success received =>
    cases success <;> cases hm : tag.message? <;> simp [Reading.sights, hm]
  | note n => rcases n with ⟨_, _ | _⟩ | _ | _ | _ <;> simp [Reading.sights, reading]

section callback

variable {grpc : Nat → Bool} {s : Impl}

/-- What an operation on a closing writer leaves in the history. -/
def Op.ignored : Op → Note
  | .write request _ => .write request false
  | .close hasCloseCb _ => .close hasCloseCb

private theorem runOp_closing (hclosing : s.isClosing = true) (op : Op) :
    runOp grpc op s = s.note op.ignored := by
  cases op with
  | write request cb => simp [runOp, write, hclosing, Op.ignored]
  | close hasCloseCb cb => simp [runOp, close, hclosing, Op.ignored]

private theorem runOps_closing (hclosing : s.isClosing = true) (ops : List Op) :
    runOps grpc ops s = { s with call := s.call.notes (ops.map Op.ignored) } := by
  induction ops generalizing s with
  | nil => simp [runOps]
  | cons op ops ih =>
    rw [runOps, runOp_closing hclosing, ih (s := s.note op.ignored) hclosing]
    simp [Impl.note]

theorem callCloseCb_closing (hclosing : s.isClosing = true) (cb : List Op) (sMsg : StdString) :
    callCloseCb (runOps grpc cb) sMsg s = if s.closeCb then { s with
      call := s.call.notes (.closeCb s.status sMsg :: cb.map Op.ignored), closeCb := false }
      else s := by
  unfold callCloseCb
  split
  · have hnote : (s.note (.closeCb s.status sMsg)).isClosing = true := hclosing
    rw [runOps_closing hnote]
    simp
  · rfl

end callback

section specs

variable {grpc : Nat → Bool} {cb : Impl → Impl} {s : Impl}

theorem sendNext_accepted {front : StdString} {rest : List StdString}
    (hok : s.status.ok = true) (hqueue : s.msgQueue = front :: rest)
    (hgrpc : grpc s.call.starts = true) :
    sendNext grpc cb s =
      (true, { s with call := (s.call.startBatch grpc (.clientSendMsg front)).2 }) := by
  simp [sendNext, Impl.startBatch, hok, hqueue, hgrpc]

theorem sendNext_refused {front : StdString} {rest : List StdString}
    (hok : s.status.ok = true) (hqueue : s.msgQueue = front :: rest)
    (hgrpc : grpc s.call.starts = false) :
    sendNext grpc cb s = (false, tryToCallCloseCb cb { s with
      call := (s.call.startBatch grpc (.clientSendMsg front)).2
      status := .internalError (lit "Failed to write client-side streaming.") }) := by
  simp [sendNext, Impl.startBatch, Impl.setInternalError, hok, hqueue, hgrpc]

theorem tryToCallCloseCb_eq (hfailed : s.status.ok = false) :
    tryToCallCloseCb cb s = if s.isClosing then callCloseCb cb [] s else s := by
  simp [tryToCallCloseCb, hfailed]

theorem sendClose_accepted (hok : s.status.ok = true) (hclosing : s.isClosing = true)
    (hunsent : s.hasSentClose = false) (hgrpc : grpc s.call.starts = true) :
    sendClose grpc cb s = { s with
      call := (s.call.startBatch grpc .clientWriterClose).2, hasSentClose := true } := by
  simp [sendClose, Impl.startBatch, hok, hclosing, hunsent, hgrpc]

theorem sendClose_refused (hok : s.status.ok = true) (hclosing : s.isClosing = true)
    (hunsent : s.hasSentClose = false) (hgrpc : grpc s.call.starts = false) :
    sendClose grpc cb s = callCloseCb cb [] { s with
      call := (s.call.startBatch grpc .clientWriterClose).2, hasSentClose := true
      status := .internalError (lit "Failed to close client-side streaming.") } := by
  simp [sendClose, Impl.startBatch, Impl.setInternalError, hok, hclosing, hunsent, hgrpc]

end specs

section cases

variable {cb : Impl → Impl} {s : Impl} {l : Lane StdString Unit}

/-- What a `Write` can do. No callback is called: it comes before any Close. -/
theorem write_cases (grpc : Nat → Bool) (cb : Impl → Impl) (h : Refines s l)
    (request : StdString) :
    ((s.status.ok = false ∨ s.isClosing = true) ∧ write grpc cb request s = (false, s)) ∨
    (s.status.ok = true ∧ s.isClosing = false ∧ l.flying.isSome = true ∧
      write grpc cb request s = (true, { s with msgQueue := s.msgQueue ++ [request] })) ∨
    (s.status.ok = true ∧ s.isClosing = false ∧ l.flying = none ∧ l.waiting = [] ∧
      grpc s.call.starts = true ∧ write grpc cb request s = (true, { s with
        msgQueue := [request]
        call := (s.call.startBatch grpc (.clientSendMsg request)).2 })) ∨
    (s.status.ok = true ∧ s.isClosing = false ∧ l.flying = none ∧
      grpc s.call.starts = false ∧ write grpc cb request s = (false, { s with
        msgQueue := [request]
        call := (s.call.startBatch grpc (.clientSendMsg request)).2
        status := .internalError (lit "Failed to write client-side streaming.") })) := by
  by_cases hshut : s.status.ok = false ∨ s.isClosing = true
  · refine .inl ⟨hshut, ?_⟩
    rcases hshut with hfailed | hclosing
    · simp [write, hfailed]
    · simp [write, hclosing]
  simp only [not_or, Bool.not_eq_false, Bool.not_eq_true] at hshut
  obtain ⟨hok, hopen⟩ := hshut
  refine .inr ?_
  by_cases hqueue : s.msgQueue = []
  · obtain ⟨hidle, hempty⟩ := h.toTracks.idle_of_queue hok hqueue
    have heq : write grpc cb request s = sendNext grpc cb { s with msgQueue := [request] } := by
      simp [write, hok, hopen, hqueue]
    rw [heq]
    rcases Bool.eq_false_or_eq_true (grpc s.call.starts) with hgrpc | hgrpc
    · exact .inr (.inl ⟨hok, hopen, hidle, hempty, hgrpc,
        sendNext_accepted (s := { s with msgQueue := [request] }) hok rfl hgrpc⟩)
    · refine .inr (.inr ⟨hok, hopen, hidle, hgrpc, ?_⟩)
      rw [sendNext_refused (s := { s with msgQueue := [request] }) hok rfl hgrpc,
        tryToCallCloseCb_eq rfl]
      simp [hopen]
  · refine .inl ⟨hok, hopen, h.toTracks.flying_of_queue h.settled hok hqueue, ?_⟩
    simp [write, hok, hopen, hqueue]

/-- What a Close can do, `n` being the note made of it. -/
theorem close_cases (grpc : Nat → Bool) (cb : Impl → Impl) (h : Refines s l) (n : Note)
    (hasCloseCb : Bool) :
    (s.isClosing = true ∧ close grpc cb hasCloseCb (s.note n) = s.note n) ∨
    (s.isClosing = false ∧ s.status.ok = false ∧ l.broken = true ∧
      close grpc cb hasCloseCb (s.note n) =
        callCloseCb cb [] { s.note n with isClosing := true, closeCb := hasCloseCb }) ∨
    (s.isClosing = false ∧ s.status.ok = true ∧ l.flying.isSome = true ∧
      close grpc cb hasCloseCb (s.note n) =
        { s.note n with isClosing := true, closeCb := hasCloseCb }) ∨
    (s.isClosing = false ∧ s.status.ok = true ∧ l.flying = none ∧ l.waiting = [] ∧
      close grpc cb hasCloseCb (s.note n) =
        sendClose grpc cb { s.note n with isClosing := true, closeCb := hasCloseCb }) := by
  cases hclosing : s.isClosing with
  | true => exact .inl ⟨rfl, by simp [close, hclosing]⟩
  | false =>
    refine .inr ?_
    cases hok : s.status.ok with
    | false =>
      have hbroken : l.broken = true := by
        rcases h.failed hok with hbroken | hsent
        · exact hbroken
        · by_contra hlive
          have heq := h.closing (by simpa using hlive)
          simp [hclosing, (l.close_last hsent).2.2] at heq
      exact .inl ⟨rfl, rfl, hbroken, by simp [close, hclosing, hok]⟩
    | true =>
      refine .inr ?_
      by_cases hqueue : s.msgQueue = []
      · obtain ⟨hidle, hempty⟩ := h.toTracks.idle_of_queue hok hqueue
        exact .inr ⟨rfl, rfl, hidle, hempty, by simp [close, hclosing, hok, hqueue]⟩
      · have hflying := h.toTracks.flying_of_queue h.settled hok hqueue
        exact .inl ⟨rfl, rfl, hflying, by simp [close, hclosing, hok, hqueue]⟩

/-- What the completion of a message can do, `call` being what it makes of the
call: the writer has no error yet, and the message is at the front. -/
theorem onSent_cases (grpc : Nat → Bool) (cb : Impl → Impl) (h : Refines s l) {m : StdString}
    (hflying : l.flying = some m) (call : Call Note) (success : Bool) :
    s.status.ok = true ∧ s.msgQueue.tail = l.waiting ∧
    ((success = false ∧ onSent grpc cb success { s with call := call } =
        if s.isClosing then callCloseCb cb [] { s with
            call := call, msgQueue := s.msgQueue.tail
            status := .internalError (lit "Failed to send message.") }
        else { s with
            call := call, msgQueue := s.msgQueue.tail
            status := .internalError (lit "Failed to send message.") }) ∨
    (success = true ∧ (∃ front rest, l.waiting = front :: rest) ∧
      onSent grpc cb success { s with call := call } =
        (sendNext grpc cb { s with call := call, msgQueue := s.msgQueue.tail }).2) ∨
    (success = true ∧ l.waiting = [] ∧ s.isClosing = true ∧
      onSent grpc cb success { s with call := call } =
        sendClose grpc cb { s with call := call, msgQueue := s.msgQueue.tail }) ∨
    (success = true ∧ l.waiting = [] ∧ s.isClosing = false ∧
      onSent grpc cb success { s with call := call } =
        { s with call := call, msgQueue := s.msgQueue.tail })) := by
  have hlive : l.broken = false := by
    by_contra hbroken
    simp [h.rest (by simpa using hbroken)] at hflying
  have hok : s.status.ok = true := by
    by_contra hfailed
    rcases h.failed (by simpa using hfailed) with hbroken | hsent
    · simp [hlive] at hbroken
    · simp [Lane.unsent_of_flying hflying] at hsent
  have hqueue : s.msgQueue = m :: l.waiting := by simpa [hflying] using h.queue hlive
  refine ⟨hok, by simp [hqueue], ?_⟩
  cases success with
  | false =>
    refine .inl ⟨rfl, ?_⟩
    simp [onSent, hok, hqueue, Impl.setInternalError, tryToCallCloseCb]
  | true =>
    refine .inr ?_
    cases hwaiting : l.waiting with
    | cons front rest =>
      exact .inl ⟨rfl, ⟨front, rest, rfl⟩, by simp [onSent, hok, hqueue, hwaiting]⟩
    | nil =>
      cases hclosing : s.isClosing with
      | true => exact .inr (.inl ⟨rfl, rfl, rfl, by simp [onSent, hok, hqueue, hwaiting]⟩)
      | false => exact .inr (.inr ⟨rfl, rfl, rfl, by simp [onSent, hok, hqueue, hwaiting]⟩)

end cases

section writes

variable {grpc : Nat → Bool} {s : Impl} {l : Lane StdString Unit}

private theorem own_start (hown : ∀ tag ∈ s.call.outstanding, ownTag tag = true) {tag : CqTag}
    (htag : ownTag tag = true) :
    ∀ t ∈ (s.call.startBatch grpc tag).2.outstanding, ownTag t = true := by
  intro t ht
  rw [Call.startBatch_outstanding] at ht
  split at ht
  · rcases List.mem_append.mp ht with hold | hnew
    · exact hown t hold
    · rw [List.mem_singleton.mp hnew]
      exact htag
  · exact hown t ht

theorem Writes.begins_start (h : Writes s l) {tag : CqTag}
    (htag : tag.message?.isSome = true ∨ tag = .clientWriterClose) :
    AtEach Begins (s.call.startBatch grpc tag).2.log := by
  refine h.begins.snoc ?_
  rw [Begins, if_neg h.begun]
  exact htag

theorem Writes.closeOut_message (h : Writes s l) (m : StdString) :
    .clientWriterClose ∈ (s.call.startBatch grpc (.clientSendMsg m)).2.outstanding →
      l.closeSent = true := by
  intro hmem
  rw [Call.startBatch_outstanding] at hmem
  split at hmem
  · exact h.closeOut (by simpa using hmem)
  · exact h.closeOut hmem

theorem Writes.note (h : Writes s l) {n : Note} (hwrite : ∀ request, n ≠ .write request true)
    (hclose : (∀ hasCloseCb, n ≠ .close hasCloseCb) ∨ l.broken = true ∨
      l.closing.isSome = true) : Writes (s.note n) l where
  toTracks := by
    by_cases hsight : reading.noteSights n = []
    · have hlaw : reading.Lawful s.call.log (.note n) := by simp [Reading.Lawful, hsight]
      exact h.toTracks.silent (e := .note n) rfl hsight rfl hlaw
    · rcases n with ⟨request, _ | _⟩ | hasCloseCb | _ | _ <;> simp [reading] at hsight
      · exact absurd rfl (hwrite request)
      · exact h.toTracks.ask_again (hclose.resolve_left (fun hn => hn hasCloseCb rfl)) rfl
  rest := h.rest
  own := h.own
  closeOut := h.closeOut
  begun := by simp
  begins := h.begins.snoc h.begun

theorem Writes.notes (h : Writes s l) (hasked : l.broken = true ∨ l.closing.isSome = true)
    (ns : List Note) (hns : ∀ n ∈ ns, ∀ request, n ≠ .write request true) :
    Writes { s with call := s.call.notes ns } l := by
  induction ns generalizing s with
  | nil => simpa using h
  | cons n ns ih =>
    have hnote : Writes (s.note n) l := h.note (hns n (by simp)) (.inr hasked)
    have hrest := ih hnote fun x hx => hns x (by simp [hx])
    simpa [Impl.note] using hrest

theorem Writes.check (h : Writes s l) (site : Site) (holds : Bool) :
    Writes (s.check site holds) l := by
  unfold Impl.check
  split
  · exact h
  · exact h.note (by simp) (.inl (by simp))

theorem Writes.callback (h : Writes s l) (hclosing : s.isClosing = true)
    (hasked : l.broken = true ∨ l.closing.isSome = true) (cb : List Op) (sMsg : StdString) :
    Writes (callCloseCb (runOps grpc cb) sMsg s) l := by
  rw [callCloseCb_closing hclosing]
  split
  · have hnotes := h.notes hasked (.closeCb s.status sMsg :: cb.map Op.ignored) (by
      intro n hn request
      rcases List.mem_cons.mp hn with rfl | hop
      · simp
      · obtain ⟨op, -, rfl⟩ := List.mem_map.mp hop
        cases op <;> simp [Op.ignored])
    exact { hnotes with }
  · exact h

theorem Writes.message_refused (h : Writes s l) {m : StdString} (hok : s.status.ok = true)
    (hidle : l.flying = none) (hunsent : l.closeSent = false)
    (hgrpc : grpc s.call.starts = false) (queue : List StdString) (details : StdString) :
    Writes { s with
      msgQueue := queue
      call := (s.call.startBatch grpc (.clientSendMsg m)).2
      status := .internalError details } l.break_ where
  toTracks := h.toTracks.message_refused hok hidle hunsent (by simp [reading]) hgrpc queue
  rest := fun _ => hidle
  own := own_start h.own rfl
  closeOut := h.closeOut_message m
  begun := by simp
  begins := h.begins_start (by simp)

theorem Writes.next_started (h : Writes s l) {m : StdString} {rest : List StdString}
    (hok : s.status.ok = true) (hidle : l.flying = none) (hwaiting : l.waiting = m :: rest)
    (hgrpc : grpc s.call.starts = true) :
    Writes { s with call := (s.call.startBatch grpc (.clientSendMsg m)).2 }
      (l.start m rest hwaiting) where
  toTracks := h.toTracks.next_started hok hidle hwaiting (by simp [reading]) hgrpc
  rest := fun hbroken => absurd hbroken (by simp [h.ok hok])
  own := own_start h.own rfl
  closeOut := h.closeOut_message m
  begun := by simp
  begins := h.begins_start (by simp)

theorem Writes.send_close (grpc : Nat → Bool) (h : Writes s l) (hok : s.status.ok = true)
    (hidle : l.flying = none) (hempty : l.waiting = []) (hclosing : s.isClosing = true)
    (hunsent : l.closeSent = false) (cb : List Op) :
    ∃ l', Lane.Steps l l' ∧ Refines (sendClose grpc (runOps grpc cb) s) l' := by
  have hlive := h.ok hok
  have hasked : l.closing.isSome = true := (h.closing hlive).symm.trans hclosing
  have hsend : Lane.Step l _ := .sendClose l hidle hempty hasked hunsent hlive
  have hnot : s.hasSentClose = false := h.sentClose.trans hunsent
  rcases Bool.eq_false_or_eq_true (grpc s.call.starts) with hgrpc | hgrpc
  · rw [sendClose_accepted hok hclosing hnot hgrpc]
    refine ⟨_, .single hsend, ⟨?_, h.rest, own_start h.own rfl, fun _ => rfl, by simp,
      h.begins_start (.inr rfl)⟩, fun _ _ => ⟨hempty, fun _ => rfl⟩⟩
    exact h.toTracks.send_close hok hidle hempty hasked hunsent rfl hgrpc
  · rw [sendClose_refused hok hclosing hnot hgrpc]
    refine ⟨_, .tail (.single hsend) (.break_ _), ?_, Lane.settled_of_busy (.inr rfl)⟩
    have hrefused : Writes { s with
        call := (s.call.startBatch grpc .clientWriterClose).2, hasSentClose := true
        status := .internalError (lit "Failed to close client-side streaming.") }
        (l.sendClose hidle hempty hasked).break_ :=
      ⟨h.toTracks.close_refused hok hidle hempty hasked hunsent hgrpc, fun _ => hidle,
        own_start h.own rfl, fun _ => rfl, by simp, h.begins_start (.inr rfl)⟩
    exact hrefused.callback hclosing (.inl rfl) cb []

theorem Writes.set_status (h : Writes s l) (hok : s.status.ok = true) (hsent : l.closeSent = true)
    (status : Status) : Writes { s with status := status } l := by
  have htracks : Tracks reading { s.half with ok := status.ok } l := by
    cases hstatus : status.ok with
    | true =>
      have hhalf : { s.half with ok := true } = s.half := by simp [Impl.half, hok]
      rw [hhalf]
      exact h.toTracks
    | false => exact h.toTracks.set_failed (.inr hsent)
  exact ⟨htracks, h.rest, h.own, h.closeOut, h.begun, h.begins⟩

theorem Writes.of_complete (h : Writes s l) {call : Call Note} {index : Nat} {success : Bool}
    {received : Received} {tag : CqTag}
    (hcall : s.call.complete index success received = some (tag, call)) {t : Impl}
    (ht : t.call = call) {l' : Lane StdString Unit} (htracks : Tracks reading t.half l')
    (hrest : l'.broken = true → l'.flying = none) (hsent : l'.closeSent = l.closeSent) :
    Writes t l' := by
  obtain ⟨hmem, hsubset⟩ := Call.complete_subset hcall
  have hlog := Call.complete_log hcall
  subst ht
  refine ⟨htracks, hrest, fun x hx => h.own x (hsubset x hx), fun hmem => ?_, ?_, ?_⟩
  · rw [hsent]
    exact h.closeOut (hsubset _ hmem)
  · simp [hlog]
  · rw [hlog]
    refine h.begins.snoc ⟨h.begun, fun htag => ?_⟩
    have hsent := h.closeOut (htag ▸ hmem)
    obtain ⟨word, hword⟩ := Option.isSome_iff_exists.mp (l.close_last hsent).2.2
    rw [← collect_flatMap _ fun e => (sights_columns e).2.2.2.2.1]
    have hclosed := h.ledger.closed
    simp only [hsent, if_true, hword] at hclosed
    exact ne_of_eq_of_ne hclosed (by simp)

end writes

section steps

variable {grpc : Nat → Bool} {s : Impl} {l : Lane StdString Unit}

private theorem write_refines (h : Refines s l) (request : StdString) (cb : List Op) :
    ∃ l', Lane.Steps l l' ∧ Refines (runOp grpc (.write request cb) s) l' := by
  rw [runOp]
  obtain ⟨-, heq⟩ | ⟨hok, hopen, hbusy, heq⟩ | ⟨hok, hopen, hidle, hempty, hgrpc, heq⟩ |
    ⟨hok, hopen, hidle, hgrpc, heq⟩ := write_cases grpc (runOps grpc cb) h request <;> rw [heq]
  · exact ⟨l, .refl, h.note (by simp) (.inl (by simp)), h.settled⟩
  · obtain ⟨hlive, hclosing, -⟩ := h.toTracks.live hok hopen
    refine ⟨l.accept request hclosing, .single (.accept l request hclosing hlive),
      ⟨?_, h.rest, h.own, h.closeOut, by simp, h.begins.snoc h.begun⟩,
      Lane.settled_of_busy (.inl hbusy)⟩
    exact h.toTracks.write_queued hok hclosing (n := .write request true) rfl
  · obtain ⟨hlive, hclosing, hunsent⟩ := h.toTracks.live hok hopen
    refine ⟨_, Lane.steps_acceptStart request hclosing hlive hidle hempty,
      ⟨?_, fun hbroken => ?_, own_start h.own rfl, ?_, by simp, ?_⟩,
      Lane.settled_of_busy (.inl rfl)⟩
    · exact h.toTracks.write_started hok hclosing hidle hempty (n := .write request true) rfl
        (by simp [reading]) hgrpc
    · exact absurd hbroken (by simp [hlive])
    · exact h.closeOut_message request
    · exact (h.begins_start (by simp)).snoc (by simp [Begins])
  · obtain ⟨hlive, -, hunsent⟩ := h.toTracks.live hok hopen
    have hrefused := h.message_refused (m := request) hok hidle hunsent hgrpc [request]
      (lit "Failed to write client-side streaming.")
    exact ⟨_, .single (.break_ l), hrefused.note (by simp) (.inl (by simp)),
      Lane.settled_of_busy (.inr rfl)⟩

theorem Writes.ask_close (h : Writes s l) (hok : s.status.ok = true) (hopen : l.closing = none)
    (hasCloseCb : Bool) :
    Writes { s.note (.close hasCloseCb) with isClosing := true, closeCb := hasCloseCb }
      (l.askClose ()) where
  toTracks := by
    have hsight : reading.noteSights (.close hasCloseCb) = [.askClose ()] := rfl
    exact h.toTracks.ask_close hok hopen hsight
  rest := h.rest
  own := h.own
  closeOut := h.closeOut
  begun := by simp
  begins := h.begins.snoc h.begun

theorem Writes.asked (h : Writes s l) (hclosing : s.isClosing = true) :
    l.broken = true ∨ l.closing.isSome = true := by
  cases hlive : l.broken with
  | true => exact .inl rfl
  | false => exact .inr ((h.closing hlive).symm.trans hclosing)

private theorem close_refines (h : Refines s l) (hasCloseCb : Bool) (cb : List Op) :
    ∃ l', Lane.Steps l l' ∧ Refines (runOp grpc (.close hasCloseCb cb) s) l' := by
  rw [runOp]
  obtain ⟨hclosing, heq⟩ | ⟨hopen, hfailed, hbroken, heq⟩ | ⟨hopen, hok, hbusy, heq⟩ |
    ⟨hopen, hok, hidle, hempty, heq⟩ :=
    close_cases grpc (runOps grpc cb) h (.close hasCloseCb) hasCloseCb <;> rw [heq]
  · exact ⟨l, .refl, h.note (by simp) (.inr (h.asked hclosing)), h.settled⟩
  · have hnote := h.note (n := .close hasCloseCb) (by simp) (.inr (.inl hbroken))
    have hasked : Writes { s.note (.close hasCloseCb) with
        isClosing := true, closeCb := hasCloseCb } l :=
      { hnote with toTracks := hnote.toTracks.set_closing (.inl hbroken) }
    exact ⟨l, .refl, hasked.callback rfl (.inl hbroken) cb [], h.settled⟩
  · obtain ⟨hlive, hclosing, -⟩ := h.toTracks.live hok hopen
    exact ⟨_, .single (.askClose l () hclosing), h.ask_close hok hclosing hasCloseCb,
      Lane.settled_of_busy (.inl hbusy)⟩
  · obtain ⟨hlive, hclosing, hunsent⟩ := h.toTracks.live hok hopen
    obtain ⟨l', hsteps, h'⟩ :=
      (h.ask_close hok hclosing hasCloseCb).send_close grpc hok hidle hempty rfl hunsent cb
    exact ⟨l', .head (.askClose l () hclosing) hsteps, h'⟩

private theorem onSent_refines (h : Refines s l) {call : Call Note} {index : Nat} {success : Bool}
    {received : Received} {m : StdString}
    (hcall : s.call.complete index success received = some (.clientSendMsg m, call))
    (cb : List Op) :
    ∃ l', Lane.Steps l l' ∧
      Refines (onSent grpc (runOps grpc cb) success { s with call := call }) l' := by
  cases success with
  | false =>
    obtain ⟨hflying, htracks⟩ := h.toTracks.completes_failed hcall
    have hfinish : Lane.Steps l l.finish := .single (.finish l (by simp [hflying]))
    obtain ⟨-, -, ⟨-, heq⟩ | ⟨hno, -⟩ | ⟨hno, -⟩ | ⟨hno, -⟩⟩ :=
      onSent_cases grpc (runOps grpc cb) h hflying call false
    case inl =>
      have hfailed : Writes { s with
          call := call, msgQueue := s.msgQueue.tail
          status := .internalError (lit "Failed to send message.") } l.finish.break_ :=
        h.of_complete hcall rfl htracks (fun _ => rfl) rfl
      refine ⟨_, hfinish.tail (.break_ _), ?_, Lane.settled_of_busy (.inr rfl)⟩
      rw [heq]
      split
      · exact hfailed.callback (by assumption) (.inl rfl) cb []
      · exact hfailed
    all_goals exact absurd hno (by simp)
  | true =>
    obtain ⟨hflying, htracks⟩ := h.toTracks.completes_sent hcall
    have hfinish : Lane.Steps l l.finish := .single (.finish l (by simp [hflying]))
    have hdone : Writes { s with call := call, msgQueue := s.msgQueue.tail } l.finish :=
      h.of_complete hcall rfl htracks (fun _ => rfl) rfl
    have hunsent : l.closeSent = false := Lane.unsent_of_flying hflying
    obtain ⟨hok, htail, ⟨hno, -⟩ | ⟨-, ⟨front, rest, hwaiting⟩, heq⟩ |
      ⟨-, hwaiting, hclosing, heq⟩ | ⟨-, hwaiting, hopen, heq⟩⟩ :=
      onSent_cases grpc (runOps grpc cb) h hflying call true
    · exact absurd hno (by simp)
    · have hqueue : s.msgQueue.tail = front :: rest := htail.trans hwaiting
      rw [heq]
      rcases Bool.eq_false_or_eq_true (grpc call.starts) with hgrpc | hgrpc
      · rw [sendNext_accepted (s := { s with call := call, msgQueue := s.msgQueue.tail })
          hok hqueue hgrpc]
        exact ⟨_, hfinish.tail (.start l.finish front rest hwaiting rfl (h.ok hok)),
          hdone.next_started hok rfl hwaiting hgrpc, Lane.settled_of_busy (.inl rfl)⟩
      · rw [sendNext_refused (s := { s with call := call, msgQueue := s.msgQueue.tail })
          hok hqueue hgrpc, tryToCallCloseCb_eq rfl]
        have hrefused := hdone.message_refused (m := front) hok rfl hunsent hgrpc s.msgQueue.tail
          (lit "Failed to write client-side streaming.")
        refine ⟨_, hfinish.tail (.break_ _), ?_, Lane.settled_of_busy (.inr rfl)⟩
        dsimp only
        split
        · exact hrefused.callback (by assumption) (.inl rfl) cb []
        · exact hrefused
    · rw [heq]
      obtain ⟨l', hsteps, h'⟩ := hdone.send_close grpc hok rfl hwaiting hclosing hunsent cb
      exact ⟨l', hfinish.trans hsteps, h'⟩
    · rw [heq]
      refine ⟨_, hfinish, hdone, fun hlive _ => ⟨hwaiting, fun hasked => ?_⟩⟩
      have hclosed := (h.closing hlive).symm.trans hopen
      simp at hasked
      simp [hclosed] at hasked

/-- The completion of the close batch changes the status, not the lane. -/
theorem onClosed_refines (h : Refines s l) {call : Call Note} {index : Nat} {success : Bool}
    {received : Received}
    (hcall : s.call.complete index success received = some (.clientWriterClose, call))
    (cb : List Op) : Refines (onClosed (runOps grpc cb) received { s with call := call }) l := by
  obtain ⟨hmem, -⟩ := Call.complete_subset hcall
  have hsent := h.closeOut hmem
  have hasked : l.broken = true ∨ l.closing.isSome = true := .inr (l.close_last hsent).2.2
  have htracks : Tracks reading { s.half with call := call } l :=
    h.toTracks.completes_silent rfl hcall
  have hdone : Writes { s with call := call } l := h.of_complete hcall rfl htracks h.rest rfl
  refine ⟨?_, h.settled⟩
  unfold onClosed
  by_cases hok : s.status.ok = true
  · have hclosing : s.isClosing = true := (h.closing (h.ok hok)).trans (l.close_last hsent).2.2
    simp only [hok, Bool.not_true, Bool.false_eq_true, if_false]
    split
    · exact (hdone.set_status hok hsent received.status).callback hclosing hasked cb []
    · cases received.recvBuf with
      | none => exact { hdone.check .getResultMsgRecvBuf false with }
      | some recvBuf =>
        exact (hdone.set_status hok hsent (getResultMsg recvBuf []).1).callback hclosing hasked cb _
  · simp only [Bool.not_eq_true] at hok
    simp only [hok, Bool.not_false, if_true]
    exact hdone.check .onClosedCloseCb (!s.closeCb)

private theorem doComplete_refines (h : Refines s l) {call : Call Note} {index : Nat}
    {success : Bool} {received : Received} {tag : CqTag}
    (hcall : s.call.complete index success received = some (tag, call)) (cb : List Op) :
    ∃ l', Lane.Steps l l' ∧ Refines
      (doComplete grpc (runOps grpc cb) tag success received { s with call := call }) l' := by
  obtain ⟨hmem, -⟩ := Call.complete_subset hcall
  have hown := h.own tag hmem
  cases tag with
  | clientSendMsg m => exact onSent_refines h hcall cb
  | clientWriterClose => exact ⟨l, .refl, onClosed_refines h hcall cb⟩
  | clientSendInitMd =>
    have htracks : Tracks reading { s.half with call := call } l :=
      h.toTracks.completes_silent rfl hcall
    exact ⟨l, .refl, h.of_complete hcall rfl htracks h.rest rfl, h.settled⟩
  | _ => simp [ownTag] at hown

theorem step_refines (h : Refines s l) {label : Label} {t : Impl}
    (hstep : step grpc s label = some t) : ∃ l', Lane.Steps l l' ∧ Refines t l' := by
  cases label with
  | op op =>
    obtain rfl := step_op hstep
    cases op with
    | write request cb => exact write_refines h request cb
    | close hasCloseCb cb => exact close_refines h hasCloseCb cb
  | complete index success received cb =>
    obtain ⟨tag, call, hcall, rfl⟩ := step_complete hstep
    exact doComplete_refines h hcall cb

theorem construct_eq (grpc : Nat → Bool) : clientAsyncWriterImpl grpc =
    { call := (({} : Call Note).startBatch grpc .clientSendInitMd).2
      status := if grpc 0 then .OK
        else .internalError (lit "Failed to init client-side streaming.") } := by
  rcases Bool.eq_false_or_eq_true (grpc 0) with hgrpc | hgrpc <;>
    simp [clientAsyncWriterImpl, Impl.startBatch, Impl.setInternalError, hgrpc]

theorem construct_refines (grpc : Nat → Bool) :
    ∃ l, Lane.Steps Lane.fresh l ∧ Refines (clientAsyncWriterImpl grpc) l := by
  have hbegins : AtEach Begins [.start .clientSendInitMd (grpc 0)] :=
    AtEach.snoc AtEach.nil (by simp [Begins])
  have hfresh := Tracks.fresh reading
  rcases Bool.eq_false_or_eq_true (grpc 0) with hgrpc | hgrpc
  · rw [construct_eq, if_pos hgrpc]
    refine ⟨Lane.fresh, .refl, ⟨?_, by simp, ?_, ?_, by simp, hbegins⟩, Lane.settled_fresh⟩
    · exact hfresh.silent (e := .start .clientSendInitMd (grpc 0)) rfl
        (by simp [Reading.sights, reading, hgrpc]) (by simp [hgrpc])
        (by simp [Reading.Lawful, reading])
    · simp [hgrpc, ownTag]
    · simp [hgrpc]
  · rw [construct_eq, if_neg (by simp [hgrpc])]
    refine ⟨Lane.fresh.break_, .single (.break_ _), ⟨?_, fun _ => rfl, ?_, ?_, by simp, hbegins⟩,
      Lane.settled_of_busy (.inr rfl)⟩
    · exact hfresh.breaks (e := .start .clientSendInitMd (grpc 0)) rfl
        (by simp [Reading.sights, reading, hgrpc]) (by simp [hgrpc])
        (by simp [Reading.Lawful, reading])
    · simp [hgrpc]
    · simp [hgrpc]

/-- Every run of the writer is a run of the lane. -/
theorem run_refines {ls : List Label}
    (hrun : (machine grpc).run (clientAsyncWriterImpl grpc) ls = some s) :
    ∃ l, Lane.Steps Lane.fresh l ∧ Refines s l :=
  Machine.invariant (M := machine grpc) (I := fun s => ∃ l, Lane.Steps Lane.fresh l ∧ Refines s l)
    (by
      rintro s label t ⟨l, hsteps, hl⟩ hstep
      obtain ⟨l', hsteps', hl'⟩ := step_refines hl hstep
      exact ⟨l', hsteps.trans hsteps', hl'⟩)
    (construct_refines grpc) hrun

end steps

end GrpcCbCore.Client.WriterImpl
