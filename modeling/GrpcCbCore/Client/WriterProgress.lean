import GrpcCbCore.Client.WriterDelivery
import GrpcCbCore.Library.Progress

/-! A `ClientAsyncWriterImpl` whose batches complete with success comes to an end: the
queue runs empty, and the close batch goes out if a Close was asked for. -/
namespace GrpcCbCore.Client.WriterImpl
open GrpcCbCore.Library

/-- grpc carries out what it has accepted, and the server sends its response; the user does
no more. -/
def Completes (s : Impl) : Label → Prop
  | .op _ => False
  | .complete index success received _ => success = true ∧
      (s.call.outstanding[index]? = some .clientWriterClose → ¬ Missing received)

/-- A completion makes this smaller, also where it starts the next batch. -/
def left (s : Impl) : Nat := s.call.outstanding.length + 2 * s.msgQueue.length

/-- Nothing is started, and nothing fails. -/
structure Still (s t : Impl) : Prop where
  crashed : t.crashed = s.crashed
  outstanding : t.call.outstanding = s.call.outstanding
  msgQueue : t.msgQueue = s.msgQueue
  failed : collect Event.failed t.call.log = collect Event.failed s.call.log

section still

variable {grpc : Nat → Bool} {s t u : Impl}

theorem Still.left (h : Still s t) : left t = left s := by
  rw [WriterImpl.left, WriterImpl.left, h.outstanding, h.msgQueue]

private theorem check_still (site : Site) (holds : Bool) : Still s (s.check site holds) := by
  unfold Impl.check
  split
  · exact ⟨rfl, rfl, rfl, rfl⟩
  · exact ⟨rfl, rfl, rfl, by simp⟩

private theorem callCloseCb_still (hclosing : s.isClosing = true) (status : Status) (cb : List Op)
    (sMsg : StdString) :
    Still s (callCloseCb (runOps grpc cb) sMsg { s with status := status }) := by
  rw [callCloseCb_closing (s := { s with status := status }) hclosing]
  split
  · have hnotes : ∀ ns : List Note, collect Event.failed (ns.map Event.note) = [] := by
      intro ns
      simp [collect]
    exact ⟨rfl, rfl, rfl, by rw [Call.notes_log, collect_append, hnotes, List.append_nil]⟩
  · exact ⟨rfl, rfl, rfl, rfl⟩

private theorem onClosed_still (hclosing : s.isClosing = true) (cb : List Op) {received : Received}
    (hpresent : ¬ Missing received) : Still s (onClosed (runOps grpc cb) received s) := by
  unfold onClosed
  split
  · exact check_still _ _
  · split
    · exact callCloseCb_still hclosing received.status cb []
    · next hgood =>
      simp only [Bool.not_eq_true', Bool.not_eq_false] at hgood
      cases hbuf : received.recvBuf with
      | none => exact absurd ⟨hgood, hbuf⟩ hpresent
      | some recvBuf => exact callCloseCb_still hclosing _ cb _

end still

section steps

variable {grpc : Nat → Bool} {s t : Impl} {l : Lane StdString Unit}

/-- A message that was sent is followed by the next, or by the close batch, or by nothing. -/
theorem onSent_progress (hgrpc : ∀ k, grpc k = true) (h : Refines s l) {call : Call Note}
    {index : Nat} {received : Received} {m : StdString}
    (hcall : s.call.complete index true received = some (.clientSendMsg m, call))
    (hclean : collect Event.failed s.call.log = []) (cb : List Op) :
    collect Event.failed (onSent grpc (runOps grpc cb) true { s with call := call }).call.log = [] ∧
      (onSent grpc (runOps grpc cb) true { s with call := call }).crashed = s.crashed ∧
      left (onSent grpc (runOps grpc cb) true { s with call := call }) < left s := by
  obtain ⟨hflying, -⟩ := h.toTracks.completes_sent hcall
  have hlength := Call.complete_length hcall
  have hlog := Call.complete_log hcall
  have hqueue : s.msgQueue.length = s.msgQueue.tail.length + 1 := by
    have hfront := h.front m hflying
    cases hq : s.msgQueue with
    | nil => simp [hq] at hfront
    | cons front rest => simp
  obtain ⟨hok, htail, ⟨hno, -⟩ | ⟨-, ⟨front, rest, hwaiting⟩, heq⟩ |
    ⟨-, hwaiting, hclosing, heq⟩ | ⟨-, hwaiting, hopen, heq⟩⟩ :=
    onSent_cases grpc (runOps grpc cb) h hflying call true
  · exact absurd hno (by simp)
  · rw [heq, sendNext_accepted (s := { s with call := call, msgQueue := s.msgQueue.tail })
      hok (htail.trans hwaiting) (hgrpc _)]
    refine ⟨by simp [hlog, hgrpc, hclean], rfl, ?_⟩
    · simp only [left, Call.startBatch_outstanding, hgrpc, if_true, List.length_append,
        List.length_singleton]
      omega
  · have hunsent : s.hasSentClose = false := h.sentClose.trans (Lane.unsent_of_flying hflying)
    rw [heq, sendClose_accepted (s := { s with call := call, msgQueue := s.msgQueue.tail })
      hok hclosing hunsent (hgrpc _)]
    refine ⟨by simp [hlog, hgrpc, hclean], rfl, ?_⟩
    · simp only [left, Call.startBatch_outstanding, hgrpc, if_true, List.length_append,
        List.length_singleton]
      omega
  · rw [heq]
    refine ⟨by simp [hlog, hclean], rfl, ?_⟩
    · simp only [left]
      omega

theorem step_progress (hgrpc : ∀ k, grpc k = true) (h : Refines s l) (hlive : l.broken = false)
    {label : Label} (hlabel : Completes s label) (hstep : step grpc s label = some t) :
    ∃ l', Lane.Steps l l' ∧ Refines t l' ∧ l'.broken = false ∧ t.crashed = false ∧
      left t < left s := by
  obtain ⟨l', hsteps, hrefines⟩ := step_refines h hstep
  refine ⟨l', hsteps, hrefines, ?_⟩
  rw [hrefines.clean]
  have hclean := h.clean.mp hlive
  cases label with
  | op op => exact absurd hlabel id
  | complete index success received cb =>
    obtain ⟨rfl, hpresent⟩ := hlabel
    have hrunning := step_running hstep
    obtain ⟨tag, call, hcall, rfl⟩ := step_complete hstep
    have hmem := (Call.complete_subset hcall).1
    have hlength := Call.complete_length hcall
    have hlog := Call.complete_log hcall
    cases tag with
    | clientSendMsg m =>
      obtain ⟨hnone, hsame, hless⟩ := onSent_progress hgrpc h hcall hclean cb
      exact ⟨hnone, hsame.trans hrunning, hless⟩
    | clientWriterClose =>
      have hclosing : s.isClosing = true :=
        (h.closing hlive).trans (l.close_last (h.closeOut hmem)).2.2
      have hstill : Still { s with call := call }
          (onClosed (runOps grpc cb) received { s with call := call }) :=
        onClosed_still (by exact hclosing) cb (hpresent (Call.complete_found hcall).1)
      refine ⟨hstill.failed.trans (by simp [hlog, hclean]), hstill.crashed.trans hrunning, ?_⟩
      rw [doComplete, hstill.left]
      simp only [left]
      omega
    | clientSendInitMd =>
      refine ⟨by simp [doComplete, hlog, hclean], hrunning, ?_⟩
      simp only [doComplete, left]
      omega
    | _ => exact absurd (h.own _ hmem) (by simp [ownTag])

theorem Refines.at_rest (h : Refines s l) (hlive : l.broken = false)
    (hnone : s.call.outstanding = []) :
    l.accepted = l.finished ∧ (l.closing.isSome = true → l.closeSent = true) := by
  have hidle : l.flying = none := by
    have hout := h.outstanding
    rw [Impl.half_call, hnone] at hout
    cases hflying : l.flying with
    | none => rfl
    | some m => simp [hflying] at hout
  obtain ⟨hempty, hclose⟩ := h.settled hlive hidle
  exact ⟨Lane.accepted_of_idle hidle hempty, hclose⟩

theorem Writes.asked_of_call (h : Writes s l) (hlive : l.broken = false)
    (hcall : collect closeCall s.call.log ≠ []) : l.closing.isSome = true := by
  rw [Ne, ← collect_flatMap_eq_nil _ fun e => (sights_columns e).2.2.2.1] at hcall
  rw [← h.ledger.asked hlive, List.isSome_head?]
  simpa using hcall

theorem stuck_outstanding (hrunning : s.crashed = false)
    (hstuck : (machine grpc).Stuck Completes s) : s.call.outstanding = [] := by
  cases hout : s.call.outstanding with
  | nil => rfl
  | cons tag rest =>
    have hstep : ∃ t, step grpc s
        (.complete 0 true { recvBuf := some (.readable []) } []) = some t := by
      simp [step, hrunning, Call.complete, hout]
    obtain ⟨t, ht⟩ := hstep
    have hgood : Completes s (.complete 0 true { recvBuf := some (.readable []) } []) :=
      ⟨rfl, by simp [Missing]⟩
    exact absurd ht (hstuck _ t hgood)

end steps

end GrpcCbCore.Client.WriterImpl
