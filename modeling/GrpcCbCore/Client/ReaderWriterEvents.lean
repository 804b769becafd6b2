import GrpcCbCore.Client.ReaderWriterActs

/-! What the completion of a message or of a read comes to. A message callback
that kills the object returns to `OnRead`, which then acts on a dead object. -/
namespace GrpcCbCore.Client.ReaderWriterImpl
open GrpcCbCore.Library Relation

/-- `OnSent` on a live object, `call` being what the completion makes of the call. -/
inductive Sent (grpc : Nat → Bool) (cb : List Op) (s : Impl) (call : Call Note) :
    Bool → Impl → Prop
  | failed (t : Impl)
      (herrored : Errored { s with call := call, msgQueue := s.msgQueue.tail } t) :
      Sent grpc cb s call false t
  | next (front : StdString) (rest : List StdString) (hqueue : s.msgQueue.tail = front :: rest)
      (hgrpc : grpc call.starts = true) :
      Sent grpc cb s call true { s with
        msgQueue := s.msgQueue.tail
        call := (call.startBatch grpc (.clientSendMsg front)).2 }
  | nextRefused (front : StdString) (rest : List StdString) (t : Impl)
      (hqueue : s.msgQueue.tail = front :: rest) (hgrpc : grpc call.starts = false)
      (herrored : Errored { s with
        msgQueue := s.msgQueue.tail
        call := (call.startBatch grpc (.clientSendMsg front)).2 } t) :
      Sent grpc cb s call true t
  | idle (hqueue : s.msgQueue.tail = []) (hopen : s.writingClosing = false) :
      Sent grpc cb s call true { s with call := call, msgQueue := s.msgQueue.tail }
  | closes (hqueue : s.msgQueue.tail = []) (hclosing : s.writingClosing = true)
      (hreading : s.readingEnded = false) (hgrpc : grpc call.starts = true) :
      Sent grpc cb s call true { s with
        msgQueue := s.msgQueue.tail, hasSentClose := true, writingEnded := true
        call := (call.startBatch grpc .clientSendClose).2 }
  | ends (hqueue : s.msgQueue.tail = []) (hclosing : s.writingClosing = true)
      (hreading : s.readingEnded = true) (hgrpc : grpc call.starts = true) :
      Sent grpc cb s call true (callStatusCb (runOps grpc cb) { s with
        msgQueue := s.msgQueue.tail, hasSentClose := true, writingEnded := true
        call := (call.startBatch grpc .clientSendClose).2 })
  | closeRefused (t : Impl) (hqueue : s.msgQueue.tail = []) (hclosing : s.writingClosing = true)
      (hgrpc : grpc call.starts = false)
      (herrored : Errored { s with
        msgQueue := s.msgQueue.tail, hasSentClose := true, writingEnded := true
        call := (call.startBatch grpc .clientSendClose).2 } t) :
      Sent grpc cb s call true t

/-- `OnRead` once the message callback has returned. -/
def goesOn (grpc : Nat → Bool) (script : Script) (u : Impl) : Impl :=
  if !script.msgCbResult.ok then
    endOnErrorStatus (runOps grpc script.statusCb) script.msgCbResult
      (u.note (.msgCbReturns script.msgCbResult))
  else readNext grpc (runOps grpc script.statusCb) (u.note (.msgCbReturns script.msgCbResult))

inductive Heard (grpc : Nat → Bool) (script : Script) (s : Impl) (call : Call Note) :
    Bool → Received → Impl → Prop
  | failed (received : Received) (t : Impl) (herrored : Errored { s with call := call } t) :
      Heard grpc script s call false received t
  | closes (received : Received) (hnone : received.recvBuf = none)
      (hwriting : s.writingEnded = false) :
      Heard grpc script s call true received { s with call := call, readingEnded := true }
  | ends (received : Received) (hnone : received.recvBuf = none)
      (hwriting : s.writingEnded = true) :
      Heard grpc script s call true received
        (callStatusCb (runOps grpc script.statusCb) { s with call := call, readingEnded := true })
  | garbled (received : Received) (t : Impl) (hbuf : received.recvBuf = some .unreadable)
      (herrored : Errored { s with call := call } t) : Heard grpc script s call true received t
  | reads (received : Received) (bytes : StdString)
      (hbuf : received.recvBuf = some (.readable bytes)) (hcb : s.msgCb = false)
      (hgrpc : grpc call.starts = true) :
      Heard grpc script s call true received { s with
        call := (call.startBatch grpc .clientReaderRead).2 }
  | readRefused (received : Received) (bytes : StdString) (t : Impl)
      (hbuf : received.recvBuf = some (.readable bytes)) (hcb : s.msgCb = false)
      (hgrpc : grpc call.starts = false)
      (herrored : Errored { s with call := (call.startBatch grpc .clientReaderRead).2 } t) :
      Heard grpc script s call true received t
  | hears (received : Received) (bytes : StdString)
      (hbuf : received.recvBuf = some (.readable bytes)) (hcb : s.msgCb = true) :
      Heard grpc script s call true received
        (goesOn grpc script (runOps grpc script.msgCb { s with call := call.note (.msgCb bytes) }))

/-- What a dead object notes when `OnRead` acts on it. -/
def Ghostly : Note → Prop
  | .fault _ | .msgCbReturns _ => True
  | .status status => status.ok = false
  | _ => False

/-- `OnRead` on an object that its message callback has killed. -/
structure Undead (grpc : Nat → Bool) (u t : Impl) : Prop where
  call : ∃ ns ms, (∀ n ∈ ns ++ ms, Ghostly n) ∧ ((t.call = u.call.notes (ns ++ ms)) ∨
    t.call = ((u.call.notes ns).startBatch grpc .clientReaderRead).2.notes ms)
  failed : t.status.ok = false
  closing : t.writingClosing = u.writingClosing
  started : t.readingStarted = u.readingStarted
  statusCb : t.statusCb = u.statusCb
  readingEnded : u.readingEnded = true → t.readingEnded = true
  writingEnded : u.writingEnded = true → t.writingEnded = true
  msgQueue : t.msgQueue = u.msgQueue
  hasSentClose : t.hasSentClose = u.hasSentClose

section sent

variable {grpc : Nat → Bool} {s : Impl}

private theorem callStatusCb_silenced (cb : Impl → Impl) (hcb : s.statusCb = false) :
    callStatusCb cb s = s := by
  simp [callStatusCb, hcb]

/-- The last message of a closing object is sent: the half-close follows, and the
status callback if the reading has ended. -/
theorem onSent_closes {cb : List Op} {call : Call Note} {t : Impl} (hok : s.status.ok = true)
    (hqueue : s.msgQueue ≠ []) (htail : s.msgQueue.tail = [])
    (hclosing : s.writingClosing = true) (hunsent : s.hasSentClose = false)
    (hsent : onSent grpc (runOps grpc cb) true { s with call := call } = t) :
    Sent grpc cb s call true t := by
  have hbusy : s.msgQueue.isEmpty = false := by simpa using hqueue
  have hlast : s.msgQueue.tail.isEmpty = true := by simp [htail]
  -- Whether the half-close is refused or not, `OnSent` then looks at the reading.
  have heq : ∀ u, sendClose grpc (runOps grpc cb)
        { s with call := call, msgQueue := s.msgQueue.tail } = u →
      u.writingEnded = true →
      (if u.readingEnded then callStatusCb (runOps grpc cb) u else u) = t := by
    intro u hu hended
    rw [hclosing] at hu
    simpa [onSent, hok, hbusy, hlast, hclosing, hu, hended] using hsent
  rcases Bool.eq_false_or_eq_true (grpc call.starts) with hgrpc | hgrpc
  · rw [← heq _ (sendClose_accepted (by exact hok) (by exact hclosing) (by exact hunsent)
      (by exact hgrpc)) rfl]
    split
    · next hreading => exact .ends htail hclosing hreading hgrpc
    · next hreading => exact .closes htail hclosing (by simpa using hreading) hgrpc
  · have herrored := sendClose_refused
      (s := { s with call := call, msgQueue := s.msgQueue.tail }) hok hclosing hunsent hgrpc cb
    rw [← heq _ rfl herrored.writingEnded, if_pos herrored.readingEnded,
      callStatusCb_silenced _ herrored.statusCb]
    exact .closeRefused _ htail hclosing hgrpc herrored

theorem onSent_cases (grpc : Nat → Bool) (cb : List Op) (hok : s.status.ok = true)
    (hqueue : s.msgQueue ≠ []) (hunsent : s.hasSentClose = false) (call : Call Note)
    (success : Bool) :
    Sent grpc cb s call success (onSent grpc (runOps grpc cb) success { s with call := call }) := by
  have hbusy : s.msgQueue.isEmpty = false := by simpa using hqueue
  generalize hsent : onSent grpc (runOps grpc cb) success { s with call := call } = t
  cases success with
  | false =>
    obtain rfl : setInternalError (runOps grpc cb) (lit "Failed to send message.")
        { s with call := call, msgQueue := s.msgQueue.tail } = t := by
      simpa [onSent, hok, hbusy] using hsent
    exact .failed _ (setInternalError_errored (by exact hok) cb _)
  | true =>
    cases htail : s.msgQueue.tail with
    | cons front rest =>
      obtain rfl : (sendNext grpc (runOps grpc cb)
          { s with call := call, msgQueue := s.msgQueue.tail }).2 = t := by
        simpa [onSent, hok, hbusy, htail] using hsent
      rcases Bool.eq_false_or_eq_true (grpc call.starts) with hgrpc | hgrpc
      · rw [sendNext_accepted (by exact hok) htail (by exact hgrpc)]
        exact .next front rest htail hgrpc
      · have herrored := (sendNext_refused
          (s := { s with call := call, msgQueue := s.msgQueue.tail }) hok htail hgrpc cb).2
        exact .nextRefused front rest _ htail hgrpc herrored
    | nil =>
      rcases Bool.eq_false_or_eq_true s.writingClosing with hclosing | hclosing
      · exact onSent_closes hok hqueue htail hclosing hunsent hsent
      · obtain rfl : { s with call := call, msgQueue := s.msgQueue.tail } = t := by
          simpa [onSent, hok, hbusy, htail, hclosing] using hsent
        exact .idle htail hclosing

theorem onSent_dead {cb : Impl → Impl} (hfailed : s.status.ok = false) (hcb : s.statusCb = false)
    (hqueue : s.msgQueue ≠ []) (call : Call Note) (success : Bool) :
    onSent grpc cb success { s with call := call } =
      { s with call := call, msgQueue := s.msgQueue.tail } := by
  have hbusy : s.msgQueue.isEmpty = false := by simpa using hqueue
  simp [onSent, hbusy, hfailed, hcb]

end sent

section heard

variable {grpc : Nat → Bool} {s u : Impl}

theorem onRead_cases (grpc : Nat → Bool) (script : Script) (hok : s.status.ok = true)
    (hstarted : s.readingStarted = true) (call : Call Note) (success : Bool)
    (received : Received) :
    Heard grpc script s call success received
      (onRead grpc (fun s => (script.msgCbResult, runOps grpc script.msgCb s))
        (runOps grpc script.statusCb) success received { s with call := call }) := by
  generalize hread : onRead grpc (fun s => (script.msgCbResult, runOps grpc script.msgCb s))
    (runOps grpc script.statusCb) success received { s with call := call } = t
  cases success with
  | false =>
    obtain rfl : setInternalError (runOps grpc script.statusCb)
        (lit "ClientReaderReadCqTag failed.") { s with call := call } = t := by
      simpa [onRead, hok, hstarted] using hread
    exact .failed received _ (setInternalError_errored (by exact hok) _ _)
  | true =>
    cases hbuf : received.recvBuf with
    | none =>
      obtain rfl : (if s.writingEnded then callStatusCb (runOps grpc script.statusCb)
            { s with call := call, readingEnded := true }
          else { s with call := call, readingEnded := true }) = t := by
        simpa [onRead, hok, hstarted, hbuf] using hread
      split
      · next hwriting => exact .ends received hbuf hwriting
      · next hwriting => exact .closes received hbuf (by simpa using hwriting)
    | some recvBuf =>
      cases recvBuf with
      | unreadable =>
        obtain rfl : endOnErrorStatus (runOps grpc script.statusCb)
            (.internalError (lit "Failed to read recv byte buffer."))
            { s with call := call } = t := by
          simpa [onRead, hok, hstarted, hbuf, getResultMsg, byteBufferToString] using hread
        exact .garbled received _ hbuf
          (endOnErrorStatus_errored (by exact hok) (Status.ok_internalError _) _)
      | readable bytes =>
        rcases Bool.eq_false_or_eq_true s.msgCb with hcb | hcb
        · obtain rfl : goesOn grpc script
              (runOps grpc script.msgCb { s with call := call.note (.msgCb bytes) }) = t := by
            simpa [onRead, hok, hstarted, hbuf, getResultMsg, byteBufferToString, hcb, goesOn,
              Impl.note] using hread
          exact .hears received bytes hbuf hcb
        · obtain rfl : readNext grpc (runOps grpc script.statusCb) { s with call := call } = t := by
            simpa [onRead, hok, hstarted, hbuf, getResultMsg, byteBufferToString, hcb] using hread
          rcases Bool.eq_false_or_eq_true (grpc call.starts) with hgrpc | hgrpc
          · rw [readNext_accepted (by exact hok) (by exact hgrpc)]
            exact .reads received bytes hbuf hcb hgrpc
          · have herrored := readNext_refused (s := { s with call := call }) hok hgrpc
              script.statusCb
            exact .readRefused received bytes _ hbuf hcb hgrpc herrored

theorem onRead_dead {msgCb : Impl → Status × Impl} {cb : Impl → Impl}
    (hfailed : s.status.ok = false) (hcb : s.statusCb = false) (hstarted : s.readingStarted = true)
    (call : Call Note) (success : Bool) (received : Received) :
    onRead grpc msgCb cb success received { s with call := call } = { s with call := call } := by
  simp [onRead, hstarted, hfailed, hcb]

theorem goesOn_cases (grpc : Nat → Bool) (script : Script) (hok : u.status.ok = true) :
    Errored (u.note (.msgCbReturns script.msgCbResult)) (goesOn grpc script u) ∨
    (grpc u.call.starts = true ∧ goesOn grpc script u = { u with
      call := ((u.call.note (.msgCbReturns script.msgCbResult)).startBatch grpc
        .clientReaderRead).2 }) ∨
    (grpc u.call.starts = false ∧ Errored { u with
      call := ((u.call.note (.msgCbReturns script.msgCbResult)).startBatch grpc
        .clientReaderRead).2 } (goesOn grpc script u)) := by
  unfold goesOn
  rcases Bool.eq_false_or_eq_true script.msgCbResult.ok with hresult | hresult
  · rw [if_neg (by simp [hresult])]
    rcases Bool.eq_false_or_eq_true (grpc u.call.starts) with hgrpc | hgrpc
    · rw [readNext_accepted (by exact hok) (by exact hgrpc)]
      exact .inr (.inl ⟨hgrpc, rfl⟩)
    · exact .inr (.inr ⟨hgrpc, readNext_refused (s := u.note (.msgCbReturns script.msgCbResult))
        hok hgrpc script.statusCb⟩)
  · rw [if_pos (by simp [hresult])]
    exact .inl (endOnErrorStatus_errored (by exact hok) hresult _)

theorem endOnErrorStatus_dead (cb : Impl → Impl) {error : Status} (herror : error.ok = false)
    (hfailed : s.status.ok = false) (hcb : s.statusCb = false) :
    endOnErrorStatus cb error s = { s with
      call := s.call.notes [.fault .endOnErrorStatusStatus, .status error], status := error
      readingEnded := true, writingEnded := true } := by
  simp [endOnErrorStatus, herror, hfailed, Impl.check, Impl.setStatus, callStatusCb, hcb, Impl.note,
    Call.note, Call.notes]

theorem readNext_dead (cb : Impl → Impl) (hfailed : s.status.ok = false)
    (hcb : s.statusCb = false) :
    readNext grpc cb s = if grpc s.call.starts then { s with
        call := ((s.call.note (.fault .readNextStatus)).startBatch grpc .clientReaderRead).2 }
      else { s with
        call := ((s.call.note (.fault .readNextStatus)).startBatch grpc .clientReaderRead).2.notes
          [.fault .setInternalErrorStatus, .fault .endOnErrorStatusStatus,
            .status (.internalError (lit "Failed to async read bi-directional streaming."))]
        status := .internalError (lit "Failed to async read bi-directional streaming.")
        readingEnded := true, writingEnded := true } := by
  have hcheck : s.check .readNextStatus s.status.ok = s.note (.fault .readNextStatus) := by
    simp [Impl.check, hfailed]
  rw [readNext, hcheck]
  rcases Bool.eq_false_or_eq_true (grpc s.call.starts) with hgrpc | hgrpc
  · simp [Impl.startBatch, hgrpc]
  · simp only [Impl.startBatch, Call.startBatch_fst, Impl.note_call, Call.note_starts, hgrpc,
      Bool.false_eq_true, if_false]
    rw [setInternalError, endOnErrorStatus_dead _ (Status.ok_internalError _)]
    · simp [Impl.check, hfailed, Impl.note]
    · simp [Impl.check, hfailed]
    · simp [Impl.check, hfailed, hcb]

theorem goesOn_dead (script : Script) (hfailed : u.status.ok = false)
    (hcb : u.statusCb = false) : Undead grpc u (goesOn grpc script u) := by
  unfold goesOn
  split
  · next hresult =>
    have hresult : script.msgCbResult.ok = false := by simpa using hresult
    rw [endOnErrorStatus_dead _ hresult (by exact hfailed) (by exact hcb)]
    refine ⟨⟨[.msgCbReturns script.msgCbResult, .fault .endOnErrorStatusStatus,
      .status script.msgCbResult], [], ?_, .inl ?_⟩, hresult, rfl, rfl, rfl, ?_, ?_,
      rfl, rfl⟩
    · simp [Ghostly, hresult]
    · simp
    · exact fun _ => rfl
    · exact fun _ => rfl
  · have hnotes : (u.call.note (.msgCbReturns script.msgCbResult)).note (.fault .readNextStatus) =
        u.call.notes [.msgCbReturns script.msgCbResult, .fault .readNextStatus] := by
      simp [Call.note, Call.notes]
    rw [readNext_dead _ (by exact hfailed) (by exact hcb), Impl.note_call, hnotes]
    split
    · refine ⟨⟨[.msgCbReturns script.msgCbResult, .fault .readNextStatus], [], ?_, .inr ?_⟩,
        hfailed, rfl, rfl, rfl, ?_, ?_, rfl, rfl⟩
      · simp [Ghostly]
      · rw [Call.notes_nil]
      · exact id
      · exact id
    · refine ⟨⟨[.msgCbReturns script.msgCbResult, .fault .readNextStatus],
        [.fault .setInternalErrorStatus, .fault .endOnErrorStatusStatus,
          .status (.internalError (lit "Failed to async read bi-directional streaming."))],
        ?_, .inr rfl⟩, Status.ok_internalError _, rfl, rfl, rfl, ?_, ?_, rfl, rfl⟩
      · simp [Ghostly]
      · exact fun _ => rfl
      · exact fun _ => rfl

end heard

end GrpcCbCore.Client.ReaderWriterImpl
