import GrpcCbCore.Client.WriterDelivery

/-! A `ClientAsyncWriterImpl` calls its close callback once, and tells it how
the call ended. -/
namespace GrpcCbCore.Client.WriterImpl
open GrpcCbCore.Library

@[simp] def closeCbCall : Event Note → Option (Status × StdString)
  | .note (.closeCb status sMsg) => some (status, sMsg)
  | _ => none

@[simp] def closeReceived : Event Note → Option Received
  | .complete .clientWriterClose _ received => some received
  | _ => none

def closeOutstanding (s : Impl) : List CqTag :=
  s.call.outstanding.filter (· = .clientWriterClose)

/-- What the close batch comes to: the server's error, or the response, if there is one. -/
def verdict (received : Received) : Option (Status × StdString) :=
  if received.status.ok then received.recvBuf.map fun recvBuf => getResultMsg recvBuf []
  else some (received.status, [])

/-- The result a callback is told is an internal error if anything failed, else
that of the close batch. -/
def Verdict (history : List (Event Note)) (told : Status × StdString) : Prop :=
  (collect Event.failed history ≠ [] → told.1.code = .internal) ∧
  (collect Event.failed history = [] →
    ∃ received, collect closeReceived history = [received] ∧ some told = verdict received)

/-- The life of a writer: it failed, or it goes from writing over waiting for
the close batch to being closed, or to the read of a null response. -/
inductive Phase (s : Impl) : Prop
  | failed (hfailed : collect Event.failed s.call.log ≠ []) (hcode : s.status.code = .internal)
      (hdue : s.isClosing = true → s.closeCb = false) (hout : closeOutstanding s = [])
  | writing (hclean : collect Event.failed s.call.log = []) (hunsent : s.hasSentClose = false)
      (hstatus : s.status = .OK) (hout : closeOutstanding s = [])
      (hreceived : collect closeReceived s.call.log = [])
      (huncalled : collect closeCbCall s.call.log = [])
  | closing (hclean : collect Event.failed s.call.log = []) (hsent : s.hasSentClose = true)
      (hstatus : s.status = .OK) (hout : closeOutstanding s = [.clientWriterClose])
      (hreceived : collect closeReceived s.call.log = [])
      (huncalled : collect closeCbCall s.call.log = [])
  | closed (received : Received) (hclean : collect Event.failed s.call.log = [])
      (hsent : s.hasSentClose = true) (hreceived : collect closeReceived s.call.log = [received])
      (hout : closeOutstanding s = []) (hdone : s.closeCb = false)
  | crashed (received : Received) (hclean : collect Event.failed s.call.log = [])
      (hsent : s.hasSentClose = true) (hreceived : collect closeReceived s.call.log = [received])
      (hmissing : Missing received) (hout : closeOutstanding s = []) (hcrashed : s.crashed = true)

/-- The callback is the one of the first Close until it was called, once. -/
structure Closes (s : Impl) : Prop where
  asked : s.isClosing = true ↔ collect closeCall s.call.log ≠ []
  phase : Phase s
  called : (collect closeCbCall s.call.log = [] ∧
      (s.isClosing = true → (collect closeCall s.call.log).head? = some s.closeCb)) ∨
    (s.isClosing = true ∧ s.closeCb = false ∧
      ∃ told, collect closeCbCall s.call.log = [told] ∧ Verdict s.call.log told)

/-- An error has come up, and the callback, if a Close has set one, is due. -/
structure Due (s : Impl) : Prop where
  failed : collect Event.failed s.call.log ≠ []
  code : s.status.code = .internal
  out : closeOutstanding s = []
  uncalled : collect closeCbCall s.call.log = []
  asked : s.isClosing = true ↔ collect closeCall s.call.log ≠ []
  first : s.isClosing = true → (collect closeCall s.call.log).head? = some s.closeCb

section closes

variable {grpc : Nat → Bool} {s t : Impl}

theorem ignored_silent (ops : List Op) :
    collect Event.failed (ops.map (Event.note ∘ Op.ignored)) = [] ∧
    collect closeReceived (ops.map (Event.note ∘ Op.ignored)) = [] ∧
    collect closeCbCall (ops.map (Event.note ∘ Op.ignored)) = [] := by
  induction ops with
  | nil => simp
  | cons op ops ih =>
    obtain ⟨hfailed, hreceived, hcalled⟩ := ih
    cases op <;> simp [Op.ignored, hfailed, hreceived, hcalled]

theorem Due.settle (grpc : Nat → Bool) (h : Due s) (cb : List Op) :
    Closes (if s.isClosing then callCloseCb (runOps grpc cb) [] s else s) := by
  cases hclosing : s.isClosing with
  | false =>
    have hphase : Phase s := .failed h.failed h.code (by simp [hclosing]) h.out
    exact ⟨by simpa [hclosing] using h.asked, hphase, .inl ⟨h.uncalled, h.first⟩⟩
  | true =>
    rw [if_pos rfl, callCloseCb_closing hclosing]
    have hasked := h.asked.mp hclosing
    cases hcb : s.closeCb with
    | false =>
      have hphase : Phase s := .failed h.failed h.code (fun _ => hcb) h.out
      exact ⟨h.asked, hphase, .inl ⟨h.uncalled, h.first⟩⟩
    | true =>
      obtain ⟨hfailed, -, hcalled⟩ := ignored_silent cb
      refine ⟨?_, .failed ?_ h.code (fun _ => rfl) h.out, .inr ⟨hclosing, rfl, (s.status, []), ?_,
        fun _ => h.code, fun hclean => ?_⟩⟩
      · simp [hclosing, hasked]
      · simp [h.failed]
      · simp [h.uncalled, hcalled]
      · simp [h.failed] at hclean

theorem Closes.frame (h : Closes s) (more : List (Event Note))
    (hlog : t.call.log = s.call.log ++ more) (hfailed : collect Event.failed more = [])
    (hreceived : collect closeReceived more = []) (hcalled : collect closeCbCall more = [])
    (hcloses : collect closeCall more = [] ∨ s.isClosing = true)
    (hout : closeOutstanding t = closeOutstanding s)
    (hsame : t = { s with call := t.call, msgQueue := t.msgQueue }) : Closes t := by
  have hstatus : t.status = s.status := by rw [hsame]
  have hcb : t.closeCb = s.closeCb := by rw [hsame]
  have hclosing : t.isClosing = s.isClosing := by rw [hsame]
  have hsent : t.hasSentClose = s.hasSentClose := by rw [hsame]
  have hcrashed : t.crashed = s.crashed := by rw [hsame]
  have hasked : t.isClosing = true ↔ collect closeCall t.call.log ≠ [] := by
    rw [hclosing, hlog, collect_append]
    rcases hcloses with hnone | hyes
    · rw [hnone, List.append_nil]
      exact h.asked
    · simp [hyes, h.asked.mp hyes]
  refine ⟨hasked, ?_, ?_⟩
  · rcases h.phase with ⟨hf, hcode, hdue, ho⟩ | ⟨hclean, hs, hst, ho, hr, hu⟩ |
      ⟨hclean, hs, hst, ho, hr, hu⟩ | ⟨received, hclean, hs, hr, ho, hd⟩ |
      ⟨received, hclean, hs, hr, hmissing, ho, hc⟩
    · exact .failed (by simp [hlog, hf]) (hstatus ▸ hcode) (by rwa [hclosing, hcb])
        (hout.trans ho)
    · exact .writing (by simp [hlog, hclean, hfailed]) (hsent.trans hs) (hstatus.trans hst)
        (hout.trans ho) (by simp [hlog, hr, hreceived]) (by simp [hlog, hu, hcalled])
    · exact .closing (by simp [hlog, hclean, hfailed]) (hsent.trans hs) (hstatus.trans hst)
        (hout.trans ho) (by simp [hlog, hr, hreceived]) (by simp [hlog, hu, hcalled])
    · exact .closed received (by simp [hlog, hclean, hfailed]) (hsent.trans hs)
        (by simp [hlog, hr, hreceived]) (hout.trans ho) (hcb.trans hd)
    · exact .crashed received (by simp [hlog, hclean, hfailed]) (hsent.trans hs)
        (by simp [hlog, hr, hreceived]) hmissing (hout.trans ho) (hcrashed.trans hc)
  · rcases h.called with ⟨hu, hfirst⟩ | ⟨hyes, hcb', told, htold, hverdict⟩
    · refine .inl ⟨by simp [hlog, hu, hcalled], fun hyes => ?_⟩
      rw [hclosing] at hyes
      rw [hlog, collect_append, hcb]
      exact (List.head?_append_of_ne_nil _ (h.asked.mp hyes)).trans (hfirst hyes)
    · refine .inr ⟨hclosing.trans hyes, hcb.trans hcb', told, by simp [hlog, htold, hcalled], ?_⟩
      simpa [Verdict, hlog, hfailed, hreceived] using hverdict

theorem Closes.writing (h : Closes s) (hok : s.status.ok = true)
    (hunsent : s.hasSentClose = false) :
    collect Event.failed s.call.log = [] ∧ s.status = .OK ∧ closeOutstanding s = [] ∧
      collect closeReceived s.call.log = [] ∧ collect closeCbCall s.call.log = [] := by
  rcases h.phase with ⟨-, hcode, -, -⟩ | ⟨hclean, -, hst, ho, hr, hu⟩ | ⟨-, hs, -, -, -, -⟩ |
    ⟨-, -, hs, -, -, -⟩ | ⟨-, -, hs, -, -, -, -⟩
  · simp [Status.ok, hcode] at hok
  · exact ⟨hclean, hst, ho, hr, hu⟩
  all_goals simp [hunsent] at hs

/-- An error of a writer that is still writing makes the callback due. -/
theorem Closes.due (h : Closes s) (hok : s.status.ok = true) (hunsent : s.hasSentClose = false)
    (more : List (Event Note)) (hlog : t.call.log = s.call.log ++ more)
    (hfailed : collect Event.failed more ≠ []) (hcalled : collect closeCbCall more = [])
    (hcloses : collect closeCall more = []) (hout : closeOutstanding t = closeOutstanding s)
    (hcode : t.status.code = .internal) (hcb : t.closeCb = s.closeCb)
    (hclosing : t.isClosing = s.isClosing) : Due t := by
  obtain ⟨hclean, -, hnone, -, huncalled⟩ := h.writing hok hunsent
  refine ⟨by simp [hlog, hfailed], hcode, hout.trans hnone, by simp [hlog, huncalled, hcalled],
    ?_, ?_⟩
  · simp only [hlog, collect_append, hcloses, List.append_nil, hclosing]
    exact h.asked
  · simp only [hlog, collect_append, hcloses, List.append_nil, hclosing, hcb]
    rcases h.called with ⟨-, hfirst⟩ | ⟨-, -, told, htold, -⟩
    · exact hfirst
    · simp [huncalled] at htold

theorem Closes.send_close (h : Closes s) (hok : s.status.ok = true)
    (hunsent : s.hasSentClose = false) (hclosing : s.isClosing = true) (cb : List Op) :
    Closes (sendClose grpc (runOps grpc cb) s) := by
  obtain ⟨hclean, hstatus, hnone, hreceived, huncalled⟩ := h.writing hok hunsent
  rcases Bool.eq_false_or_eq_true (grpc s.call.starts) with hgrpc | hgrpc
  · rw [sendClose_accepted hok hclosing hunsent hgrpc]
    have hout : closeOutstanding { s with
        call := (s.call.startBatch grpc .clientWriterClose).2, hasSentClose := true } =
        [.clientWriterClose] := by
      simpa [closeOutstanding, hgrpc] using hnone
    refine ⟨by simpa using h.asked, .closing ?_ rfl hstatus hout ?_ ?_, .inl ⟨?_, ?_⟩⟩
    · simp [hclean, hgrpc]
    · simp [hreceived]
    · simp [huncalled]
    · simp [huncalled]
    · rcases h.called with ⟨-, hfirst⟩ | ⟨-, -, told, htold, -⟩
      · simpa using hfirst
      · simp [huncalled] at htold
  · rw [sendClose_refused hok hclosing hunsent hgrpc]
    have hdue : Due { s with
        call := (s.call.startBatch grpc .clientWriterClose).2, hasSentClose := true
        status := .internalError (lit "Failed to close client-side streaming.") } :=
      h.due hok hunsent [.start .clientWriterClose false] (by simp [hgrpc]) (by simp)
        (by simp) (by simp) (by simp [closeOutstanding, hgrpc]) rfl rfl rfl
    have hsettled := hdue.settle grpc cb
    simpa [hclosing] using hsettled

theorem Closes.ask_close (h : Closes s) (hok : s.status.ok = true)
    (hunsent : s.hasSentClose = false) (hopen : s.isClosing = false) (hasCloseCb : Bool) :
    Closes { s.note (.close hasCloseCb) with isClosing := true, closeCb := hasCloseCb } := by
  obtain ⟨hclean, hstatus, hnone, hreceived, huncalled⟩ := h.writing hok hunsent
  have hnoClose : collect closeCall s.call.log = [] := by
    by_contra hasked
    simp [h.asked.mpr hasked] at hopen
  refine ⟨by simp, .writing ?_ hunsent hstatus hnone ?_ ?_, .inl ⟨?_, fun _ => ?_⟩⟩
  · simp [hclean]
  · simp [hreceived]
  · simp [huncalled]
  · simp [huncalled]
  · simp [hnoClose]

end closes

section steps

variable {grpc : Nat → Bool} {s : Impl} {l : Lane StdString Unit}

private theorem write_closes (h : Refines s l) (hc : Closes s) (request : StdString)
    (cb : List Op) : Closes (runOp grpc (.write request cb) s) := by
  rw [runOp]
  obtain ⟨-, heq⟩ | ⟨hok, hopen, hbusy, heq⟩ | ⟨hok, hopen, hidle, hempty, hgrpc, heq⟩ |
    ⟨hok, hopen, hidle, hgrpc, heq⟩ := write_cases grpc (runOps grpc cb) h request <;> rw [heq]
  · exact hc.frame [.note (.write request false)] rfl rfl rfl rfl (.inl rfl) rfl rfl
  · exact hc.frame [.note (.write request true)] rfl rfl rfl rfl (.inl rfl) rfl rfl
  · exact hc.frame [.start (.clientSendMsg request) true, .note (.write request true)]
      (by simp [hgrpc]) rfl rfl rfl (.inl rfl) (by simp [closeOutstanding, hgrpc]) rfl
  · have hunsent : s.hasSentClose = false := h.sentClose.trans (h.live hok hopen).2.2
    have hdue : Due { s with
        msgQueue := [request]
        call := (s.call.startBatch grpc (.clientSendMsg request)).2
        status := .internalError (lit "Failed to write client-side streaming.") } :=
      hc.due hok hunsent [.start (.clientSendMsg request) false] (by simp [hgrpc])
        (by simp) rfl rfl (by simp [closeOutstanding, hgrpc]) rfl rfl rfl
    have hsettled := hdue.settle grpc cb
    rw [if_neg (by simp [hopen])] at hsettled
    exact hsettled.frame [.note (.write request false)] rfl rfl rfl rfl (.inl rfl) rfl rfl

private theorem close_closes (h : Refines s l) (hc : Closes s) (hasCloseCb : Bool) (cb : List Op) :
    Closes (runOp grpc (.close hasCloseCb cb) s) := by
  rw [runOp]
  obtain ⟨hclosing, heq⟩ | ⟨hopen, hfailed, hbroken, heq⟩ | ⟨hopen, hok, hbusy, heq⟩ |
    ⟨hopen, hok, hidle, hempty, heq⟩ :=
    close_cases grpc (runOps grpc cb) h (.close hasCloseCb) hasCloseCb <;> rw [heq]
  · exact hc.frame [.note (.close hasCloseCb)] rfl rfl rfl rfl (.inr hclosing) rfl rfl
  · have hnoClose : collect closeCall s.call.log = [] := by
      by_contra hasked
      simp [hc.asked.mpr hasked] at hopen
    have hdue : Due { s.note (.close hasCloseCb) with
        isClosing := true, closeCb := hasCloseCb } := by
      have hbad : collect Event.failed s.call.log ≠ [] := by
        rw [Ne, ← h.clean]
        simp [hbroken]
      rcases hc.phase with ⟨-, hcode, -, ho⟩ | ⟨hclean, -⟩ | ⟨hclean, -⟩ | ⟨-, hclean, -⟩ |
        ⟨-, hclean, -⟩
      · rcases hc.called with ⟨huncalled, -⟩ | ⟨hyes, -⟩
        · exact ⟨by simp [hbad], hcode, ho, by simp [huncalled], by simp, by simp [hnoClose]⟩
        · simp [hopen] at hyes
      all_goals exact absurd hclean hbad
    exact hdue.settle grpc cb
  · exact hc.ask_close hok (h.sentClose.trans (h.live hok hopen).2.2) hopen hasCloseCb
  · have hunsent : s.hasSentClose = false := h.sentClose.trans (h.live hok hopen).2.2
    exact (hc.ask_close hok hunsent hopen hasCloseCb).send_close hok hunsent rfl cb

private theorem closeOutstanding_complete {call : Call Note} {index : Nat} {success : Bool}
    {received : Received} {tag : CqTag}
    (hcall : s.call.complete index success received = some (tag, call))
    (htag : tag ≠ .clientWriterClose) {t : Impl} (ht : t.call.outstanding = call.outstanding) :
    closeOutstanding t = closeOutstanding s := by
  obtain ⟨before, after, hsplit, rfl⟩ := Call.complete_eq_some hcall
  simp [closeOutstanding, ht, hsplit, htag]

private theorem onSent_closes (h : Refines s l) (hc : Closes s) {call : Call Note} {index : Nat}
    {success : Bool} {received : Received} {m : StdString}
    (hcall : s.call.complete index success received = some (.clientSendMsg m, call))
    (cb : List Op) :
    Closes (onSent grpc (runOps grpc cb) success { s with call := call }) := by
  have hlog := Call.complete_log hcall
  have hflying : l.flying = some m :=
    h.toTracks.flying_of_outstanding (Call.complete_subset hcall).1
  have hunsent : s.hasSentClose = false := h.sentClose.trans (Lane.unsent_of_flying hflying)
  have hout := fun (t : Impl) (ht : t.call.outstanding = call.outstanding) =>
    closeOutstanding_complete hcall (by simp) ht
  obtain ⟨hok, htail, ⟨hsuccess, heq⟩ | ⟨hsuccess, ⟨front, rest, hwaiting⟩, heq⟩ |
    ⟨hsuccess, hwaiting, hclosing, heq⟩ | ⟨hsuccess, hwaiting, hopen, heq⟩⟩ :=
    onSent_cases grpc (runOps grpc cb) h hflying call success <;> rw [heq] <;> subst hsuccess
  · have hdue : Due { s with
        call := call, msgQueue := s.msgQueue.tail
        status := .internalError (lit "Failed to send message.") } :=
      hc.due hok hunsent _ hlog (by simp) rfl rfl (hout _ rfl) rfl rfl rfl
    exact hdue.settle grpc cb
  · have hqueue : s.msgQueue.tail = front :: rest := htail.trans hwaiting
    rcases Bool.eq_false_or_eq_true (grpc call.starts) with hgrpc | hgrpc
    · rw [sendNext_accepted (s := { s with call := call, msgQueue := s.msgQueue.tail })
        hok hqueue hgrpc]
      refine hc.frame [.complete (.clientSendMsg m) true received,
        .start (.clientSendMsg front) true] (by simp [hlog, hgrpc]) rfl rfl rfl (.inl rfl) ?_ rfl
      have hsame := hout { s with call := call } rfl
      simpa [closeOutstanding, hgrpc] using hsame
    · rw [sendNext_refused (s := { s with call := call, msgQueue := s.msgQueue.tail })
        hok hqueue hgrpc, tryToCallCloseCb_eq rfl]
      have hdue : Due { s with
          msgQueue := s.msgQueue.tail
          call := (call.startBatch grpc (.clientSendMsg front)).2
          status := .internalError (lit "Failed to write client-side streaming.") } :=
        hc.due hok hunsent [.complete (.clientSendMsg m) true received,
          .start (.clientSendMsg front) false] (by simp [hlog, hgrpc]) (by simp) rfl rfl
          (hout _ (by simp [hgrpc])) rfl rfl rfl
      exact hdue.settle grpc cb
  · have hdone : Closes { s with call := call, msgQueue := s.msgQueue.tail } :=
      hc.frame _ hlog rfl rfl rfl (.inl rfl) (hout _ rfl) rfl
    exact hdone.send_close hok hunsent hclosing cb
  · exact hc.frame _ hlog rfl rfl rfl (.inl rfl) (hout _ rfl) rfl

theorem Closes.closing (hc : Closes s) (hmem : .clientWriterClose ∈ s.call.outstanding) :
    collect Event.failed s.call.log = [] ∧ s.hasSentClose = true ∧ s.status = .OK ∧
      closeOutstanding s = [.clientWriterClose] ∧ collect closeReceived s.call.log = [] ∧
      collect closeCbCall s.call.log = [] := by
  have hout : closeOutstanding s ≠ [] :=
    List.ne_nil_of_mem (List.mem_filter.mpr ⟨hmem, by simp⟩)
  rcases hc.phase with ⟨-, -, -, ho⟩ | ⟨-, -, -, ho, -, -⟩ | ⟨hclean, hs, hst, ho, hr, hu⟩ |
    ⟨-, -, -, -, ho, -⟩ | ⟨-, -, -, -, -, ho, -⟩
  · exact absurd ho hout
  · exact absurd ho hout
  · exact ⟨hclean, hs, hst, ho, hr, hu⟩
  · exact absurd ho hout
  · exact absurd ho hout

theorem Closes.told (hc : Closes s) (hmem : .clientWriterClose ∈ s.call.outstanding)
    (hclosing : s.isClosing = true) {u : Impl} {success : Bool} {received : Received}
    {sMsg : StdString}
    (hlog : u.call.log = s.call.log ++ [.complete .clientWriterClose success received])
    (hout : closeOutstanding u = []) (hverdict : some (u.status, sMsg) = verdict received)
    (hcb : u.closeCb = s.closeCb) (hyes : u.isClosing = s.isClosing)
    (hsent : u.hasSentClose = s.hasSentClose) (cb : List Op) :
    Closes (callCloseCb (runOps grpc cb) sMsg u) := by
  obtain ⟨hclean, hs, -, -, hr, huncalled⟩ := hc.closing hmem
  have hasked := hc.asked.mp hclosing
  have hfailed' : collect Event.failed u.call.log = [] := by
    cases success <;> simp [hlog, hclean]
  have hreceived' : collect closeReceived u.call.log = [received] := by
    simp [hlog, hr]
  have hcloses' : collect closeCall u.call.log = collect closeCall s.call.log := by
    simp [hlog]
  rw [callCloseCb_closing (hyes.trans hclosing)]
  cases hset : u.closeCb with
  | false =>
    rw [if_neg (by simp)]
    refine ⟨?_, .closed received hfailed' (hsent.trans hs) hreceived' hout hset, .inl ⟨?_, ?_⟩⟩
    · simp [hyes, hclosing, hcloses', hasked]
    · simp [hlog, huncalled]
    · rw [hcloses', hyes]
      rcases hc.called with ⟨-, hfirst⟩ | ⟨-, -, told, htold, -⟩
      · exact fun _ => (hfirst hclosing).trans (by rw [hcb])
      · simp [huncalled] at htold
  | true =>
    rw [if_pos rfl]
    obtain ⟨hf, hr', hc'⟩ := ignored_silent cb
    refine ⟨?_, .closed received ?_ (hsent.trans hs) ?_ hout rfl,
      .inr ⟨hyes.trans hclosing, rfl, (u.status, sMsg), ?_, fun hbad => ?_, fun _ => ?_⟩⟩
    · simp [hyes, hclosing, hcloses', hasked]
    · simp [hfailed', hf]
    · simp [hreceived', hr']
    · simp [hlog, huncalled, hc']
    · simp [hfailed', hf] at hbad
    · exact ⟨received, by simp [hreceived', hr'], hverdict⟩

private theorem onClosed_closes (h : Refines s l) (hc : Closes s) {call : Call Note} {index : Nat}
    {success : Bool} {received : Received}
    (hcall : s.call.complete index success received = some (.clientWriterClose, call))
    (cb : List Op) : Closes (onClosed (runOps grpc cb) received { s with call := call }) := by
  obtain ⟨hmem, -⟩ := Call.complete_subset hcall
  have hlog := Call.complete_log hcall
  obtain ⟨-, hs, hstatus, hone, -, -⟩ := hc.closing hmem
  have hok : s.status.ok = true := by simp [hstatus]
  have hclosing : s.isClosing = true :=
    (h.closing (h.ok hok)).trans (l.close_last (h.closeOut hmem)).2.2
  have hnone : ∀ t : Impl, t.call.outstanding = call.outstanding → closeOutstanding t = [] := by
    intro t ht
    obtain ⟨before, after, hsplit, rfl⟩ := Call.complete_eq_some hcall
    simp only [closeOutstanding, hsplit, ht, List.filter_append, List.filter_cons, decide_true,
      if_true] at hone ⊢
    cases hb : before.filter (· = .clientWriterClose) <;>
      cases ha : after.filter (· = .clientWriterClose) <;> simp_all
  unfold onClosed
  simp only [hok, Bool.not_true, Bool.false_eq_true, if_false]
  split
  · next hbad =>
    have hverdict : some (received.status, []) = verdict received := by
      simp only [Bool.not_eq_true'] at hbad
      simp [verdict, hbad]
    exact hc.told hmem hclosing (u := { s with call := call, status := received.status }) hlog
      (hnone _ rfl) hverdict rfl rfl rfl cb
  · next hgood =>
    simp only [Bool.not_eq_true', Bool.not_eq_false] at hgood
    cases hbuf : received.recvBuf with
    | some buf =>
      have hverdict : some (getResultMsg buf []) = verdict received := by
        simp [verdict, hgood, hbuf]
      exact hc.told hmem hclosing
        (u := { s with call := call, status := (getResultMsg buf []).1 }) hlog (hnone _ rfl)
        hverdict rfl rfl rfl cb
    | none =>
      obtain ⟨hclean, -, -, -, hreceived, huncalled⟩ := hc.closing hmem
      refine ⟨?_, .crashed received ?_ hs ?_ ⟨hgood, hbuf⟩ (hnone _ rfl) rfl, .inl ⟨?_, ?_⟩⟩
      · simpa [hlog] using hc.asked
      · cases success <;> simp [hlog, hclean]
      · simp [hlog, hreceived]
      · simp [hlog, huncalled]
      · rcases hc.called with ⟨-, hfirst⟩ | ⟨-, -, told, htold, -⟩
        · simpa [hlog] using hfirst
        · simp [huncalled] at htold

private theorem doComplete_closes (h : Refines s l) (hc : Closes s) {call : Call Note} {index : Nat}
    {success : Bool} {received : Received} {tag : CqTag}
    (hcall : s.call.complete index success received = some (tag, call)) (cb : List Op) :
    Closes (doComplete grpc (runOps grpc cb) tag success received { s with call := call }) := by
  obtain ⟨hmem, -⟩ := Call.complete_subset hcall
  have hown := h.own tag hmem
  cases tag with
  | clientSendMsg m => exact onSent_closes h hc hcall cb
  | clientWriterClose => exact onClosed_closes h hc hcall cb
  | clientSendInitMd =>
    refine hc.frame _ (Call.complete_log hcall) ?_ rfl rfl (.inl rfl)
      (closeOutstanding_complete hcall (by simp) rfl) rfl
    cases success <;> rfl
  | _ => simp [ownTag] at hown

theorem step_closes (h : Refines s l) (hc : Closes s) {label : Label} {t : Impl}
    (hstep : step grpc s label = some t) : Closes t := by
  cases label with
  | op op =>
    obtain rfl := step_op hstep
    cases op with
    | write request cb => exact write_closes h hc request cb
    | close hasCloseCb cb => exact close_closes h hc hasCloseCb cb
  | complete index success received cb =>
    obtain ⟨tag, call, hcall, rfl⟩ := step_complete hstep
    exact doComplete_closes h hc hcall cb

theorem construct_closes (grpc : Nat → Bool) : Closes (clientAsyncWriterImpl grpc) := by
  rcases Bool.eq_false_or_eq_true (grpc 0) with hgrpc | hgrpc
  · rw [construct_eq, if_pos hgrpc]
    exact ⟨by simp, .writing (by simp [hgrpc]) rfl rfl (by simp [closeOutstanding, hgrpc])
      (by simp) (by simp), .inl ⟨by simp, by simp⟩⟩
  · rw [construct_eq, if_neg (by simp [hgrpc])]
    exact ⟨by simp, .failed (by simp [hgrpc]) rfl (by simp) (by simp [closeOutstanding, hgrpc]),
      .inl ⟨by simp, by simp⟩⟩

theorem run_closes {ls : List Label}
    (hrun : (machine grpc).run (clientAsyncWriterImpl grpc) ls = some s) : Closes s := by
  refine (Machine.invariant (M := machine grpc)
    (I := fun s => (∃ l, Refines s l) ∧ Closes s) ?_ ?_ hrun).2
  · rintro s label t ⟨⟨l, h⟩, hc⟩ hstep
    obtain ⟨l', -, h'⟩ := step_refines h hstep
    exact ⟨⟨l', h'⟩, step_closes h hc hstep⟩
  · obtain ⟨l, -, h⟩ := construct_refines grpc
    exact ⟨⟨l, h⟩, construct_closes grpc⟩

/-- With no message and no close batch outstanding, the callback was called, unless a null
response was read. -/
theorem Closes.called_at_rest (h : Refines s l) (hc : Closes s)
    (hfirst : (collect closeCall s.call.log).head? = some true)
    (hrest : ∀ tag ∈ s.call.outstanding, tag.message? = none ∧ tag ≠ .clientWriterClose) :
    collect closeCbCall s.call.log ≠ [] ∨
      s.crashed = true ∧ ∃ received ∈ collect closeReceived s.call.log, Missing received := by
  have hclosing : s.isClosing = true := by
    refine hc.asked.mpr fun hnone => ?_
    simp [hnone] at hfirst
  rcases hc.called with ⟨-, hset⟩ | ⟨-, -, told, htold, -⟩
  · have hcb : s.closeCb = true := by
      have heq := (hset hclosing).symm.trans hfirst
      simpa using heq
    rcases hc.phase with ⟨-, -, hdue, -⟩ | ⟨hclean, hunsent, hstatus, -, -, -⟩ |
      ⟨-, -, -, hout, -, -⟩ | ⟨-, -, -, -, -, hdone⟩ |
      ⟨received, -, -, hreceived, hmissing, -, hcrashed⟩
    · simp [hdue hclosing] at hcb
    · have hlive : l.broken = false := h.clean.mpr hclean
      have hidle : l.flying = none := by
        have hnone : s.call.outstanding.filterMap CqTag.message? = [] :=
          List.filterMap_eq_nil_iff.mpr fun tag htag => (hrest tag htag).1
        rw [show s.call.outstanding.filterMap CqTag.message? = l.flying.toList from
          h.outstanding] at hnone
        simpa using hnone
      have hsent := (h.settled hlive hidle).2 ((h.closing hlive).symm.trans hclosing)
      have hsame : s.hasSentClose = l.closeSent := h.sentClose
      simp [hunsent, hsent] at hsame
    · have hmem : .clientWriterClose ∈ closeOutstanding s := by simp [hout]
      exact absurd rfl (hrest _ (List.mem_filter.mp hmem).1).2
    · simp [hdone] at hcb
    · exact .inr ⟨hcrashed, received, by simp [hreceived], hmissing⟩
  · exact .inl (by simp [htold])

theorem Closes.called_once (hc : Closes s) : (collect closeCbCall s.call.log).length ≤ 1 := by
  rcases hc.called with ⟨huncalled, -⟩ | ⟨-, -, told, htold, -⟩
  · simp [huncalled]
  · simp [htold]

private theorem verdict_cases {received : Received} {status : Status} {sMsg : StdString}
    (htells : some (status, sMsg) = verdict received) :
    (received.status.ok = false ∧ status = received.status ∧ sMsg = []) ∨
    (received.status.ok = true ∧ received.recvBuf = some .unreadable ∧
      status.code = .internal) ∨
    (∃ bytes, received.status.ok = true ∧ received.recvBuf = some (.readable bytes) ∧
      status = .OK ∧ sMsg = bytes) := by
  cases hok : received.status.ok with
  | false =>
    simp only [verdict, hok, Bool.false_eq_true, if_false, Option.some.injEq] at htells
    obtain ⟨rfl, rfl⟩ := Prod.mk.inj htells
    exact .inl ⟨rfl, rfl, rfl⟩
  | true =>
    rcases hbuf : received.recvBuf with _ | bytes | _ <;>
      simp only [verdict, hok, hbuf, if_true, Option.map_none, Option.map_some,
        Option.some.injEq, reduceCtorEq] at htells
    · obtain ⟨rfl, rfl⟩ := Prod.mk.inj htells
      exact .inr (.inr ⟨_, rfl, rfl, rfl, rfl⟩)
    · obtain ⟨rfl, -⟩ := Prod.mk.inj htells
      exact .inr (.inl ⟨rfl, rfl, rfl⟩)

end steps

/-- The close callback is called at most once, and has been called when nothing
of the first Close's is outstanding. It is told of an error if there was one;
else what the close batch has received. -/
theorem calls_closeCb_once {grpc : Nat → Bool} {ls : List Label} {s : Impl}
    (hrun : (machine grpc).run (clientAsyncWriterImpl grpc) ls = some s)
    (hresponse : ∀ received ∈ collect closeReceived s.call.log,
      received.status.ok = true → received.recvBuf.isSome = true) :
    (collect closeCbCall s.call.log).length ≤ 1 ∧
    ((collect closeCall s.call.log).head? = some true →
      (∀ tag ∈ s.call.outstanding, tag.message? = none ∧ tag ≠ .clientWriterClose) →
      collect closeCbCall s.call.log ≠ []) ∧
    ∀ status sMsg, (status, sMsg) ∈ collect closeCbCall s.call.log →
      (collect Event.failed s.call.log ≠ [] → status.code = .internal) ∧
      (collect Event.failed s.call.log = [] →
        ∃ received, collect closeReceived s.call.log = [received] ∧
          ((received.status.ok = false ∧ status = received.status ∧ sMsg = []) ∨
          (received.status.ok = true ∧ received.recvBuf = some .unreadable ∧
            status.code = .internal) ∨
          (∃ bytes, received.status.ok = true ∧ received.recvBuf = some (.readable bytes) ∧
            status = .OK ∧ sMsg = bytes))) := by
  obtain ⟨l, -, h⟩ := run_refines hrun
  have hc := run_closes hrun
  refine ⟨hc.called_once, fun hfirst hrest => ?_, fun status sMsg hmem => ?_⟩
  · rcases hc.called_at_rest h hfirst hrest with hcalled | ⟨-, received, hmem, hok, hnone⟩
    · exact hcalled
    · exact absurd (hresponse received hmem hok) (by simp [hnone])
  rcases hc.called with ⟨huncalled, -⟩ | ⟨-, -, told, htold, hfailed, hclean⟩
  · simp [huncalled] at hmem
  · rw [htold, List.mem_singleton] at hmem
    subst hmem
    refine ⟨hfailed, fun hnone => ?_⟩
    obtain ⟨received, hreceived, htells⟩ := hclean hnone
    exact ⟨received, hreceived, verdict_cases htells⟩

/-- A message, a Close and its response; the callback calls both operations again. -/
def closingLabels : List Label :=
  [.op (.write [1] []), .op (.close true []), .complete 1 true {} [],
    .complete 1 true { recvBuf := some (.readable [7]) } [.write [2] [], .close true []]]

theorem calls_closeCb_once_closing :
    ∃ s, (machine fun _ => true).run (clientAsyncWriterImpl fun _ => true) closingLabels = some s ∧
      collect closeCbCall s.call.log ≠ [] := by
  have hrun : (machine fun _ => true).run (clientAsyncWriterImpl fun _ => true) closingLabels =
      some _ := rfl
  exact ⟨_, hrun, (calls_closeCb_once hrun (by decide)).2.1 (by decide) (by decide)⟩

end GrpcCbCore.Client.WriterImpl
