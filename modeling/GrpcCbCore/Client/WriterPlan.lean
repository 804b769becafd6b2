import GrpcCbCore.Client.WriterClosing
import GrpcCbCore.Library.Plan

/-! A `ClientAsyncWriterImpl` carries out a plan: the initial metadata, the messages and
the close, in whatever order its calls and completions come, until grpc refuses a batch. -/
namespace GrpcCbCore.Client.WriterImpl
open GrpcCbCore.Library

@[simp] def batch {Note : Type} : Event Note → Option (CqTag × Bool)
  | .start tag accepted => some (tag, accepted)
  | _ => none

def messages (requests : List StdString) : List CqTag :=
  .clientSendInitMd :: requests.map .clientSendMsg

def plan (requests : List StdString) : List CqTag := messages requests ++ [.clientWriterClose]

theorem messages_snoc (requests : List StdString) (m : StdString) :
    messages requests ++ [.clientSendMsg m] = messages (requests ++ [m]) := by
  simp [messages]

/-- The status that a refused batch comes to. -/
def refusal (initMd close : StdString) : CqTag → Status
  | .clientSendInitMd => .internalError initMd
  | .clientWriterClose => .internalError close
  | _ => .internalError (lit "Failed to write client-side streaming.")

def asyncRefusal : CqTag → Status :=
  refusal (lit "Failed to init client-side streaming.")
    (lit "Failed to close client-side streaming.")

structure Under {Note : Type} (grpc : Nat → Bool) (front : List CqTag) (call : Call Note) :
    Prop where
  going : Plan.Going grpc front (collect batch call.log)
  starts : call.starts = front.length

/-- A batch of the plan was refused, and that is the status; the callback, if it was called,
was told so. -/
structure Halts (grpc : Nat → Bool) (requests : List StdString) (asked : Bool)
    (front : List CqTag) (s : Impl) : Prop where
  halted : Plan.Halted grpc front (collect batch s.call.log)
  initial : front <+: messages requests ∨ asked = true ∧ front = plan requests
  status : ∃ tag, front.getLast? = some tag ∧ s.status = asyncRefusal tag
  told : ∀ t ∈ collect closeCbCall s.call.log, t = (s.status, [])

/-- What a writer has done that was given these messages, and `asked` to close. -/
structure Follows (grpc : Nat → Bool) (requests : List StdString) (asked : Bool) (s : Impl) :
    Prop where
  closing : s.isClosing = asked
  unasked : asked = false → collect closeCbCall s.call.log = []
  sent : s.hasSentClose = true → asked = true ∧ s.msgQueue = []
  going : s.status.ok = true → ∃ done, done ++ s.msgQueue = requests ∧
    Under grpc (messages (done ++ s.msgQueue.head?.toList) ++
      if s.hasSentClose then [.clientWriterClose] else []) s.call
  uncalled : s.status.ok = true → s.hasSentClose = false → collect closeCbCall s.call.log = []
  stopped : s.status.ok = false →
    (s.hasSentClose = true ∧ Under grpc (plan requests) s.call ∧
      collect Event.failed s.call.log = []) ∨
      ∃ front, Halts grpc requests asked front s

section under

variable {Note : Type} {grpc : Nat → Bool} {front : List CqTag} {call : Call Note}

private theorem batch_notes (ns : List Note) : collect batch (ns.map Event.note) = [] := by
  induction ns with
  | nil => rfl
  | cons n ns ih => simpa using ih

theorem Under.start (h : Under grpc front call) (tag : CqTag)
    (hgrpc : grpc call.starts = true) :
    Under grpc (front ++ [tag]) (call.startBatch grpc tag).2 := by
  constructor
  · rw [h.starts] at hgrpc
    simpa [h.starts, hgrpc] using h.going.next tag hgrpc
  · simp [h.starts]

theorem Under.refuse (h : Under grpc front call) (tag : CqTag)
    (hgrpc : grpc call.starts = false) :
    Plan.Halted grpc (front ++ [tag]) (collect batch (call.startBatch grpc tag).2.log) := by
  rw [h.starts] at hgrpc
  simpa [h.starts, hgrpc] using h.going.halt tag hgrpc

theorem Under.same (h : Under grpc front call) {call' : Call Note}
    (hbatches : collect batch call'.log = collect batch call.log)
    (hstarts : call'.starts = call.starts) : Under grpc front call' := by
  constructor
  · rw [hbatches]
    exact h.going
  · rw [hstarts]
    exact h.starts

theorem under_fresh (grpc : Nat → Bool) : Under grpc [] ({} : Call Note) :=
  ⟨Plan.Going.nil grpc, rfl⟩

end under

section follows

variable {grpc : Nat → Bool} {requests : List StdString} {asked : Bool} {s t : Impl}

theorem Halts.same {front : List CqTag} (h : Halts grpc requests asked front s)
    (hbatches : collect batch t.call.log = collect batch s.call.log)
    (hcalled : collect closeCbCall t.call.log = collect closeCbCall s.call.log)
    (hstatus : t.status = s.status) : Halts grpc requests asked front t := by
  refine ⟨?_, h.initial, ?_, ?_⟩
  · rw [hbatches]
    exact h.halted
  · rw [hstatus]
    exact h.status
  · rw [hcalled, hstatus]
    exact h.told

theorem Follows.same (h : Follows grpc requests asked s)
    (hbatches : collect batch t.call.log = collect batch s.call.log)
    (hstarts : t.call.starts = s.call.starts)
    (hcalled : collect closeCbCall t.call.log = collect closeCbCall s.call.log)
    (hfailed : collect Event.failed t.call.log = collect Event.failed s.call.log)
    (hstatus : t.status = s.status) (hclosing : t.isClosing = s.isClosing)
    (hsent : t.hasSentClose = s.hasSentClose) (hqueue : t.msgQueue = s.msgQueue) :
    Follows grpc requests asked t := by
  refine ⟨hclosing.trans h.closing, ?_, ?_, ?_, ?_, ?_⟩
  · rw [hcalled]
    exact h.unasked
  · rw [hsent, hqueue]
    exact h.sent
  · rw [hstatus, hsent, hqueue]
    intro hok
    obtain ⟨done, hdone, hunder⟩ := h.going hok
    exact ⟨done, hdone, hunder.same hbatches hstarts⟩
  · rw [hstatus, hsent, hcalled]
    exact h.uncalled
  · rw [hstatus, hsent]
    intro hbad
    rcases h.stopped hbad with ⟨hclosed, hunder, hclean⟩ | ⟨front, hhalts⟩
    · exact .inl ⟨hclosed, hunder.same hbatches hstarts, hfailed.trans hclean⟩
    · exact .inr ⟨front, hhalts.same hbatches hcalled hstatus⟩

theorem Follows.noted (h : Follows grpc requests asked s) {n : Note}
    (hn : closeCbCall (.note n) = none) : Follows grpc requests asked (s.note n) := by
  apply h.same <;> simp
  exact hn

private theorem asyncRefusal_failed (tag : CqTag) : (asyncRefusal tag).ok = false := by
  cases tag <;> exact Status.ok_internalError _

theorem Halts.follows {front : List CqTag} (h : Halts grpc requests asked front s)
    (hclosing : s.isClosing = asked)
    (hunasked : asked = false → collect closeCbCall s.call.log = [])
    (hsent : s.hasSentClose = true → asked = true ∧ s.msgQueue = []) :
    Follows grpc requests asked s := by
  have hfailed : s.status.ok = false := by
    obtain ⟨tag, -, hstatus⟩ := h.status
    rw [hstatus, asyncRefusal_failed]
  exact ⟨hclosing, hunasked, hsent, by simp [hfailed], by simp [hfailed],
    fun _ => .inr ⟨front, h⟩⟩

theorem Halts.callback {front : List CqTag} (h : Halts grpc requests true front s)
    (hclosing : s.isClosing = true) (huncalled : collect closeCbCall s.call.log = [])
    (hsent : s.hasSentClose = true → s.msgQueue = []) (cb : List Op) :
    Follows grpc requests true (callCloseCb (runOps grpc cb) [] s) := by
  rw [callCloseCb_closing hclosing]
  split
  · obtain ⟨-, -, hignored⟩ := ignored_silent cb
    have hhalts : Halts grpc requests true front { s with
        call := s.call.notes (.closeCb s.status [] :: cb.map Op.ignored), closeCb := false } := by
      refine ⟨?_, h.initial, h.status, ?_⟩
      · rw [Call.notes_log, collect_append, batch_notes, List.append_nil]
        exact h.halted
      · simp [huncalled, hignored]
    exact hhalts.follows hclosing (by simp) fun hclosed => ⟨rfl, hsent hclosed⟩
  · exact h.follows hclosing (by simp) fun hclosed => ⟨rfl, hsent hclosed⟩

private theorem closed_follows (hunder : Under grpc (plan requests) s.call)
    (hclosing : s.isClosing = true) (hsent : s.hasSentClose = true) (hqueue : s.msgQueue = [])
    (hclean : collect Event.failed s.call.log = []) (cb : List Op) (sMsg : StdString) :
    Follows grpc requests true (callCloseCb (runOps grpc cb) sMsg s) := by
  have hclosed {call : Call Note} {closeCb : Bool} (hcall : Under grpc (plan requests) call)
      (hfailed : collect Event.failed call.log = []) :
      Follows grpc requests true { s with call := call, closeCb := closeCb } := by
    refine ⟨hclosing, by simp, fun _ => ⟨rfl, hqueue⟩, fun _ => ⟨requests, ?_, ?_⟩, ?_, ?_⟩
    · simp [hqueue]
    · simpa [hqueue, hsent, plan] using hcall
    · simp [hsent]
    · exact fun _ => .inl ⟨hsent, hcall, hfailed⟩
  rw [callCloseCb_closing hclosing]
  split
  · obtain ⟨hfailed, -, -⟩ := ignored_silent cb
    apply hclosed
    · apply hunder.same
      · rw [Call.notes_log, collect_append, batch_notes, List.append_nil]
      · rfl
    · simp [hclean, hfailed]
  · exact hclosed hunder hclean

private theorem sendClose_follows (hunder : Under grpc (messages requests) s.call)
    (hok : s.status.ok = true) (hclosing : s.isClosing = true) (hunsent : s.hasSentClose = false)
    (hqueue : s.msgQueue = []) (huncalled : collect closeCbCall s.call.log = [])
    (cb : List Op) : Follows grpc requests true (sendClose grpc (runOps grpc cb) s) := by
  rcases Bool.eq_false_or_eq_true (grpc s.call.starts) with hgrpc | hgrpc
  · rw [sendClose_accepted hok hclosing hunsent hgrpc]
    refine ⟨hclosing, by simp, fun _ => ⟨rfl, hqueue⟩,
      fun _ => ⟨requests, by simp [hqueue], ?_⟩, ?_, ?_⟩
    · simpa [hqueue] using hunder.start .clientWriterClose hgrpc
    · simp
    · simp [hok]
  · rw [sendClose_refused hok hclosing hunsent hgrpc]
    have hhalts : Halts grpc requests true (plan requests) { s with
        call := (s.call.startBatch grpc .clientWriterClose).2
        hasSentClose := true
        status := .internalError (lit "Failed to close client-side streaming.") } := by
      refine ⟨hunder.refuse .clientWriterClose hgrpc, .inr ⟨rfl, rfl⟩, ?_, ?_⟩
      · exact ⟨.clientWriterClose, by simp [plan], rfl⟩
      · simp [huncalled]
    exact hhalts.callback hclosing (by simpa using huncalled) (fun _ => hqueue) cb

private theorem sendNext_follows {done rest : List StdString} {m : StdString}
    (hunder : Under grpc (messages done) s.call) (hdone : done ++ m :: rest = requests)
    (hok : s.status.ok = true) (hclosing : s.isClosing = asked)
    (hunsent : s.hasSentClose = false) (hqueue : s.msgQueue = m :: rest)
    (huncalled : collect closeCbCall s.call.log = []) (cb : List Op) :
    Follows grpc requests asked (sendNext grpc (runOps grpc cb) s).2 := by
  rcases Bool.eq_false_or_eq_true (grpc s.call.starts) with hgrpc | hgrpc
  · rw [sendNext_accepted hok hqueue hgrpc]
    refine ⟨hclosing, fun _ => by simpa using huncalled, by simp [hunsent],
      fun _ => ⟨done, by simp [hqueue, hdone], ?_⟩, ?_, ?_⟩
    · simpa [hqueue, hunsent, messages_snoc] using hunder.start (.clientSendMsg m) hgrpc
    · simp [huncalled]
    · simp [hok]
  · rw [sendNext_refused hok hqueue hgrpc, tryToCallCloseCb_eq (Status.ok_internalError _)]
    have hhalts : Halts grpc requests asked (messages (done ++ [m])) { s with
        call := (s.call.startBatch grpc (.clientSendMsg m)).2
        status := .internalError (lit "Failed to write client-side streaming.") } := by
      refine ⟨?_, .inl ?_, ?_, ?_⟩
      · rw [← messages_snoc]
        exact hunder.refuse (.clientSendMsg m) hgrpc
      · refine ⟨rest.map .clientSendMsg, ?_⟩
        simp [messages, ← hdone]
      · exact ⟨.clientSendMsg m, by simp [← messages_snoc], rfl⟩
      · simp [huncalled]
    cases asked with
    | true =>
      rw [if_pos hclosing]
      exact hhalts.callback hclosing (by simpa using huncalled) (by simp [hunsent]) cb
    | false =>
      rw [if_neg (by simp [hclosing])]
      exact hhalts.follows hclosing (fun _ => by simpa using huncalled) (by simp [hunsent])

end follows

section steps

variable {grpc : Nat → Bool} {requests : List StdString} {s t : Impl}
  {l : Lane StdString Unit}

theorem construct_follows (grpc : Nat → Bool) :
    Follows grpc [] false (clientAsyncWriterImpl grpc) := by
  have hfresh : Under grpc [] ({} : Call Note) := under_fresh grpc
  rw [construct_eq]
  rcases Bool.eq_false_or_eq_true (grpc 0) with hgrpc | hgrpc
  · refine ⟨rfl, by simp, by simp, fun _ => ⟨[], rfl, ?_⟩, by simp, by simp [hgrpc]⟩
    simpa [messages] using hfresh.start .clientSendInitMd hgrpc
  · have hhalts : Halts grpc [] false [.clientSendInitMd]
        { call := (({} : Call Note).startBatch grpc .clientSendInitMd).2
          status := .internalError (lit "Failed to init client-side streaming.") } := by
      refine ⟨hfresh.refuse .clientSendInitMd hgrpc, .inl List.prefix_rfl, ?_, by simp⟩
      exact ⟨.clientSendInitMd, rfl, rfl⟩
    rw [if_neg (by simp [hgrpc])]
    exact hhalts.follows rfl (by simp) (by simp)

/-- A message is offered: it is behind all others, or an error has come before it. -/
theorem write_follows (h : Follows grpc requests false s) (request : StdString) (cb : List Op) :
    Follows grpc (requests ++ [request]) false (runOp grpc (.write request cb) s) := by
  have hopen := h.closing
  have huncalled := h.unasked rfl
  have hunsent : s.hasSentClose = false := by
    by_contra hsent
    simpa using (h.sent (by simpa using hsent)).1
  rw [runOp]
  apply Follows.noted _ rfl
  cases hok : s.status.ok with
  | false =>
    have heq : write grpc (runOps grpc cb) request s = (false, s) := by simp [write, hok]
    rw [heq]
    rcases h.stopped hok with ⟨hsent, -, -⟩ | ⟨front, hhalts⟩
    · simp [hunsent] at hsent
    · have hmore : messages requests <+: messages (requests ++ [request]) :=
        ⟨[.clientSendMsg request], messages_snoc requests request⟩
      have hinitial : front <+: messages requests := by simpa using hhalts.initial
      have hlater : Halts grpc (requests ++ [request]) false front s :=
        { hhalts with initial := .inl (hinitial.trans hmore) }
      exact hlater.follows hopen (fun _ => huncalled) (by simp [hunsent])
  | true =>
    obtain ⟨done, hdone, hunder⟩ := h.going hok
    rw [if_neg (by simp [hunsent]), List.append_nil] at hunder
    cases hqueue : s.msgQueue with
    | nil =>
      have heq : write grpc (runOps grpc cb) request s =
          sendNext grpc (runOps grpc cb) { s with msgQueue := [request] } := by
        simp [write, hok, hopen, hqueue]
      obtain rfl : done = requests := by simpa [hqueue] using hdone
      rw [heq]
      have hmessages : Under grpc (messages done) s.call := by
        simpa [hqueue] using hunder
      apply sendNext_follows (s := { s with msgQueue := [request] }) hmessages rfl
      · exact hok
      · exact hopen
      · exact hunsent
      · rfl
      · exact huncalled
    | cons front rest =>
      have heq : write grpc (runOps grpc cb) request s =
          (true, { s with msgQueue := s.msgQueue ++ [request] }) := by
        simp [write, hok, hopen, hqueue]
      rw [heq]
      refine ⟨hopen, fun _ => huncalled, by simp [hunsent], fun _ => ⟨done, ?_, ?_⟩, ?_, ?_⟩
      · simp [← hdone]
      · simpa [hqueue, hunsent] using hunder
      · exact fun _ _ => huncalled
      · simp [hok]

private theorem close_follows (h : Follows grpc requests false s) (hasCloseCb : Bool)
    (cb : List Op) : Follows grpc requests true (runOp grpc (.close hasCloseCb cb) s) := by
  have hopen := h.closing
  have huncalled := h.unasked rfl
  have hunsent : s.hasSentClose = false := by
    by_contra hsent
    simpa using (h.sent (by simpa using hsent)).1
  rw [runOp]
  cases hok : s.status.ok with
  | false =>
    have heq : close grpc (runOps grpc cb) hasCloseCb (s.note (.close hasCloseCb)) =
        callCloseCb (runOps grpc cb) []
          { s.note (.close hasCloseCb) with isClosing := true, closeCb := hasCloseCb } := by
      simp [close, hopen, hok]
    rw [heq]
    rcases h.stopped hok with ⟨hsent, -, -⟩ | ⟨front, hhalts⟩
    · simp [hunsent] at hsent
    · have hinitial : front <+: messages requests := by simpa using hhalts.initial
      have hlater : Halts grpc requests true front
          { s.note (.close hasCloseCb) with isClosing := true, closeCb := hasCloseCb } :=
        ⟨by simpa using hhalts.halted, .inl hinitial, hhalts.status, by simp [huncalled]⟩
      exact hlater.callback rfl (by simp [huncalled]) (by simp [hunsent]) cb
  | true =>
    obtain ⟨done, hdone, hunder⟩ := h.going hok
    rw [if_neg (by simp [hunsent]), List.append_nil] at hunder
    have hnoted : Under grpc (messages (done ++ s.msgQueue.head?.toList))
        (s.call.note (.close hasCloseCb)) :=
      hunder.same (by simp) rfl
    cases hqueue : s.msgQueue with
    | nil =>
      have heq : close grpc (runOps grpc cb) hasCloseCb (s.note (.close hasCloseCb)) =
          sendClose grpc (runOps grpc cb)
            { s.note (.close hasCloseCb) with isClosing := true, closeCb := hasCloseCb } := by
        simp [close, hopen, hok, hqueue]
      obtain rfl : done = requests := by simpa [hqueue] using hdone
      rw [heq]
      apply sendClose_follows
      · simpa [hqueue] using hnoted
      · exact hok
      · rfl
      · exact hunsent
      · exact hqueue
      · simp [huncalled]
    | cons front rest =>
      have heq : close grpc (runOps grpc cb) hasCloseCb (s.note (.close hasCloseCb)) =
          { s.note (.close hasCloseCb) with isClosing := true, closeCb := hasCloseCb } := by
        simp [close, hopen, hok, hqueue]
      rw [heq]
      refine ⟨rfl, by simp, by simp [hunsent], fun _ => ⟨done, hdone, ?_⟩, ?_, ?_⟩
      · simpa [hunsent] using hnoted
      · simp [huncalled]
      · simp [hok]

private theorem onSent_follows (hr : Refines s l) {asked : Bool} (h : Follows grpc requests asked s)
    {call : Call Note} {index : Nat} {received : Received} {m : StdString}
    (hcall : s.call.complete index true received = some (.clientSendMsg m, call))
    (cb : List Op) :
    Follows grpc requests asked (onSent grpc (runOps grpc cb) true { s with call := call }) := by
  obtain ⟨hmem, -⟩ := Call.complete_subset hcall
  have hfront : s.msgQueue.head? = some m := hr.toTracks.front_of_outstanding hmem
  have hlog := Call.complete_log hcall
  have hbatches : collect batch call.log = collect batch s.call.log := by simp [hlog]
  have hcalled : collect closeCbCall call.log = collect closeCbCall s.call.log := by simp [hlog]
  have hqueue : s.msgQueue = m :: s.msgQueue.tail := (List.cons_head?_tail hfront).symm
  have hunsent : s.hasSentClose = false := by
    by_contra hsent
    rw [(h.sent (by simpa using hsent)).2] at hfront
    simp at hfront
  obtain ⟨hok, hwaiting, hcases⟩ := onSent_cases grpc (runOps grpc cb) hr
    (hr.toTracks.flying_of_outstanding hmem) call true
  obtain ⟨done, hdone, hunder⟩ := h.going hok
  rw [if_neg (by simp [hunsent]), List.append_nil, hfront, Option.toList_some] at hunder
  have hunder' := hunder.same hbatches (Call.complete_found hcall).2
  have huncalled : collect closeCbCall call.log = [] := hcalled.trans (h.uncalled hok hunsent)
  rw [hqueue, List.append_cons] at hdone
  obtain ⟨hno, -⟩ | ⟨-, ⟨front, rest, hrest⟩, heq⟩ | ⟨-, hrest, hclosing, heq⟩ |
    ⟨-, hrest, hopen, heq⟩ := hcases
  · simp at hno
  · rw [heq]
    rw [hwaiting, hrest] at hdone
    exact sendNext_follows (s := { s with call := call, msgQueue := s.msgQueue.tail }) hunder'
      hdone hok h.closing hunsent (hwaiting.trans hrest) huncalled cb
  · obtain rfl : asked = true := h.closing.symm.trans hclosing
    rw [hwaiting, hrest, List.append_nil] at hdone
    rw [heq]
    apply sendClose_follows
    · rw [← hdone]
      exact hunder'
    · exact hok
    · exact hclosing
    · exact hunsent
    · exact hwaiting.trans hrest
    · exact huncalled
  · rw [heq, hwaiting, hrest]
    rw [hwaiting, hrest, List.append_nil] at hdone
    refine ⟨h.closing, fun _ => huncalled, by simp [hunsent], fun _ => ⟨requests, ?_, ?_⟩, ?_, ?_⟩
    · simp
    · simpa [hunsent, ← hdone] using hunder'
    · exact fun _ _ => huncalled
    · simp [hok]

private theorem onClosed_follows (hc : Closes s) {asked : Bool}
    (h : Follows grpc requests asked s) {call : Call Note} {index : Nat} {success : Bool}
    {received : Received}
    (hcall : s.call.complete index success received = some (.clientWriterClose, call))
    (cb : List Op) :
    Follows grpc requests asked (onClosed (runOps grpc cb) received { s with call := call }) := by
  obtain ⟨hmem, -⟩ := Call.complete_subset hcall
  have hlog := Call.complete_log hcall
  obtain ⟨hclean, hsent, hstatus, -, -, -⟩ := hc.closing hmem
  have hok : s.status.ok = true := by simp [hstatus]
  obtain ⟨rfl, hqueue⟩ := h.sent hsent
  obtain ⟨done, hdone, hunder⟩ := h.going hok
  obtain rfl : done = requests := by simpa [hqueue] using hdone
  have hclosed : Under grpc (plan done) s.call := by
    simpa [hqueue, hsent, plan] using hunder
  have hfailed : collect Event.failed call.log = [] := by
    cases success <;> simp [hlog, hclean]
  have hcompleted : Under grpc (plan done) call := by
    apply hclosed.same
    · simp [hlog]
    · exact (Call.complete_found hcall).2
  unfold onClosed
  rw [if_neg (by simp [hok])]
  split
  · exact closed_follows (s := { s with call := call, status := received.status }) hcompleted
      h.closing hsent hqueue hfailed cb []
  · cases hbuf : received.recvBuf with
    | some buf =>
      exact closed_follows
        (s := { s with call := call, status := (getResultMsg buf []).1 }) hcompleted
        h.closing hsent hqueue hfailed cb _
    | none =>
      apply h.same
        (t := { s with call := call.note (.fault .getResultMsgRecvBuf), crashed := true })
      · simp [hlog]
      · exact (Call.complete_found hcall).2
      · simp [hlog]
      · simpa [hclean] using hfailed
      all_goals rfl

/-- A message batch that completes was sent. -/
def Delivers (s : Impl) : Label → Prop
  | .complete index false _ _ => (s.call.outstanding[index]?).bind CqTag.message? = none
  | _ => True

private theorem complete_follows (hr : Refines s l) (hc : Closes s) {asked : Bool}
    (h : Follows grpc requests asked s) {index : Nat} {success : Bool} {received : Received}
    {cb : List Op} (hdelivers : Delivers s (.complete index success received cb))
    (hstep : step grpc s (.complete index success received cb) = some t) :
    Follows grpc requests asked t := by
  obtain ⟨tag, call, hcall, rfl⟩ := step_complete hstep
  obtain ⟨hmem, -⟩ := Call.complete_subset hcall
  obtain ⟨hfound, hstarts⟩ := Call.complete_found hcall
  have hown := hr.own tag hmem
  cases tag with
  | clientSendMsg m =>
    cases success with
    | true => exact onSent_follows hr h hcall cb
    | false => simp [Delivers, hfound] at hdelivers
  | clientWriterClose => exact onClosed_follows hc h hcall cb
  | clientSendInitMd =>
    have hlog := Call.complete_log hcall
    have hfailed : collect Event.failed call.log = collect Event.failed s.call.log := by
      cases success <;> simp [hlog]
    apply h.same (t := { s with call := call }) _ hstarts _ hfailed
    all_goals simp [hlog]
  | _ => simp [ownTag] at hown

/-- The public calls of a run: the messages written, and the close. -/
def Label.call : Label → Option (Option StdString)
  | .op (.write request _) => some (some request)
  | .op (.close _ _) => some none
  | .complete _ _ _ _ => none

private theorem step_inv (hr : Refines s l) (hc : Closes s) {label : Label}
    (hstep : (machine grpc).step s label = some t) : (∃ l, Refines t l) ∧ Closes t := by
  obtain ⟨l', -, hr'⟩ := step_refines hr hstep
  exact ⟨⟨l', hr'⟩, step_closes hr hc hstep⟩

private theorem completes_follows {asked : Bool} {ls : List Label} (hr : Refines s l)
    (hc : Closes s) (h : Follows grpc requests asked s) (hcalls : collect Label.call ls = [])
    (hdelivers : (machine grpc).Along Delivers s ls)
    (hrun : (machine grpc).run s ls = some t) : Follows grpc requests asked t := by
  induction ls generalizing s l with
  | nil =>
    cases hrun
    exact h
  | cons label ls ih =>
    obtain ⟨u, hu, hrest⟩ := (Machine.run_cons _).mp hrun
    obtain ⟨⟨l', hr'⟩, hc'⟩ := step_inv hr hc hu
    rw [collect_cons, List.append_eq_nil_iff] at hcalls
    cases label with
    | complete index success received cb =>
      have hnext := complete_follows hr hc h hdelivers.head hu
      exact ih hr' hc' hnext hcalls.2 (hdelivers.tail hu) hrest
    | op op => cases op <;> simp [Label.call] at hcalls

/-- A run that writes some more messages and closes. -/
theorem run_follows {more : List StdString} {ls : List Label} (hr : Refines s l) (hc : Closes s)
    (h : Follows grpc requests false s) (hcalls : collect Label.call ls = more.map some ++ [none])
    (hdelivers : (machine grpc).Along Delivers s ls)
    (hrun : (machine grpc).run s ls = some t) : Follows grpc (requests ++ more) true t := by
  induction ls generalizing s l requests more with
  | nil => simp at hcalls
  | cons label ls ih =>
    obtain ⟨u, hu, hrest⟩ := (Machine.run_cons _).mp hrun
    obtain ⟨⟨l', hr'⟩, hc'⟩ := step_inv hr hc hu
    have htail := hdelivers.tail hu
    rw [collect_cons] at hcalls
    match label with
    | .complete index success received cb =>
      have hnext := complete_follows hr hc h hdelivers.head hu
      exact ih hr' hc' hnext hcalls htail hrest
    | .op (.write request cb) =>
      cases more with
      | nil => simp [Label.call] at hcalls
      | cons m more =>
        simp only [Label.call, Option.toList_some, List.map_cons, List.cons_append,
          List.nil_append, List.cons.injEq, Option.some.injEq] at hcalls
        obtain ⟨rfl, hcalls⟩ := hcalls
        obtain rfl := step_op hu
        have hnext := write_follows h request cb
        simpa using ih hr' hc' hnext hcalls htail hrest
    | .op (.close hasCloseCb cb) =>
      cases more with
      | cons m more => simp [Label.call] at hcalls
      | nil =>
        obtain rfl := step_op hu
        have hnext := close_follows h hasCloseCb cb
        rw [List.append_nil]
        refine completes_follows hr' hc' hnext ?_ htail hrest
        simpa [Label.call] using hcalls

end steps

/-- How a plan ends that was carried out by these batches: all were accepted and the
result is what the close batch has `received`, or the last one was refused. -/
def Ends (refused : CqTag → Status) (requests : List StdString) (received : Received)
    (batches : List (CqTag × Bool)) (results : List (Status × StdString)) : Prop :=
  (batches = (plan requests).map (·, true) ∧ results = (verdict received).toList) ∨
  ∃ tag, batches.getLast? = some (tag, false) ∧ results = [(refused tag, [])]

section ends

variable {grpc : Nat → Bool} {requests : List StdString} {s : Impl} {l : Lane StdString Unit}

theorem Closes.told_verdict (hc : Closes s) {told : Status × StdString} {received : Received}
    (htold : collect closeCbCall s.call.log = [told])
    (hanswer : ∀ r ∈ collect closeReceived s.call.log, r = received)
    (hclean : collect Event.failed s.call.log = []) :
    collect closeCbCall s.call.log = (verdict received).toList := by
  rcases hc.called with ⟨huncalled, -⟩ | ⟨-, -, told', htold', hverdict⟩
  · simp [huncalled] at htold
  · obtain ⟨r, hr, htells⟩ := hverdict.2 hclean
    rw [htold', ← hanswer r (by simp [hr]), ← htells]
    rfl

/-- A writer at rest that was closed with a callback. -/
theorem Follows.ends (hr : Refines s l) (hc : Closes s) (h : Follows grpc requests true s)
    (hfirst : (collect closeCall s.call.log).head? = some true)
    (hrest : ∀ tag ∈ s.call.outstanding, tag.message? = none ∧ tag ≠ .clientWriterClose)
    {received : Received} (hanswer : ∀ r ∈ collect closeReceived s.call.log, r = received)
    (hpresent : ¬ Missing received) :
    collect batch s.call.log = Plan.carriedOut grpc 0 (plan requests) ∧
      Ends asyncRefusal requests received (collect batch s.call.log)
        (collect closeCbCall s.call.log) := by
  have hcalled : collect closeCbCall s.call.log ≠ [] := by
    rcases hc.called_at_rest hr hfirst hrest with hcalled | ⟨-, r, hmem, hmissing⟩
    · exact hcalled
    · exact absurd (hanswer r hmem ▸ hmissing) hpresent
  obtain ⟨told, htold⟩ : ∃ told, collect closeCbCall s.call.log = [told] := by
    rcases hc.called with ⟨huncalled, -⟩ | ⟨-, -, told, htold, -⟩
    · exact absurd huncalled hcalled
    · exact ⟨told, htold⟩
  have hwhole (hunder : Under grpc (plan requests) s.call)
      (hclean : collect Event.failed s.call.log = []) :
      collect batch s.call.log = Plan.carriedOut grpc 0 (plan requests) ∧
        Ends asyncRefusal requests received (collect batch s.call.log)
          (collect closeCbCall s.call.log) :=
    ⟨hunder.going.done.symm, .inl ⟨hunder.going.granted, hc.told_verdict htold hanswer hclean⟩⟩
  cases hok : s.status.ok with
  | true =>
    have hsent : s.hasSentClose = true := by
      by_contra hunsent
      exact hcalled (h.uncalled hok (by simpa using hunsent))
    obtain ⟨-, hqueue⟩ := h.sent hsent
    obtain ⟨done, hdone, hunder⟩ := h.going hok
    obtain rfl : done = requests := by simpa [hqueue] using hdone
    have hclean : collect Event.failed s.call.log = [] := by
      rcases hc.phase with ⟨-, hcode, -, -⟩ | ⟨hclean, -⟩ | ⟨hclean, -⟩ | ⟨-, hclean, -⟩ |
        ⟨-, hclean, -⟩
      · simp [Status.ok, hcode] at hok
      all_goals exact hclean
    exact hwhole (by simpa [hqueue, hsent, plan] using hunder) hclean
  | false =>
    rcases h.stopped hok with ⟨-, hunder, hclean⟩ | ⟨front, hhalts⟩
    · exact hwhole hunder hclean
    · have hinitial : front <+: plan requests := by
        rcases hhalts.initial with hmessages | ⟨-, rfl⟩
        · exact hmessages.trans (List.prefix_append _ _)
        · exact List.prefix_rfl
      obtain ⟨tag, hlast, hstatus⟩ := hhalts.status
      have htag := hhalts.halted.last
      rw [hlast] at htag
      have hrefused : told = (asyncRefusal tag, []) := by
        rw [hhalts.told told (by simp [htold]), hstatus]
      exact ⟨(hhalts.halted.of_initial hinitial).symm, .inr ⟨tag, htag, by rw [htold, hrefused]⟩⟩

end ends

end GrpcCbCore.Client.WriterImpl
