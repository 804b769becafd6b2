import GrpcCbCore.Client.SyncWriter
import GrpcCbCore.Client.WriterPlan

/-! The two writers of a client stream agree: given the same messages and answered alike,
they hand the same batches to grpc and tell the same result. -/
namespace GrpcCbCore.Client.SyncWriter
open GrpcCbCore.Library

def syncRefusal : CqTag → Status :=
  WriterImpl.refusal (lit "Failed to start client sync writer.")
    (lit "Failed to finish client-side streaming.")

@[simp] def closed : Event Note → Option (Status × StdString)
  | .note (.close status response) => some (status, response)
  | _ => none

/-- A writer that was given these messages: it goes on, or a batch was refused. -/
inductive Writing (grpc : Nat → Bool) (requests : List StdString) (d : Data) : Prop
  | going (hok : d.status.ok = true)
      (hunder : WriterImpl.Under grpc (WriterImpl.messages requests) d.call)
      (hunclosed : collect closed d.call.log = [])
  | halted (front : List CqTag) (tag : CqTag) (hinitial : front <+: WriterImpl.messages requests)
      (hhalted : Plan.Halted grpc front (collect WriterImpl.batch d.call.log))
      (hlast : front.getLast? = some tag) (hstatus : d.status = syncRefusal tag)
      (hunclosed : collect closed d.call.log = [])

section steps

variable {grpc : Nat → Bool} {requests : List StdString} {d t : Data}

private theorem syncRefusal_failed (tag : CqTag) : (syncRefusal tag).ok = false := by
  cases tag <;> exact Status.ok_internalError _

private theorem pluck_under {front : List CqTag} {call : Call Note}
    (h : WriterImpl.Under grpc front call) (tag : CqTag) (answer : Bool × Received) :
    WriterImpl.Under grpc front (call.pluck tag answer) :=
  h.same (by simp [Call.pluck]) rfl

private theorem construct_writing (grpc : Nat → Bool) (init : Bool × Received) :
    Writing grpc [] (clientSyncWriter grpc init) := by
  have hfresh : WriterImpl.Under grpc [] ({} : Call Note) := WriterImpl.under_fresh grpc
  unfold clientSyncWriter
  simp only [Data.startBatch, Call.startBatch_fst]
  rcases Bool.eq_false_or_eq_true (grpc 0) with hgrpc | hgrpc <;> simp only [hgrpc]
  · exact .going rfl (pluck_under (hfresh.start .clientSendInitMd hgrpc) _ init)
      (by simp [Data.pluck, Call.pluck])
  · exact .halted [.clientSendInitMd] .clientSendInitMd List.prefix_rfl
      (hfresh.refuse .clientSendInitMd hgrpc) rfl rfl (by simp [Data.setInternalError])

theorem Writing.of_ok (h : Writing grpc requests d) (hok : d.status.ok = true) :
    WriterImpl.Under grpc (WriterImpl.messages requests) d.call ∧
      collect closed d.call.log = [] := by
  obtain ⟨-, hunder, hunclosed⟩ | ⟨front, tag, -, -, -, hstatus, -⟩ := h
  · exact ⟨hunder, hunclosed⟩
  · simp [hstatus, syncRefusal_failed] at hok

private theorem write_writing (h : Writing grpc requests d) (request : StdString)
    (answer : Bool × Received) (hstep : step grpc d (.write request answer) = some t) :
    Writing grpc (requests ++ [request]) t := by
  obtain rfl := step_write hstep
  obtain ⟨hfailed, heq⟩ | ⟨hok, hgrpc, heq⟩ | ⟨hok, hgrpc, heq⟩ :=
    SyncWriterHelper.syncWrite_cases (fun _ => []) grpc request answer d.call d.status <;>
  simp only [write, heq]
  · obtain ⟨hok, -, -⟩ | ⟨front, tag, hinitial, hhalted, hlast, hstatus, hunclosed⟩ := h
    · simp [hfailed] at hok
    · refine .halted front tag ?_ (by simpa [Data.note] using hhalted) hlast hstatus
        (by simp [Data.note, hunclosed])
      rw [← WriterImpl.messages_snoc]
      exact hinitial.trans (List.prefix_append _ _)
  · obtain ⟨hunder, hunclosed⟩ := h.of_ok hok
    have hsent := pluck_under (hunder.start (.clientSendMsg request) hgrpc)
      (.clientSendMsg request) answer
    refine .going hok ?_ (by simp [Data.note, Call.pluck, hunclosed])
    rw [← WriterImpl.messages_snoc]
    exact hsent.same (by simp [Data.note]) rfl
  · obtain ⟨hunder, hunclosed⟩ := h.of_ok hok
    have hrefused := hunder.refuse (.clientSendMsg request) hgrpc
    rw [WriterImpl.messages_snoc] at hrefused
    refine .halted _ (.clientSendMsg request) List.prefix_rfl ?_ ?_ rfl ?_
    · simpa [Data.note] using hrefused
    · simp [← WriterImpl.messages_snoc]
    · simp [Data.note, hunclosed]

private theorem close_accepted (hok : d.status.ok = true) (hgrpc : grpc d.call.starts = true)
    {answer : Bool × Received} (hpresent : ¬ Missing answer.2) :
    ∃ told, WriterImpl.verdict answer.2 = some told ∧
      close grpc answer [] d = (some told, { d with
        call := (d.call.startBatch grpc .clientWriterClose).2.pluck .clientWriterClose answer
        status := told.1 }) := by
  unfold close
  rw [if_neg (by simp [hok])]
  simp only [Data.startBatch, Call.startBatch_fst, hgrpc]
  cases hreceived : answer.2.status.ok with
  | false => exact ⟨_, by simp [WriterImpl.verdict, hreceived]; rfl, by simp [Data.pluck]⟩
  | true =>
    cases hbuf : answer.2.recvBuf with
    | none => exact absurd ⟨hreceived, hbuf⟩ hpresent
    | some recvBuf =>
      exact ⟨_, by simp [WriterImpl.verdict, hreceived, hbuf]; rfl,
        by simp [getResponse, hbuf, Data.pluck]⟩

private theorem close_ends (h : Writing grpc requests d) {answer : Bool × Received}
    (hpresent : ¬ Missing answer.2) (hstep : step grpc d (.close answer []) = some t) :
    collect WriterImpl.batch t.call.log =
        Plan.carriedOut grpc 0 (WriterImpl.plan requests) ∧
      WriterImpl.Ends syncRefusal requests answer.2 (collect WriterImpl.batch t.call.log)
        (collect closed t.call.log) := by
  obtain ⟨hok, hunder, hunclosed⟩ | ⟨front, tag, hinitial, hhalted, hlast, hstatus, hunclosed⟩ := h
  · rcases Bool.eq_false_or_eq_true (grpc d.call.starts) with hgrpc | hgrpc
    · obtain ⟨told, hverdict, heq⟩ := close_accepted hok hgrpc hpresent
      obtain rfl := step_close_returns hstep heq
      have hwhole : WriterImpl.Under grpc (WriterImpl.plan requests) _ :=
        pluck_under (hunder.start .clientWriterClose hgrpc) .clientWriterClose answer
      simp only [Data.note, Call.note_log, collect_append]
      refine ⟨by simpa using hwhole.going.done.symm, .inl ⟨?_, ?_⟩⟩
      · simpa using hwhole.going.granted
      · simp [Call.pluck, hunclosed, hverdict]
    · have heq : close grpc answer [] d =
          (some (syncRefusal .clientWriterClose, []), { d with
            call := (d.call.startBatch grpc .clientWriterClose).2
            status := syncRefusal .clientWriterClose }) := by
        unfold close
        rw [if_neg (by simp [hok])]
        simp only [Data.startBatch, Call.startBatch_fst, hgrpc]
        rfl
      have hhalted := hunder.refuse .clientWriterClose hgrpc
      have hplan : Plan.carriedOut grpc 0 (WriterImpl.plan requests) = _ :=
        hhalted.of_initial List.prefix_rfl
      obtain rfl := step_close_returns hstep heq
      simp only [Data.note, Call.note_log, collect_append]
      refine ⟨?_, .inr ⟨.clientWriterClose, ?_, ?_⟩⟩
      · simpa using hplan.symm
      · simpa using hhalted.last
      · simp [hunclosed]
  · have hfailed : d.status.ok = false := by rw [hstatus, syncRefusal_failed]
    have heq : close grpc answer [] d = (some (syncRefusal tag, []), d) := by
      rw [close, if_pos (by simp [hfailed]), hstatus]
    have hplan : front <+: WriterImpl.plan requests := hinitial.trans (List.prefix_append _ _)
    have htag := hhalted.last
    rw [hlast] at htag
    obtain rfl := step_close_returns hstep heq
    simp only [Data.note, Call.note_log, collect_append]
    refine ⟨?_, .inr ⟨tag, ?_, ?_⟩⟩
    · simpa using (hhalted.of_initial hplan).symm
    · simpa using htag
    · simp [hunclosed]

private theorem run_ends {writes : List (StdString × (Bool × Received))} {answer : Bool × Received}
    (h : Writing grpc requests d) (hpresent : ¬ Missing answer.2)
    (hrun : (machine grpc).run d (writes.map (fun w => .write w.1 w.2) ++ [.close answer []]) =
      some t) :
    collect WriterImpl.batch t.call.log =
        Plan.carriedOut grpc 0 (WriterImpl.plan (requests ++ writes.map Prod.fst)) ∧
      WriterImpl.Ends syncRefusal (requests ++ writes.map Prod.fst) answer.2
        (collect WriterImpl.batch t.call.log) (collect closed t.call.log) := by
  induction writes generalizing d requests with
  | nil =>
    obtain ⟨u, hu, hrest⟩ := (Machine.run_cons _).mp hrun
    cases hrest
    rw [List.map_nil, List.append_nil]
    exact close_ends h hpresent hu
  | cons w writes ih =>
    obtain ⟨u, hu, hrest⟩ := (Machine.run_cons _).mp hrun
    simpa using ih (write_writing h w.1 w.2 hu) hrest

end steps

/-- Given the same messages and answered alike, the two writers hand the same batches to
grpc, whatever the order of the asynchronous one's calls and completions, as long as no
message batch comes back undelivered, and a close batch that brings an OK status brings a
message. They tell the same result, but for the text of a refused batch. -/
theorem writers_agree {grpc : Nat → Bool} {requests : List StdString}
    {ls : List WriterImpl.Label} {s : WriterImpl.Impl}
    (hrun : (WriterImpl.machine grpc).run (WriterImpl.clientAsyncWriterImpl grpc) ls = some s)
    (hcalls : collect WriterImpl.Label.call ls = requests.map some ++ [none])
    (hfirst : (collect WriterImpl.closeCall s.call.log).head? = some true)
    (hdelivers : (WriterImpl.machine grpc).Along WriterImpl.Delivers
      (WriterImpl.clientAsyncWriterImpl grpc) ls)
    (hrest : ∀ tag ∈ s.call.outstanding, tag.message? = none ∧ tag ≠ .clientWriterClose)
    {init : Bool × Received} {writes : List (StdString × (Bool × Received))}
    {answer : Bool × Received} {d : Data} (hwrites : writes.map Prod.fst = requests)
    (hanswer : ∀ r ∈ collect WriterImpl.closeReceived s.call.log, r = answer.2)
    (hpresent : answer.2.status.ok = true → answer.2.recvBuf.isSome = true)
    (hsync : (machine grpc).run (clientSyncWriter grpc init)
      (writes.map (fun w => .write w.1 w.2) ++ [.close answer []]) = some d) :
    collect WriterImpl.batch s.call.log = collect WriterImpl.batch d.call.log ∧
    ∃ status status' response,
      collect WriterImpl.closeCbCall s.call.log = [(status, response)] ∧
      collect closed d.call.log = [(status', response)] ∧
      (status = status' ∨ ∃ tag, (tag, false) ∈ collect WriterImpl.batch d.call.log ∧
        status = WriterImpl.asyncRefusal tag ∧ status' = syncRefusal tag) := by
  have hfound : ¬ Missing answer.2 := by
    rintro ⟨hok, hnone⟩
    simpa [hnone] using hpresent hok
  obtain ⟨told, htold⟩ : ∃ told, WriterImpl.verdict answer.2 = some told := by
    unfold WriterImpl.verdict
    split
    · next hok =>
      obtain ⟨recvBuf, hbuf⟩ := Option.isSome_iff_exists.mp (hpresent hok)
      exact ⟨_, by rw [hbuf]; rfl⟩
    · exact ⟨_, rfl⟩
  obtain ⟨l, -, hconstruct⟩ := WriterImpl.construct_refines grpc
  obtain ⟨l', -, hr⟩ := WriterImpl.run_refines hrun
  have hfollows := WriterImpl.run_follows hconstruct (WriterImpl.construct_closes grpc)
    (WriterImpl.construct_follows grpc) hcalls hdelivers hrun
  obtain ⟨hbatches, hends⟩ :=
    hfollows.ends hr (WriterImpl.run_closes hrun) hfirst hrest hanswer hfound
  obtain ⟨hbatches', hends'⟩ := run_ends (construct_writing grpc init) hfound hsync
  rw [List.nil_append] at hbatches hends hbatches' hends'
  rw [hwrites] at hbatches' hends'
  rw [WriterImpl.Ends, htold] at hends hends'
  have hsame : collect WriterImpl.batch s.call.log = collect WriterImpl.batch d.call.log :=
    hbatches.trans hbatches'.symm
  rw [hsame] at hends
  refine ⟨hsame, ?_⟩
  have hlast : ((WriterImpl.plan requests).map (·, true)).getLast? =
      some (.clientWriterClose, true) := by
    simp [WriterImpl.plan]
  rcases hends with ⟨hall, htold⟩ | ⟨tag, htag, htold⟩
  · rcases hends' with ⟨-, htold'⟩ | ⟨tag', htag', -⟩
    · exact ⟨_, _, _, htold, htold', .inl rfl⟩
    · rw [hall, hlast] at htag'
      cases htag'
  · rcases hends' with ⟨hall', -⟩ | ⟨tag', htag', htold'⟩
    · rw [hall', hlast] at htag
      cases htag
    · cases htag.symm.trans htag'
      exact ⟨_, _, _, htold, htold', .inr ⟨tag, List.mem_of_getLast? htag, rfl, rfl⟩⟩

/-- Two messages and a close, all called before the first message has been sent. -/
def aheadLabels : List WriterImpl.Label :=
  [.op (.write [1] []), .op (.write [2] []), .op (.close true []), .complete 1 true {} [],
    .complete 0 true {} [], .complete 0 true {} [],
    .complete 0 true { recvBuf := some (.readable [7]) } []]

def aheadWrites : List (StdString × (Bool × Received)) :=
  [([1], true, {}), ([2], true, {})]

theorem writers_agree_ahead :
    ∃ s d, (WriterImpl.machine fun _ => true).run
        (WriterImpl.clientAsyncWriterImpl fun _ => true) aheadLabels = some s ∧
      (machine fun _ => true).run (clientSyncWriter (fun _ => true) (true, {}))
        (aheadWrites.map (fun w => .write w.1 w.2) ++
          [.close (true, { recvBuf := some (.readable [7]) }) []]) = some d ∧
      collect WriterImpl.batch s.call.log = collect WriterImpl.batch d.call.log := by
  have hrun : (WriterImpl.machine fun _ => true).run
      (WriterImpl.clientAsyncWriterImpl fun _ => true) aheadLabels = some _ := rfl
  have hsync : (machine fun _ => true).run (clientSyncWriter (fun _ => true) (true, {}))
      (aheadWrites.map (fun w => .write w.1 w.2) ++
        [.close (true, { recvBuf := some (.readable [7]) }) []]) = some _ := rfl
  have hdelivers : (WriterImpl.machine fun _ => true).Along WriterImpl.Delivers
      (WriterImpl.clientAsyncWriterImpl fun _ => true) aheadLabels := by
    unfold aheadLabels
    iterate 7 rw [Machine.along_cons rfl]
    simp [WriterImpl.Delivers]
  exact ⟨_, _, hrun, hsync,
    (writers_agree hrun rfl rfl hdelivers (by decide) rfl (by decide) (by decide) hsync).1⟩

end GrpcCbCore.Client.SyncWriter
